import SurrealSync.Basic.Shutdown
import SurrealSync.Native.Handles

namespace surrealdb_rn_core

open Shutdown

/-! ### The two registries -/

/-- What `close` has done about the transactions. -/
def Close.transactions : Close → Phase Nat
  | .taking _ transaction transactions => .draining (transaction :: transactions)
  | .cancelling _ _ transactions => .draining transactions
  | .yielding _ => .finished
  | .returned _ => .finished
  | .failed => .finished
  | _ => .running

/-- What `close` has done about the live queries. -/
def Close.live_queries : Close → Phase Nat
  | .entered => .running
  | .locking _ => .running
  | .clearing _ => .running
  | .draining_live_queries _ => .running
  | .closing _ live_query live_queries => .draining (live_query :: live_queries)
  | _ => .finished

namespace World

variable (world : World)

def open_transactions : Set Nat := openSlots (fun slot => slot.inner = true) world.transactions

def open_live_queries : Set Nat := openSlots (fun slot => slot.stream = true) world.live_queries

def transaction_registry (phase : Phase Nat) : State Nat where
  opened := world.open_transactions
  published := { index | index ∈ world.held_transactions }
  registry := world.database.transactions
  phase

def live_query_registry (phase : Phase Nat) : State Nat where
  opened := world.open_live_queries
  published := { index | index ∈ world.held_live_queries }
  registry := world.database.live_queries
  phase

/-- A transaction was finished once when its slot is empty, and not at all before. -/
def FinishedOnce (slot : SurrealTransaction) : Prop := slot.finished.length = if slot.inner then 0 else 1

/-- The handle that a call is about to register was made. -/
def Made : Call → Prop
  | .begin_transaction (.registering transaction) => transaction < world.transactions.length
  | .live_query (.registering live_query) => live_query < world.live_queries.length
  | _ => True

/-- The handles, with the shutdowns of the two registries in these phases. -/
structure Intact (transactions live_queries : Phase Nat) : Prop where
  finished : ∀ slot ∈ world.transactions, FinishedOnce slot
  calls : ∀ call ∈ world.calls, world.Made call
  made_transactions : ∀ index ∈ world.held_transactions, index < world.transactions.length
  made_live_queries : ∀ index ∈ world.held_live_queries, index < world.live_queries.length
  transactions : (world.transaction_registry transactions).Covered
  live_queries : (world.live_query_registry live_queries).Covered

structure Invariant : Prop where
  closed : world.close ≠ .entered → world.database.closed = true
  intact : world.Intact world.close.transactions world.close.live_queries

variable {world}

theorem invariant_connected : Invariant connected where
  closed hclose := absurd rfl hclose
  intact :=
    { finished := by simp [connected]
      calls := by simp [connected]
      made_transactions := by simp [connected]
      made_live_queries := by simp [connected]
      transactions := fun _ hheld => absurd hheld List.not_mem_nil
      live_queries := fun _ hheld => absurd hheld List.not_mem_nil }

/-! ### Changes of one handle -/

/-- Handles are never forgotten. -/
theorem made_of_length {next : World} {call : Call} (hlengths : world.transactions.length ≤ next.transactions.length ∧
    world.live_queries.length ≤ next.live_queries.length) (hmade : world.Made call) : next.Made call := by
  unfold Made at hmade ⊢
  split at hmade
  · exact Nat.lt_of_lt_of_le hmade hlengths.1
  · exact Nat.lt_of_lt_of_le hmade hlengths.2
  · trivial

namespace Intact

variable {index : Nat} {transactions live_queries : Phase Nat}

theorem resume (hworld : world.Intact transactions live_queries) {call : Call} (hmade : world.Made call) :
    (world.resume index call).Intact transactions live_queries where
  __ := hworld
  calls other hother := by
    rcases List.mem_or_eq_of_mem_set hother with hother | rfl
    · exact hworld.calls other hother
    · exact hmade

theorem call (hworld : world.Intact transactions live_queries) {call : Call} (hmade : world.Made call) :
    (world.call call).Intact transactions live_queries where
  __ := hworld
  calls other hother := by
    rcases List.mem_append.mp hother with hother | hother
    · exact hworld.calls other hother
    · exact List.mem_singleton.mp hother ▸ hmade

theorem update_transaction (hworld : world.Intact transactions live_queries)
    {update : SurrealTransaction → SurrealTransaction} (hcloses : ∀ slot, (update slot).inner = true → slot.inner = true)
    (hfinished : ∀ slot ∈ world.transactions, world.transactions[index]? = some slot → FinishedOnce (update slot)) :
    (world.update_transaction index update).Intact transactions live_queries where
  __ := hworld
  finished slot hslot := by
    obtain ⟨other, hother⟩ := List.mem_iff_getElem?.mp hslot
    simp only [World.update_transaction, List.getElem?_modify] at hother
    obtain ⟨before, hbefore, rfl⟩ := Option.map_eq_some_iff.mp hother
    have hmem := List.mem_of_getElem? hbefore
    split
    · rename_i heq
      exact hfinished before hmem (heq ▸ hbefore)
    · exact hworld.finished before hmem
  calls other hother := made_of_length (by simp [World.update_transaction]) (hworld.calls other hother)
  made_transactions other hheld := by
    rw [World.update_transaction, List.length_modify]
    exact hworld.made_transactions other hheld
  transactions := hworld.transactions.shrink (openSlots_modify hcloses)

/-- Locks and flags do not finish a transaction. -/
theorem mark_transaction (hworld : world.Intact transactions live_queries)
    {update : SurrealTransaction → SurrealTransaction}
    (hkeeps : ∀ slot, (update slot).inner = slot.inner ∧ (update slot).finished = slot.finished) :
    (world.update_transaction index update).Intact transactions live_queries := by
  refine hworld.update_transaction (fun slot hinner => (hkeeps slot).1 ▸ hinner) (fun slot hslot _ => ?_)
  rw [FinishedOnce, (hkeeps slot).1, (hkeeps slot).2]
  exact hworld.finished slot hslot

theorem take_transaction (hworld : world.Intact transactions live_queries) {slot : SurrealTransaction}
    (hslot : world.transactions[index]? = some slot) (hinner : slot.inner = true) (finish : Finish) :
    (world.update_transaction index (·.take finish)).Intact transactions live_queries := by
  refine hworld.update_transaction (fun _ htaken => by cases htaken) (fun taken htaken hfound => ?_)
  cases hslot.symm.trans hfound
  have honce := hworld.finished slot htaken
  rw [FinishedOnce, if_pos hinner] at honce
  simp [FinishedOnce, SurrealTransaction.take, honce]

theorem update_live_query (hworld : world.Intact transactions live_queries) {update : LiveQuery → LiveQuery}
    (hcloses : ∀ slot, (update slot).stream = true → slot.stream = true) :
    (world.update_live_query index update).Intact transactions live_queries where
  __ := hworld
  calls other hother := made_of_length (by simp [World.update_live_query]) (hworld.calls other hother)
  made_live_queries other hheld := by
    rw [World.update_live_query, List.length_modify]
    exact hworld.made_live_queries other hheld
  live_queries := hworld.live_queries.shrink (openSlots_modify hcloses)

/-- A new handle is not held by anyone. -/
theorem create_transaction (hworld : world.Intact transactions live_queries) :
    Intact { world with transactions := world.transactions ++ [{}] } transactions live_queries where
  __ := hworld
  finished slot hslot := by
    rcases List.mem_append.mp hslot with hslot | hslot
    · exact hworld.finished slot hslot
    · cases List.mem_singleton.mp hslot
      rfl
  calls other hother := made_of_length (by simp) (hworld.calls other hother)
  made_transactions index hheld := by
    rw [List.length_append]
    exact Nat.lt_add_right 1 (hworld.made_transactions index hheld)
  transactions := by
    have hfresh : world.transactions.length ∉ (world.transaction_registry transactions).published :=
      fun hheld => Nat.lt_irrefl _ (hworld.made_transactions _ hheld)
    exact (hworld.transactions.create hfresh).shrink (openSlots_append _)

theorem create_live_query (hworld : world.Intact transactions live_queries) :
    Intact { world with live_queries := world.live_queries ++ [{}] } transactions live_queries where
  __ := hworld
  calls other hother := made_of_length (by simp) (hworld.calls other hother)
  made_live_queries index hheld := by
    rw [List.length_append]
    exact Nat.lt_add_right 1 (hworld.made_live_queries index hheld)
  live_queries := by
    have hfresh : world.live_queries.length ∉ (world.live_query_registry live_queries).published :=
      fun hheld => Nat.lt_irrefl _ (hworld.made_live_queries _ hheld)
    exact (hworld.live_queries.create hfresh).shrink (openSlots_append _)

theorem publish_transaction (hworld : world.Intact .running live_queries) {transaction : Nat}
    (hmade : transaction < world.transactions.length) :
    Intact { world with
      database := { world.database with transactions := world.database.transactions ++ [transaction] }
      held_transactions := world.held_transactions ++ [transaction] } .running live_queries where
  __ := hworld
  made_transactions index hheld := by
    rcases List.mem_append.mp hheld with hheld | hheld
    · exact hworld.made_transactions index hheld
    · exact List.mem_singleton.mp hheld ▸ hmade
  transactions := by
    have hcovered := @State.Covered.publish _ _ transaction hworld.transactions rfl
    intro index hheld hopened
    exact hcovered index (by simpa [State.publish, transaction_registry, or_comm] using hheld) hopened

theorem publish_live_query (hworld : world.Intact transactions .running) {live_query : Nat}
    (hmade : live_query < world.live_queries.length) :
    Intact { world with
      database := { world.database with live_queries := world.database.live_queries ++ [live_query] }
      held_live_queries := world.held_live_queries ++ [live_query] } transactions .running where
  __ := hworld
  made_live_queries index hheld := by
    rcases List.mem_append.mp hheld with hheld | hheld
    · exact hworld.made_live_queries index hheld
    · exact List.mem_singleton.mp hheld ▸ hmade
  live_queries := by
    have hcovered := @State.Covered.publish _ _ live_query hworld.live_queries rfl
    intro index hheld hopened
    exact hcovered index (by simpa [State.publish, live_query_registry, or_comm] using hheld) hopened

end Intact

/-! ### The segments of the calls -/

section Calls

variable {after : World} {index : Nat} {answer : Bool}

/-- A transaction is registered by a call that still finds the database open. -/
theorem Invariant.begin_transaction (hworld : world.Invariant) {at_ : BeginTransaction}
    (hcall : world.calls[index]? = some (.begin_transaction at_))
    (hstep : world.begin_transaction index answer at_ = some after) : after.Invariant := by
  obtain ⟨hclosed, hintact⟩ := hworld
  cases at_ with
  | entered =>
    simp only [World.begin_transaction] at hstep
    split at hstep <;> cases hstep <;> exact ⟨hclosed, hintact.resume trivial⟩
  | reading =>
    simp only [World.begin_transaction] at hstep
    split at hstep <;> cases hstep <;> exact ⟨hclosed, hintact.resume trivial⟩
  | beginning =>
    simp only [World.begin_transaction] at hstep
    split at hstep
    · cases hstep
      exact ⟨hclosed, hintact.create_transaction.resume (show _ < _ by simp)⟩
    · cases hstep
      exact ⟨hclosed, hintact.resume trivial⟩
  | registering transaction =>
    simp only [World.begin_transaction] at hstep
    split at hstep
    · cases hstep
      refine ⟨hclosed, Intact.resume ?_ trivial⟩
      exact hintact.mark_transaction fun _ => ⟨rfl, rfl⟩
    · rename_i hopen
      cases hstep
      have hentered : world.close = .entered := by
        by_contra hclose
        exact hopen (hclosed hclose)
      rw [hentered] at hintact
      have hpublished := hintact.publish_transaction (hintact.calls _ (List.mem_of_getElem? hcall))
      have hresumed := @Intact.resume _ index _ _ hpublished (.begin_transaction .returned) trivial
      refine ⟨fun hclose => absurd hentered hclose, ?_⟩
      simp only [World.resume, hentered]
      exact { hresumed with }
  | locking transaction =>
    simp only [World.begin_transaction] at hstep
    obtain ⟨slot, hslot, hstep⟩ := Option.bind_eq_some_iff.mp hstep
    split at hstep
    · cases hstep
    · split at hstep
      · rename_i hinner
        cases hstep
        exact ⟨hclosed, (hintact.take_transaction hslot hinner .cancel).resume trivial⟩
      · cases hstep
        exact ⟨hclosed, hintact.resume trivial⟩
  | cancelling transaction =>
    cases hstep
    refine ⟨hclosed, Intact.resume ?_ trivial⟩
    exact hintact.mark_transaction fun _ => ⟨rfl, rfl⟩
  | returned => cases hstep

/-- A live query is registered at any time: here it matters that `close` has not emptied the registry. -/
theorem Invariant.live_query (hworld : world.Invariant) {at_ : StartLiveQuery}
    (hcall : world.calls[index]? = some (.live_query at_))
    (htime : ∀ live_query, at_ = .registering live_query → world.close.live_queries = .running)
    (hstep : world.live_query index answer at_ = some after) : after.Invariant := by
  obtain ⟨hclosed, hintact⟩ := hworld
  cases at_ with
  | entered =>
    simp only [World.live_query] at hstep
    split at hstep <;> cases hstep <;> exact ⟨hclosed, hintact.resume trivial⟩
  | reading =>
    simp only [World.live_query] at hstep
    split at hstep <;> cases hstep <;> exact ⟨hclosed, hintact.resume trivial⟩
  | querying =>
    simp only [World.live_query] at hstep
    split at hstep
    · cases hstep
      exact ⟨hclosed, hintact.create_live_query.resume (show _ < _ by simp)⟩
    · cases hstep
      exact ⟨hclosed, hintact.resume trivial⟩
  | registering live_query =>
    cases hstep
    have hrunning := htime live_query rfl
    rw [hrunning] at hintact
    have hpublished := hintact.publish_live_query (hintact.calls _ (List.mem_of_getElem? hcall))
    have hresumed := @Intact.resume _ index _ _ hpublished (.live_query .returned) trivial
    refine ⟨hclosed, ?_⟩
    simp only [World.resume, hrunning]
    exact { hresumed with }
  | returned => cases hstep

theorem Invariant.query (hworld : world.Invariant) {transaction : Nat} {at_ : Use}
    (hstep : world.query index transaction at_ = some after) : after.Invariant := by
  obtain ⟨hclosed, hintact⟩ := hworld
  cases at_ with
  | entered =>
    simp only [World.query] at hstep
    obtain ⟨slot, hslot, hstep⟩ := Option.bind_eq_some_iff.mp hstep
    split at hstep <;> cases hstep <;> exact ⟨hclosed, hintact.resume trivial⟩
  | locking =>
    simp only [World.query] at hstep
    obtain ⟨slot, hslot, hstep⟩ := Option.bind_eq_some_iff.mp hstep
    split at hstep
    · cases hstep
    · split at hstep
      · cases hstep
        refine ⟨hclosed, Intact.resume ?_ trivial⟩
        exact hintact.mark_transaction fun _ => ⟨rfl, rfl⟩
      · cases hstep
        exact ⟨hclosed, hintact.resume trivial⟩
  | working =>
    cases hstep
    refine ⟨hclosed, Intact.resume ?_ trivial⟩
    exact hintact.mark_transaction fun _ => ⟨rfl, rfl⟩
  | returned => cases hstep

theorem Invariant.finish (hworld : world.Invariant) {transaction : Nat} {finish : Finish} {at_ : Use}
    (hstep : world.finish index transaction finish at_ = some after) : after.Invariant := by
  obtain ⟨hclosed, hintact⟩ := hworld
  cases at_ with
  | entered =>
    cases hstep
    refine ⟨hclosed, Intact.resume ?_ trivial⟩
    exact hintact.mark_transaction fun _ => ⟨rfl, rfl⟩
  | locking =>
    simp only [World.finish] at hstep
    obtain ⟨slot, hslot, hstep⟩ := Option.bind_eq_some_iff.mp hstep
    split at hstep
    · cases hstep
    · split at hstep
      · rename_i hinner
        cases hstep
        exact ⟨hclosed, (hintact.take_transaction hslot hinner finish).resume trivial⟩
      · cases hstep
        exact ⟨hclosed, hintact.resume trivial⟩
  | working =>
    cases hstep
    refine ⟨hclosed, Intact.resume ?_ trivial⟩
    exact hintact.mark_transaction fun _ => ⟨rfl, rfl⟩
  | returned => cases hstep

theorem Invariant.next (hworld : world.Invariant) {live_query : Nat} {at_ : Use}
    (hstep : world.next index live_query answer at_ = some after) : after.Invariant := by
  obtain ⟨hclosed, hintact⟩ := hworld
  cases at_ with
  | entered =>
    simp only [World.next] at hstep
    obtain ⟨slot, hslot, hstep⟩ := Option.bind_eq_some_iff.mp hstep
    split at hstep <;> cases hstep <;> exact ⟨hclosed, hintact.resume trivial⟩
  | locking =>
    simp only [World.next] at hstep
    obtain ⟨slot, hslot, hstep⟩ := Option.bind_eq_some_iff.mp hstep
    split at hstep
    · cases hstep
    · split at hstep
      · cases hstep
        exact ⟨hclosed, hintact.resume trivial⟩
      · cases hstep
        refine ⟨hclosed, Intact.resume ?_ trivial⟩
        exact hintact.update_live_query fun _ hstream => hstream
  | working =>
    simp only [World.next] at hstep
    split at hstep
    · cases hstep
      refine ⟨hclosed, Intact.resume ?_ trivial⟩
      exact hintact.update_live_query fun _ hstream => hstream
    · cases hstep
      refine ⟨hclosed, Intact.resume ?_ trivial⟩
      exact hintact.update_live_query fun _ hstream => by cases hstream
  | returned => cases hstep

theorem Invariant.close_live_query (hworld : world.Invariant) {live_query : Nat} {at_ : Use}
    (hstep : world.close_live_query index live_query at_ = some after) : after.Invariant := by
  obtain ⟨hclosed, hintact⟩ := hworld
  cases at_ with
  | entered =>
    cases hstep
    refine ⟨hclosed, Intact.resume ?_ trivial⟩
    exact hintact.update_live_query fun _ hstream => hstream
  | locking =>
    simp only [World.close_live_query] at hstep
    obtain ⟨slot, hslot, hstep⟩ := Option.bind_eq_some_iff.mp hstep
    split at hstep
    · cases hstep
    · cases hstep
      refine ⟨hclosed, Intact.resume ?_ trivial⟩
      exact hintact.update_live_query fun _ hstream => by cases hstream
  | working => cases hstep
  | returned => cases hstep

end Calls

/-! ### The segments of `close` -/

section Closing

variable {after : World} {answer : Bool} {session : Bool} {transactions live_queries : Phase Nat}

/-- The loop over the live queries goes on with these. -/
theorem Intact.close_live_queries {left : List Nat} (hclosed : world.database.closed = true)
    (hworld : world.Intact .running (.draining left)) : (world.close_live_queries session left).Invariant := by
  cases left with
  | nil =>
    have hfinished := hworld.live_queries.finish rfl (by simp)
    exact ⟨fun _ => hclosed, { hworld with live_queries := hfinished }⟩
  | cons live_query live_queries =>
    have hmarked : (world.update_live_query live_query .request_close).Intact _ _ :=
      hworld.update_live_query fun _ hstream => hstream
    exact ⟨fun _ => hclosed, { hmarked with }⟩

/-- The loop over the transactions goes on with these. -/
theorem Intact.cancel_transactions {left : List Nat} (hclosed : world.database.closed = true)
    (hworld : world.Intact (.draining left) .finished) : (world.cancel_transactions session left).Invariant := by
  cases left with
  | nil =>
    have hfinished := hworld.transactions.finish rfl (by simp)
    exact ⟨fun _ => hclosed, { hworld with transactions := hfinished }⟩
  | cons transaction transactions =>
    have hmarked : (world.update_transaction transaction .mark_closed).Intact _ _ :=
      hworld.mark_transaction fun _ => ⟨rfl, rfl⟩
    exact ⟨fun _ => hclosed, { hmarked with }⟩

theorem reserve_session_change_registries (database : SurrealDatabase) :
    database.reserve_session_change.1.live_queries = database.live_queries ∧
      database.reserve_session_change.1.transactions = database.transactions ∧
      (database.closed = true → database.reserve_session_change.1.closed = true) := by
  unfold SurrealDatabase.reserve_session_change
  split
  · exact ⟨rfl, rfl, id⟩
  · exact ⟨rfl, rfl, fun _ => rfl⟩

/-- The session and the client slot do not touch the registries. -/
theorem Intact.enter {close : Close} {database : SurrealDatabase}
    (hworld : world.Intact close.transactions close.live_queries) (hclosed : database.closed = true)
    (hlive_queries : database.live_queries = world.database.live_queries)
    (htransactions : database.transactions = world.database.transactions) :
    Invariant { world with database, close } where
  closed := fun _ => hclosed
  intact :=
    { hworld with
      transactions := by
        have hcovered := hworld.transactions
        rw [transaction_registry, ← htransactions] at hcovered
        exact hcovered
      live_queries := by
        have hcovered := hworld.live_queries
        rw [live_query_registry, ← hlive_queries] at hcovered
        exact hcovered }

/-- A cancel that fails ends the loop: here it matters that the transactions that are left were taken already. -/
theorem Invariant.closing (hworld : world.Invariant)
    (hcancels : ∀ session transaction left, world.close = .cancelling session transaction left → answer = false →
      ∀ other ∈ left, other ∉ world.open_transactions)
    (hstep : world.closing answer = some after) : after.Invariant := by
  obtain ⟨hclosed, hintact⟩ := hworld
  unfold World.closing at hstep
  split at hstep
  · rename_i hclose
    obtain ⟨hlive_queries, htransactions, _⟩ := reserve_session_change_registries world.database
    rw [hclose] at hintact
    cases hstep
    exact @Intact.enter _ (.locking _) _ hintact rfl hlive_queries htransactions
  · rename_i session hclose
    have hmarked : world.database.closed = true := hclosed (by simp [hclose])
    obtain ⟨hlive_queries, htransactions, hkept⟩ := reserve_session_change_registries world.database
    rw [hclose] at hintact
    cases session <;> cases hstep
    · exact @Intact.enter _ (.clearing _) _ hintact hmarked rfl rfl
    · exact @Intact.enter _ (.clearing _) _ hintact (hkept hmarked) hlive_queries htransactions
  · rename_i session hclose
    have hmarked : world.database.closed = true := hclosed (by simp [hclose])
    rw [hclose] at hintact
    cases hstep
    exact @Intact.enter _ (.draining_live_queries _) _ hintact hmarked rfl rfl
  · rename_i session hclose
    have hmarked : world.database.closed = true := hclosed (by simp [hclose])
    rw [hclose] at hintact
    cases hstep
    have hdrained := hintact.live_queries.drain rfl
    exact Intact.close_live_queries hmarked { hintact with live_queries := hdrained }
  · rename_i session live_query left hclose
    have hmarked : world.database.closed = true := hclosed (by simp [hclose])
    rw [hclose] at hintact
    obtain ⟨slot, hslot, hstep⟩ := Option.bind_eq_some_iff.mp hstep
    split at hstep
    · cases hstep
    · cases hstep
      have htaken : (world.update_live_query live_query .take).Intact _ _ :=
        hintact.update_live_query fun _ hstream => by cases hstream
      have hnext := htaken.live_queries.next rfl (not_mem_openSlots_modify fun _ hstream => by cases hstream)
      exact Intact.close_live_queries hmarked { htaken with live_queries := hnext }
  · rename_i session hclose
    have hmarked : world.database.closed = true := hclosed (by simp [hclose])
    rw [hclose] at hintact
    cases hstep
    have hdrained := hintact.transactions.drain rfl
    exact Intact.cancel_transactions hmarked { hintact with transactions := hdrained }
  · rename_i session transaction left hclose
    have hmarked : world.database.closed = true := hclosed (by simp [hclose])
    rw [hclose] at hintact
    obtain ⟨slot, hslot, hstep⟩ := Option.bind_eq_some_iff.mp hstep
    split at hstep
    · cases hstep
    · split at hstep
      · rename_i hinner
        cases hstep
        have htaken := hintact.take_transaction hslot hinner .cancel
        have hnext := htaken.transactions.next rfl (not_mem_openSlots_modify fun _ hinner => by cases hinner)
        have hleft : (world.update_transaction transaction (·.take .cancel)).Intact _ _ :=
          { htaken with transactions := hnext }
        exact @Intact.enter _ (.cancelling session transaction left) _ hleft hmarked rfl rfl
      · rename_i hinner
        cases hstep
        have hnext := hintact.transactions.next rfl (not_mem_openSlots hslot hinner)
        exact Intact.cancel_transactions hmarked { hintact with transactions := hnext }
  · rename_i session transaction left hclose
    have hmarked : world.database.closed = true := hclosed (by simp [hclose])
    rw [hclose] at hintact
    have hunlocked : (world.update_transaction transaction .unlock).Intact (.draining left) .finished :=
      hintact.mark_transaction fun _ => ⟨rfl, rfl⟩
    split at hstep
    · cases hstep
      exact Intact.cancel_transactions hmarked hunlocked
    · rename_i hfails
      cases hstep
      have htaken := hcancels session transaction left hclose (by simpa using hfails)
      have hsame : (world.update_transaction transaction .unlock).open_transactions ⊆ world.open_transactions :=
        openSlots_modify fun _ hinner => hinner
      have hfinished := hunlocked.transactions.finish rfl fun other hother hopened => htaken other hother (hsame hopened)
      have hleft : (world.update_transaction transaction .unlock).Intact _ _ :=
        { hunlocked with transactions := hfinished }
      exact @Intact.enter _ .failed _ hleft hmarked rfl rfl
  · rename_i session hclose
    have hmarked : world.database.closed = true := hclosed (by simp [hclose])
    rw [hclose] at hintact
    cases hstep
    exact @Intact.enter _ (.returned _) _ hintact hmarked rfl rfl
  · cases hstep
  · cases hstep

end Closing

end World

/-! ### Interleavings -/

/-- A live query is registered before `close` empties their registry. -/
def RegistersInTime (world : World) : Move → Prop
  | .advance index _ =>
    match world.calls[index]? with
    | some (.live_query (.registering _)) => world.close.live_queries = .running
    | _ => True
  | _ => True

instance (world : World) : DecidablePred (RegistersInTime world) := by
  intro move
  unfold RegistersInTime
  split
  · split <;> infer_instance
  · infer_instance

/-- No cancel of `close` fails while transactions that it has still to cancel are open. -/
def CancelsAll (world : World) : Move → Prop
  | .close false =>
    match world.close with
    | .cancelling _ _ left => ∀ other ∈ left, ∀ slot ∈ world.transactions[other]?, slot.inner = false
    | _ => True
  | _ => True

instance (world : World) : DecidablePred (CancelsAll world) := by
  intro move
  unfold CancelsAll
  split
  · split <;> infer_instance
  · infer_instance

theorem invariant_step {world next : World} {move : Move} (hworld : world.Invariant)
    (hregisters : RegistersInTime world move) (hcancels : CancelsAll world move)
    (hstep : Interleaving world move next) : next.Invariant := by
  unfold Interleaving World.step at hstep
  split at hstep
  · cases hstep
    exact ⟨hworld.closed, hworld.intact.call trivial⟩
  · cases hstep
    exact ⟨hworld.closed, hworld.intact.call trivial⟩
  · split at hstep <;> cases hstep
    exact ⟨hworld.closed, hworld.intact.call trivial⟩
  · split at hstep <;> cases hstep
    exact ⟨hworld.closed, hworld.intact.call trivial⟩
  · split at hstep <;> cases hstep
    exact ⟨hworld.closed, hworld.intact.call trivial⟩
  · split at hstep <;> cases hstep
    exact ⟨hworld.closed, hworld.intact.call trivial⟩
  · rename_i index answer
    obtain ⟨call, hcall, hadvance⟩ := Option.bind_eq_some_iff.mp hstep
    cases call with
    | begin_transaction at_ => exact hworld.begin_transaction hcall hadvance
    | live_query at_ =>
      refine hworld.live_query hcall ?_ hadvance
      rintro live_query rfl
      simpa only [RegistersInTime, hcall] using hregisters
    | query transaction at_ => exact hworld.query hadvance
    | finish transaction finish at_ => exact hworld.finish hadvance
    | next live_query at_ => exact hworld.next hadvance
    | close_live_query live_query at_ => exact hworld.close_live_query hadvance
  · rename_i answer
    refine hworld.closing ?_ hstep
    rintro session transaction left hclose rfl other hother ⟨slot, hslot, hinner⟩
    simp only [CancelsAll, hclose] at hcancels
    have htaken := hcancels other hother slot hslot
    rw [hinner] at htaken
    cases htaken

/-- Every handle that a caller holds was taken. -/
structure World.AllClosed (world : World) : Prop where
  transactions : ∀ transaction ∈ world.held_transactions, ∃ slot, world.transactions[transaction]? = some slot ∧
    slot.inner = false
  live_queries : ∀ live_query ∈ world.held_live_queries, ∃ slot, world.live_queries[live_query]? = some slot ∧
    slot.stream = false

theorem World.Invariant.all_closed {world : World} (hworld : world.Invariant)
    (htransactions : world.close.transactions = .finished) (hlive_queries : world.close.live_queries = .finished) :
    world.AllClosed where
  transactions transaction hheld := by
    have hclosed := hworld.intact.transactions.closed htransactions hheld
    obtain ⟨slot, hslot, hinner⟩ := exists_closed_slot (hworld.intact.made_transactions transaction hheld) hclosed
    exact ⟨slot, hslot, eq_false_of_ne_true hinner⟩
  live_queries live_query hheld := by
    have hclosed := hworld.intact.live_queries.closed hlive_queries hheld
    obtain ⟨slot, hslot, hstream⟩ := exists_closed_slot (hworld.intact.made_live_queries live_query hheld) hclosed
    exact ⟨slot, hslot, eq_false_of_ne_true hstream⟩

/-- `close` has returned, early or not. -/
def Close.Completed : Close → Prop
  | .returned _ => True
  | .failed => True
  | _ => False

instance : DecidablePred Close.Completed := by
  intro close
  unfold Close.Completed
  split <;> infer_instance

/-- Handles are finished at most once, and after `close` all of them are closed. -/
structure World.ClosesHandles (world : World) : Prop where
  finished : ∀ slot ∈ world.transactions, World.FinishedOnce slot
  closed : world.close.Completed → world.AllClosed

theorem World.Invariant.closes_handles {world : World} (hworld : world.Invariant) : world.ClosesHandles where
  finished := hworld.intact.finished
  closed hcompleted := by
    unfold Close.Completed at hcompleted
    split at hcompleted
    · rename_i hclose
      exact hworld.all_closed (by rw [hclose]; rfl) (by rw [hclose]; rfl)
    · rename_i hclose
      exact hworld.all_closed (by rw [hclose]; rfl) (by rw [hclose]; rfl)
    · exact absurd hcompleted not_false

/-- Closing the database closes every handle, in every interleaving that registers live queries in time and whose
cancels do not end the loop early. -/
theorem close_closes_handles {edges : List (Trace.Edge World Move)} {world : World}
    (hrun : Trace.Run Interleaving .connected edges world)
    (hmoves : ∀ edge ∈ edges, RegistersInTime edge.source edge.label ∧ CancelsAll edge.source edge.label) :
    world.ClosesHandles := by
  have hworld : world.Invariant := by
    refine hrun.preserves_along (fun edge hedge hsource => ?_) World.invariant_connected
    obtain ⟨hregisters, hcancels⟩ := hmoves edge hedge
    exact invariant_step hsource hregisters hcancels (hrun.step_of_mem hedge)
  exact hworld.closes_handles

/-- A transaction and a live query that are there when the database is closed. -/
theorem close_closes_both : ∃ edges world, Trace.Run Interleaving .connected edges world ∧
    world.held_transactions = [0] ∧ world.held_live_queries = [0] ∧ world.close = .returned true ∧
      world.ClosesHandles := by
  obtain ⟨⟨edges, world⟩, hexecute, hlast⟩ : ∃ executed, Trace.execute World.step .connected
      ([.begin_transaction, .live_query] ++ List.replicate 4 (.advance 0 true) ++ List.replicate 4 (.advance 1 true) ++
        List.replicate 9 (.close true)) = some executed ∧
      (∀ edge ∈ executed.1, RegistersInTime edge.source edge.label ∧ CancelsAll edge.source edge.label) ∧
      executed.2.held_transactions = [0] ∧ executed.2.held_live_queries = [0] ∧ executed.2.close = .returned true :=
    Trace.exists_of_any (by decide +kernel)
  obtain ⟨hmoves, htransactions, hlive_queries, hclose⟩ := hlast
  have hrun := Trace.run_of_execute hexecute
  exact ⟨edges, world, hrun, htransactions, hlive_queries, hclose, close_closes_handles hrun hmoves⟩

/-- A live query whose call was in the engine while the database was closed stays open. -/
theorem live_query_outlives_close : ∃ edges world, Trace.Run Interleaving .connected edges world ∧
    world.close = .returned true ∧ ¬ world.ClosesHandles := by
  obtain ⟨⟨edges, world⟩, hexecute, hclose, hheld, hslot⟩ : ∃ executed, Trace.execute World.step .connected
      ([.live_query, .advance 0 true, .advance 0 true] ++ List.replicate 6 (.close true) ++
        List.replicate 2 (.advance 0 true)) = some executed ∧
      executed.2.close = .returned true ∧ executed.2.held_live_queries = [0] ∧
        executed.2.live_queries = [{}] :=
    Trace.exists_of_any (by decide +kernel)
  refine ⟨edges, world, Trace.run_of_execute hexecute, hclose, fun hcloses => ?_⟩
  have hcompleted : world.close.Completed := by
    rw [hclose]
    trivial
  obtain ⟨slot, hfound, hclosed⟩ := (hcloses.closed hcompleted).live_queries 0 (by rw [hheld]; exact List.mem_singleton_self 0)
  rw [hslot] at hfound
  cases hfound
  cases hclosed

end surrealdb_rn_core
