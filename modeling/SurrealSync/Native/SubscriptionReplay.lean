import SurrealSync.Client.Session
import SurrealSync.Client.WindowMoves
import SurrealSync.Native.ReadReplay
import SurrealSync.Native.SubscriptionJournal

open Std
open surrealdb_sync_client surrealdb_rn_core.sync_read
open surrealdb_sync_protocol.subscription
open BoundedJournal (Consecutive)

namespace surrealdb_rn_core.sync_subscription

variable {V : Type} [DecidableEq V]

/-! ### What a history keeps -/

/-- The batch is labelled with its revisions, and carries the frame of a runtime of its revision. -/
structure Recorded (past : List (ClientRuntime V)) (id : String) (kept : Batch V) : Prop where
  before : kept.json.before_revision = kept.before.to_string
  revision : kept.json.revision = kept.revision.to_string
  frame : ∃ runtime ∈ past, runtime.state.revision = kept.revision ∧ frame runtime id = .ok kept.json.frame

theorem Recorded.mono {past more : List (ClientRuntime V)} (hsubset : past ⊆ more) {id : String} {kept : Batch V}
    (hrecorded : Recorded past id kept) : Recorded more id kept := by
  obtain ⟨runtime, hmem, hframe⟩ := hrecorded.frame
  exact ⟨hrecorded.before, hrecorded.revision, runtime, hsubset hmem, hframe⟩

/-- Batches of one revision each, that lead from one revision to another. -/
abbrev Steps (start : Nat) (batches : List (Batch V)) (stop : Nat) : Prop :=
  Consecutive (fun batch : Batch V => batch.before.toNat) (fun batch => batch.revision.toNat) start batches stop

namespace History

/-- The batches of a history lead up to the present revision, and its bytes are counted. -/
structure Sound (past : List (ClientRuntime V)) (current : UInt64) (id : String) (history : History V) : Prop where
  steps : ∃ start, Steps start history.batches current.toNat
  recorded : ∀ kept ∈ history.batches, Recorded past id kept
  bytes : history.bytes = total history.batches
  count : history.batches.length ≤ MAX_BATCHES
  within : history.bytes ≤ MAX_QUERY_BYTES

variable {past more : List (ClientRuntime V)} {current : UInt64} {id : String} {history : History V}

theorem sound_default : (default : History V).Sound past current id where
  steps := ⟨current.toNat, rfl⟩
  recorded := by simp [default]
  bytes := rfl
  count := Nat.zero_le _
  within := Nat.zero_le _

theorem Sound.mono (hsubset : past ⊆ more) (hsound : history.Sound past current id) :
    history.Sound more current id :=
  { hsound with recorded := fun kept hkept => (hsound.recorded kept hkept).mono hsubset }

/-- The frame of the next revision is recorded, or the history starts again. -/
theorem Sound.record (output : BatchJson V → Except NativeSyncError Nat) {runtime : ClientRuntime V} {before : UInt64}
    (hsound : history.Sound past before id) (hsubset : past ⊆ more) (hmem : runtime ∈ more)
    (hnext : runtime.state.revision.toNat = before.toNat + 1) :
    (history.record output runtime before id).Sound more runtime.state.revision id := by
  unfold History.record
  dsimp only
  split
  · exact sound_default
  · rename_i value length hencoded
    obtain ⟨json, hjson, hencoded⟩ := Except.bind_eq_ok_iff.mp hencoded
    obtain ⟨size, _, hpair⟩ := Except.bind_eq_ok_iff.mp hencoded
    cases hpair
    obtain ⟨found, hfound, hvalue⟩ := Except.bind_eq_ok_iff.mp hjson
    cases hvalue
    split
    · exact sound_default
    · rename_i hfits
      obtain ⟨count, hroom, hcount, hroomy⟩ := @BoundedJournal.makeRoom_spec (Batch V) Batch.length MAX_BATCHES
        MAX_QUERY_BYTES length history.bytes history.batches hsound.bytes (by decide) (Nat.not_lt.mp hfits)
      obtain ⟨start, hsteps⟩ := hsound.steps
      obtain ⟨middle, hkept⟩ := hsteps.drop count
      simp only [make_room, hroom]
      constructor
      · exact ⟨middle, hkept.append ⟨rfl, hnext, hnext.symm⟩⟩
      · intro kept hmem'
        rcases List.mem_append.mp hmem' with hold | hnew
        · exact (hsound.recorded kept (List.mem_of_mem_drop hold)).mono hsubset
        · cases List.mem_singleton.mp hnew
          exact ⟨rfl, rfl, runtime, hmem, rfl, hfound⟩
      · simp [total, BoundedJournal.total]
      · rw [List.length_append, List.length_singleton]
        exact hcount
      · exact hroomy

theorem Sound.pop_front (hsound : history.Sound past current id) : history.pop_front.Sound past current id := by
  obtain ⟨start, hsteps⟩ := hsound.steps
  have hbytes := hsound.bytes
  have hcount := hsound.count
  have hwithin := hsound.within
  have hexact : history.pop_front.bytes = total history.pop_front.batches := by
    unfold History.pop_front total
    rw [hbytes, total]
    cases history.batches with
    | nil => rfl
    | cons old batches => exact BoundedJournal.total_cons_sub old
  refine ⟨?_, fun kept hkept => hsound.recorded kept (List.mem_of_mem_tail hkept), hexact, ?_, ?_⟩
  · rw [History.pop_front, ← List.drop_one]
    exact hsteps.drop 1
  · rw [History.pop_front, List.length_tail]
    omega
  · exact Nat.le_trans (Nat.sub_le _ _) hwithin

end History

/-! ### The subscriptions of a state -/

omit [DecidableEq V] in
theorem mem_ids_iff {windows : DurableSubscriptions V} {id : String} :
    id ∈ SubscriptionJournal.ids windows ↔
      id ∈ windows.requests ∨ id ∈ windows.cancelled ∨ id ∈ windows.slots := by
  rw [SubscriptionJournal.ids, ExtTreeSet.mem_toList, BTreeSet.mem_ofList_iff]
  simp only [List.mem_append, ExtTreeMap.mem_keys, or_assoc]

/-- A subscription that a state knows stays known. -/
theorem ids_of_step {before after : ClientRuntime V} {transition : Transition V} (hstep : Step before transition after)
    {id : String} (hid : id ∈ SubscriptionJournal.ids before.state.windows) :
    id ∈ SubscriptionJournal.ids after.state.windows := by
  rw [mem_ids_iff] at hid ⊢
  cases hstep.windows with
  | kept hkept =>
    rw [hkept]
    exact hid
  | @started request _ _ _ hwindows =>
    rw [hwindows]
    change id ∈ before.state.windows.requests.insert _ request ∨ id ∈ before.state.windows.cancelled ∨
      id ∈ before.state.windows.slots.erase _
    rw [ExtTreeMap.mem_insert, ExtTreeMap.mem_erase]
    by_cases hsame : compare request.command.identity.1 id = .eq
    · exact .inl (.inl hsame)
    · rcases hid with hrequest | hcancelled | hslot
      · exact .inl (.inr hrequest)
      · exact .inr (.inl hcancelled)
      · exact .inr (.inr ⟨hsame, hslot⟩)
  | @cancelled other generation _ hwindows =>
    rw [hwindows]
    change id ∈ before.state.windows.requests.erase _ ∨ id ∈ before.state.windows.cancelled.insert _ _ ∨
      id ∈ before.state.windows.slots.erase _
    rw [ExtTreeMap.mem_insert, ExtTreeMap.mem_erase, ExtTreeMap.mem_erase]
    by_cases hsame : compare other id = .eq
    · exact .inr (.inl (.inl hsame))
    · rcases hid with hrequest | hcancelled | hslot
      · exact .inl ⟨hsame, hrequest⟩
      · exact .inr (.inl (.inr hcancelled))
      · exact .inr (.inr ⟨hsame, hslot⟩)
  | @shown response token rows request _ _ hinstalled =>
    rw [hinstalled.requests, hinstalled.cancelled, hinstalled.slots, ExtTreeMap.mem_insert]
    exact hid.imp_right (Or.imp_right .inr)

namespace SubscriptionJournal

/-! ### The common limit -/

omit [DecidableEq V] in
theorem oldest_eq_some {histories : BTreeMap String (History V)} {found : String × UInt64}
    (hfound : oldest histories = some found) :
    ∃ history, histories[found.1]? = some history ∧ history.batches ≠ [] := by
  have hmem := List.argmin_mem hfound
  obtain ⟨entry, hentry, hfirst⟩ := List.mem_filterMap.mp hmem
  obtain ⟨batch, hbatch, heq⟩ := Option.map_eq_some_iff.mp hfirst
  refine ⟨entry.2, ?_, ?_⟩
  · rw [← heq]
    exact ExtTreeMap.mem_toList_iff_getElem?_eq_some.mp hentry
  · intro hnil
    rw [hnil] at hbatch
    cases hbatch

omit [DecidableEq V] in
theorem oldest_eq_none {histories : BTreeMap String (History V)} (hnone : oldest histories = none) :
    ∀ history ∈ histories.vals, history.batches = [] := by
  intro history hhistory
  obtain ⟨id, hget⟩ := BTreeMap.mem_vals_iff.mp hhistory
  have hempty := List.argmin_eq_none.mp hnone
  cases hbatches : history.batches with
  | nil => rfl
  | cons batch batches =>
    have hmem : (id, batch.revision) ∈ histories.toList.filterMap fun entry =>
        entry.2.batches.head?.map fun batch => (entry.1, batch.revision) := by
      refine List.mem_filterMap.mpr ⟨(id, history), ExtTreeMap.mem_toList_iff_getElem?_eq_some.mpr hget, ?_⟩
      simp [hbatches]
    rw [hempty] at hmem
    cases hmem

omit [DecidableEq V] in
/-- What a round drops is the first batch of one history. -/
theorem trim_round_eq_some {histories next : BTreeMap String (History V)} (hround : trim_round histories = some next) :
    ∃ id history, histories[id]? = some history ∧ history.batches ≠ [] ∧
      next = histories.insert id history.pop_front := by
  unfold trim_round at hround
  split at hround
  · obtain ⟨found, hfound, hnext⟩ := Option.map_eq_some_iff.mp hround
    obtain ⟨history, hget, hbatches⟩ := oldest_eq_some hfound
    rw [hget] at hnext
    exact ⟨found.1, history, hget, hbatches, hnext.symm⟩
  · cases hround

omit [DecidableEq V] in
theorem batch_count_of_round {histories next : BTreeMap String (History V)} (hround : trim_round histories = some next) :
    batch_count next < batch_count histories := by
  obtain ⟨id, history, hget, hbatches, rfl⟩ := trim_round_eq_some hround
  refine BTreeMap.sum_vals_insert_lt hget ?_
  rw [History.pop_front, List.length_tail]
  have hpositive := List.length_pos_iff.mpr hbatches
  omega

/-- Every history of a table is sound. -/
def EachSound (past : List (ClientRuntime V)) (runtime : ClientRuntime V) (histories : BTreeMap String (History V)) :
    Prop :=
  ∀ (id : String) history, histories[id]? = some history →
    id ∈ ids runtime.state.windows ∧ history.Sound past runtime.state.revision id

variable {past more : List (ClientRuntime V)} {runtime : ClientRuntime V} {histories : BTreeMap String (History V)}

theorem EachSound.round {next : BTreeMap String (History V)} (hsound : EachSound past runtime histories)
    (hround : trim_round histories = some next) : EachSound past runtime next := by
  obtain ⟨popped, history, hget, _, rfl⟩ := trim_round_eq_some hround
  intro id held hheld
  rw [ExtTreeMap.getElem?_insert] at hheld
  split at hheld
  · rename_i hsame
    cases hheld
    obtain rfl := LawfulEqOrd.compare_eq_iff_eq.mp hsame
    obtain ⟨hid, hhistory⟩ := hsound popped history hget
    exact ⟨hid, hhistory.pop_front⟩
  · exact hsound id held hheld

omit [DecidableEq V] in
/-- With nothing left to drop, nothing is counted. -/
theorem within_of_round_eq_none (hsizes : ∀ history ∈ histories.vals, history.bytes = History.total history.batches)
    (hends : trim_round histories = none) : (histories.vals.map (·.bytes)).sum ≤ MAX_TOTAL_BYTES := by
  unfold trim_round at hends
  split at hends
  · have hempty := oldest_eq_none (Option.map_eq_none_iff.mp hends)
    have hzero : ∀ bytes ∈ histories.vals.map (·.bytes), bytes = 0 := by
      intro bytes hbytes
      obtain ⟨history, hhistory, rfl⟩ := List.mem_map.mp hbytes
      rw [hsizes history hhistory, hempty history hhistory]
      rfl
    rw [List.sum_eq_zero hzero]
    exact Nat.zero_le _
  · rename_i hwithin
    exact Nat.not_lt.mp hwithin

/-- The loop ends, with all histories within their common limit. -/
theorem trim_spec (hsound : EachSound past runtime histories) :
    BoundedJournal.settle trim_round (batch_count histories + 1) histories = some (trim histories) ∧
      EachSound past runtime (trim histories) ∧ ((trim histories).vals.map (·.bytes)).sum ≤ MAX_TOTAL_BYTES := by
  obtain ⟨last, hlast, hends, hkept⟩ := @BoundedJournal.settle_spec _ trim_round (EachSound past runtime) batch_count
    (fun _ _ => batch_count_of_round) (fun _ _ hround hsound => hsound.round hround) (batch_count histories + 1) histories
    (Nat.lt_succ_self _) hsound
  have htrim : trim histories = last := by rw [trim, hlast, Option.getD_some]
  rw [htrim]
  refine ⟨hlast, hkept, within_of_round_eq_none ?_ hends⟩
  intro history hhistory
  obtain ⟨id, hget⟩ := BTreeMap.mem_vals_iff.mp hhistory
  exact (hkept id history hget).2.bytes

/-- The journal of a runtime: each history leads up to the present revision, and together they are within the limit. -/
structure Sound (past : List (ClientRuntime V)) (runtime : ClientRuntime V) (journal : SubscriptionJournal V) : Prop where
  histories : EachSound past runtime journal.histories
  within : (journal.histories.vals.map (·.bytes)).sum ≤ MAX_TOTAL_BYTES

theorem EachSound.empty : EachSound past runtime ∅ := by
  intro id history hget
  simp at hget

theorem sound_empty (epoch : JournalEpoch) : (⟨epoch, ∅⟩ : SubscriptionJournal V).Sound past runtime where
  histories := .empty
  within := by
    have hempty : BTreeMap.vals (∅ : BTreeMap String (History V)) = [] := rfl
    rw [hempty]
    exact Nat.zero_le _

/-- A subscription that is recorded for the first time starts from nothing. -/
theorem EachSound.getD (hsound : EachSound past runtime histories) (id : String) :
    (histories[id]?.getD .default).Sound past runtime.state.revision id := by
  cases hget : histories[id]? with
  | none => exact History.sound_default
  | some history => exact (hsound id history hget).2

/-- The loop over the subscriptions reaches every history, since a subscription stays known. -/
theorem EachSound.extend (output : BatchJson V → Except NativeSyncError Nat) {before : ClientRuntime V}
    {transition : Transition V} (hsound : EachSound past before histories) (hstep : Step before transition runtime)
    (hsubset : past ⊆ more) (hmem : runtime ∈ more)
    (hnext : runtime.state.revision.toNat = before.state.revision.toNat + 1) {state : DurableSubscriptions V}
    (hstate : runtime.state.subscriptions = some state) :
    EachSound more runtime (extend output runtime before.state.revision state histories) := by
  have hwindows : runtime.state.windows = state := by
    rw [DurableClientState.windows, hstate, Option.getD_some]
  have hnodup : (ids state).Nodup := by
    rw [SubscriptionJournal.ids]
    exact ExtTreeSet.distinct_toList.imp fun hne heq => hne (LawfulEqOrd.compare_eq_iff_eq.mpr heq)
  intro id history hget
  obtain ⟨hwritten, hothers⟩ := BTreeMap.getElem?_foldl_insert
    (f := fun id history => (history.getD .default).record output runtime before.state.revision id) (k := id)
    hnodup histories
  by_cases hid : id ∈ ids state
  · rw [SubscriptionJournal.extend, hwritten hid] at hget
    cases hget
    refine ⟨?_, (hsound.getD id).record output hsubset hmem hnext⟩
    rw [hwindows]
    exact hid
  · rw [SubscriptionJournal.extend, hothers hid] at hget
    have hknown := ids_of_step hstep (hsound id history hget).1
    rw [hwindows] at hknown
    exact absurd hknown hid

/-- A journal records every step, and stays sound. -/
theorem Sound.record {output : BatchJson V → Except NativeSyncError Nat} {before : ClientRuntime V}
    {transition : Transition V} {journal : SubscriptionJournal V} (hsound : journal.Sound past before)
    (hstep : Step before transition runtime) (hsubset : past ⊆ more) (hmem : runtime ∈ more) :
    (journal.record output runtime before.state.revision).Sound more runtime := by
  unfold SubscriptionJournal.record
  split
  · rename_i hsame
    obtain rfl := hstep.eq_of_revision_eq hsame.symm
    exact ⟨fun id history hget => (hsound.histories id history hget).imp_right (History.Sound.mono hsubset), hsound.within⟩
  · rename_i hchanged
    have hnext := hstep.revision_next hchanged
    split
    · rename_i hnone
      -- no subscription is known, so none was, and there is no history
      have hempty : ∀ id : String, journal.histories[id]? = none := by
        intro id
        cases hget : journal.histories[id]? with
        | none => rfl
        | some history =>
          have hknown := ids_of_step hstep (hsound.histories id history hget).1
          rw [mem_ids_iff, DurableClientState.windows, hnone] at hknown
          simp [DurableSubscriptions.default] at hknown
      refine ⟨fun id history hget => ?_, hsound.within⟩
      rw [hempty] at hget
      cases hget
    · rename_i state hstate
      obtain ⟨_, hkept, hwithin⟩ := trim_spec (hsound.histories.extend output hstep hsubset hmem hnext hstate)
      exact ⟨hkept, hwithin⟩

/-! ### Answers -/

omit [DecidableEq V] in
theorem revision_of_last {batches : List (Batch V)} {start stop : Nat} {last : Batch V}
    (hsteps : Steps start batches stop) (hlast : batches.getLast? = some last) : last.revision.toNat = stop := by
  induction batches generalizing start with
  | nil => cases hlast
  | cons batch batches ih =>
    obtain ⟨_, hafter, hrest⟩ := hsteps
    cases hbatches : batches with
    | nil =>
      rw [hbatches] at hlast hrest
      cases hlast
      exact hafter.trans hrest
    | cons second later =>
      rw [hbatches, List.getLast?_cons_cons, ← hbatches] at hlast
      exact ih hrest hlast

end SubscriptionJournal

theorem frame_of_valid {id : String} (hid : valid_subscription_text id) (runtime : ClientRuntime V) :
    ∃ shown, frame runtime id = .ok shown := by
  have hguard : Except.refuse (¬ valid_subscription_text id) NativeSyncError.InvalidInput = .ok () :=
    Except.refuse_eq_ok_iff.mpr (not_not_intro hid)
  have hrequest : request runtime id = .ok (runtime.subscription_request id) :=
    Except.bind_eq_ok_iff.mpr ⟨(), hguard, rfl⟩
  exact ⟨_, Except.bind_eq_ok_iff.mpr ⟨_, hrequest, rfl⟩⟩

/-- What every cursor that is handed out for a subscription keeps. -/
structure Issued (id : String) (cursor : Cursor) : Prop where
  valid : valid_subscription_text id
  subscription : cursor.subscription_id = id
  process : cursor.process_epoch.utf8ByteSize ≤ 57
  revision : ∃ revision : UInt64, cursor.revision = revision.to_string

/-- No revision takes more than twenty digits. -/
theorem to_string_size (n : UInt64) : n.to_string.utf8ByteSize ≤ 20 := by
  have hlength : (Nat.toDigits 10 n.toNat).length ≤ 20 := by
    rw [Nat.length_toDigits_le_iff (by omega) (by omega)]
    have := n.toNat_lt
    omega
  have hsize : ∀ digits : List Char, (∀ c ∈ digits, c.isDigit) →
      (String.ofList digits).utf8ByteSize = digits.length := by
    intro digits hdigits
    induction digits with
    | nil => rfl
    | cons c digits ih =>
      obtain ⟨hc, hrest⟩ := List.forall_mem_cons.mp hdigits
      have hone : c.utf8Size = 1 := by
        rw [Char.utf8Size_eq_one_iff]
        simp only [Char.isDigit, Bool.and_eq_true, decide_eq_true_eq] at hc
        exact UInt32.le_trans hc.2 (by decide)
      rw [serde_json.utf8ByteSize_cons, hone, ih hrest, List.length_cons]
      omega
  have hdigits : ∀ c ∈ Nat.toDigits 10 n.toNat, c.isDigit :=
    fun c hc => Nat.isDigit_of_mem_toDigits (by omega) (by omega) hc
  have htext : n.to_string = String.ofList (Nat.toDigits 10 n.toNat) := by
    rw [← Nat.toList_repr, String.ofList_toList]
    rfl
  rw [htext, hsize _ hdigits]
  exact hlength

theorem Cursor.size_eq (cursor : Cursor) :
    cursor.to_string.utf8ByteSize = 47 + (serde_json.quote cursor.process_epoch).utf8ByteSize +
      (serde_json.quote cursor.revision).utf8ByteSize + (serde_json.quote cursor.subscription_id).utf8ByteSize := by
  have hfirst : ("\x7b\"processEpoch\":").utf8ByteSize = 16 := by decide +kernel
  have hsecond : (",\"revision\":").utf8ByteSize = 12 := by decide +kernel
  have hthird : (",\"subscriptionId\":").utf8ByteSize = 18 := by decide +kernel
  have hlast : ("\x7d").utf8ByteSize = 1 := by decide +kernel
  unfold Cursor.to_string
  simp only [String.utf8ByteSize_append, hfirst, hsecond, hthird, hlast]
  clear hfirst hsecond hthird hlast
  omega

/-- The text of a cursor that was handed out is short enough to be read. -/
theorem Issued.size {id : String} {cursor : Cursor} (hissued : Issued id cursor) :
    cursor.to_string.utf8ByteSize ≤ 4096 := by
  have hid : id.utf8ByteSize ≤ 256 := by
    have hvalid := hissued.valid
    simp only [valid_subscription_text, Bool.and_eq_true, decide_eq_true_eq, MAX_SUBSCRIPTION_TEXT] at hvalid
    exact of_decide_eq_true hvalid.2
  obtain ⟨revision, hrevision⟩ := hissued.revision
  have hdigits := to_string_size revision
  have hsubscription := serde_json.quote_size_le cursor.subscription_id
  have hnumber := serde_json.quote_size_le cursor.revision
  have hprocess := serde_json.quote_size_le cursor.process_epoch
  have hsmall := hissued.process
  rw [hissued.subscription] at hsubscription
  rw [hrevision] at hnumber
  rw [cursor.size_eq, hissued.subscription, hrevision]
  omega

/-- The batches of an answer lead from one revision to another, each with the frame of its revision. -/
def Leads (past : List (ClientRuntime V)) (id : String) : UInt64 → List (BatchJson V) → UInt64 → Prop
  | start, [], stop => start = stop
  | start, batch :: batches, stop => ∃ next : UInt64, next.toNat = start.toNat + 1 ∧
      batch.before_revision = start.to_string ∧ batch.revision = next.to_string ∧
      (∃ runtime ∈ past, runtime.state.revision = next ∧ frame runtime id = .ok batch.frame) ∧
      Leads past id next batches stop

theorem Leads.length {past : List (ClientRuntime V)} {id : String} {batches : List (BatchJson V)} {start stop : UInt64}
    (hleads : Leads past id start batches stop) : start.toNat + batches.length = stop.toNat := by
  induction batches generalizing start with
  | nil => exact congrArg UInt64.toNat hleads
  | cons batch batches ih =>
    obtain ⟨next, hnext, _, _, _, hrest⟩ := hleads
    have hlength := ih hrest
    rw [List.length_cons]
    omega

theorem leads_of_steps {past : List (ClientRuntime V)} {id : String} {batches : List (Batch V)} {start stop : UInt64}
    (hsteps : Steps start.toNat batches stop.toNat) (hrecorded : ∀ kept ∈ batches, Recorded past id kept) :
    Leads past id start (batches.map (·.json)) stop := by
  induction batches generalizing start with
  | nil => exact UInt64.toNat_inj.mp hsteps
  | cons batch batches ih =>
    obtain ⟨hbefore, hafter, hrest⟩ := hsteps
    obtain ⟨hfirst, hlater⟩ := List.forall_mem_cons.mp hrecorded
    obtain rfl := UInt64.toNat_inj.mp hbefore
    rw [← hafter] at hrest
    exact ⟨batch.revision, hafter, hfirst.before, hfirst.revision, hfirst.frame, ih hrest hlater⟩

namespace SubscriptionJournal

variable {journal : SubscriptionJournal V}

/-- How an answer goes on from a revision: from the start, or with batches from that revision on, at most `limit`
of them and at least one unless the revision is the present one. -/
inductive Continues (past : List (ClientRuntime V)) (runtime : ClientRuntime V) (journal : SubscriptionJournal V)
    (id : String) (revision : UInt64) (limit : Nat) : Changes V → Prop where
  | reset {shown : Frame V} (hshown : frame runtime id = .ok shown) :
      Continues past runtime journal id revision limit
        (.reset_required shown (journal.cursor id runtime.state.revision))
  | batches {handed : List (BatchJson V)} {stop : UInt64}
      (hleads : Leads past id revision handed stop)
      (hlimit : handed.length ≤ limit)
      (hprogress : handed = [] → revision = runtime.state.revision)
      (hstop : stop ≤ runtime.state.revision) :
      Continues past runtime journal id revision limit (.batches handed (journal.cursor id stop))

/-- What is kept of a subscription, when the cursor is not older than all of it. -/
theorem Sound.kept (hsound : journal.Sound past runtime) {id : String} {revision : UInt64}
    (hle : revision ≤ runtime.state.revision)
    (hreaches : revision < runtime.state.revision →
      ∃ first ∈ ((journal.histories[id]?.map (·.batches)).getD []).head?, first.before ≤ revision) :
    ∃ start ≤ revision.toNat, Steps start ((journal.histories[id]?.map (·.batches)).getD [])
        runtime.state.revision.toNat ∧
      ∀ kept ∈ (journal.histories[id]?.map (·.batches)).getD [], Recorded past id kept := by
  have hlenat := UInt64.le_iff_toNat_le.mp hle
  cases hget : journal.histories[id]? with
  | none =>
    rw [hget] at hreaches
    refine ⟨runtime.state.revision.toNat, ?_, rfl, by simp⟩
    refine UInt64.le_iff_toNat_le.mp (UInt64.not_lt.mp fun hbehind => ?_)
    obtain ⟨first, hfirst, _⟩ := hreaches hbehind
    cases hfirst
  | some history =>
    rw [hget] at hreaches
    obtain ⟨_, hhistory⟩ := hsound.histories id history hget
    obtain ⟨start, hsteps⟩ := hhistory.steps
    refine ⟨start, ?_, hsteps, hhistory.recorded⟩
    have hlength := hsteps.length
    by_cases hbehind : revision < runtime.state.revision
    · obtain ⟨first, hfirst, hbefore⟩ := hreaches hbehind
      obtain ⟨rest, hrest⟩ := List.head?_eq_some_iff.mp hfirst
      change history.batches = first :: rest at hrest
      rw [hrest] at hsteps
      rw [← hsteps.1]
      exact UInt64.le_iff_toNat_le.mp hbefore
    · have := UInt64.le_iff_toNat_le.mp (UInt64.not_lt.mp hbehind)
      omega

/-- The first of the batches that lead to the present revision, and a cursor after them. -/
theorem continues_of_steps {id : String} {revision : UInt64} {later : List (Batch V)}
    (hsteps : Steps revision.toNat later runtime.state.revision.toNat)
    (hrecorded : ∀ kept ∈ later, Recorded past id kept) {limit : Nat} (hlimit : 1 ≤ limit) :
    Continues past runtime journal id revision limit (.batches ((later.take limit).map (·.json))
      (journal.cursor id ((((later.take limit).map (·.json)).getLast?.bind fun batch =>
        UInt64.from_str batch.revision).getD runtime.state.revision))) := by
  have hlength := hsteps.length
  have htake := hsteps.take limit
  cases hlast : (later.take limit).getLast? with
  | none =>
    have hnone := List.getLast?_eq_none_iff.mp hlast
    have hlater : later = [] := (List.take_eq_nil_iff.mp hnone).resolve_left (by omega)
    subst hlater
    have hcurrent : revision = runtime.state.revision := UInt64.toNat_inj.mp hlength
    simp only [List.take_nil, List.map_nil, List.getLast?_nil, Option.bind_none, Option.getD_none]
    exact .batches hcurrent (Nat.zero_le _) (fun _ => hcurrent) (UInt64.le_refl _)
  | some last =>
    have hmem : last ∈ later := List.mem_of_mem_take (List.mem_of_getLast? hlast)
    have hstop := revision_of_last htake hlast
    have hafter : ((((later.take limit).map (·.json)).getLast?.bind fun batch =>
        UInt64.from_str batch.revision).getD runtime.state.revision) = last.revision := by
      rw [List.getLast?_map, hlast, Option.map_some, Option.bind_some, (hrecorded last hmem).revision,
        UInt64.from_str_to_string, Option.getD_some]
    rw [hafter]
    rw [← hstop] at htake
    refine .batches (leads_of_steps htake fun kept hkept => hrecorded kept (List.mem_of_mem_take hkept)) ?_ ?_ ?_
    · rw [List.length_map]
      exact List.length_take_le _ _
    · intro hnil
      rw [List.map_eq_nil_iff.mp hnil] at hlast
      cases hlast
    · rw [UInt64.le_iff_toNat_le]
      omega

/-- A cursor that was handed out is answered from the start, or with what is kept after it. -/
theorem changes_eq {id : String} {cursor : Cursor} (hissued : Issued id cursor) {revision : UInt64}
    (hrevision : cursor.revision = revision.to_string) {limit : Nat} (hlimit : 1 ≤ limit ∧ limit ≤ MAX_BATCHES)
    (journal : SubscriptionJournal V) (runtime : ClientRuntime V) :
    journal.changes runtime id cursor limit =
      if cursor.process_epoch ≠ journal.epoch.value ∨ revision > runtime.state.revision ∨
          (revision < runtime.state.revision ∧
            ∀ first ∈ ((journal.histories[id]?.map (·.batches)).getD []).head?, revision < first.before) then do
        let (reset, cursor) ← journal.bootstrap runtime id
        return .reset_required reset cursor
      else
        let batches := ((((journal.histories[id]?.map (·.batches)).getD []).filter fun batch =>
          batch.revision > revision).take limit).map (·.json)
        let after := (batches.getLast?.bind fun batch => UInt64.from_str batch.revision).getD runtime.state.revision
        .ok (.batches batches (journal.cursor id after)) := by
  have hguard : Except.refuse (¬ valid_subscription_text id ∨ ¬ (1 ≤ limit ∧ limit ≤ MAX_BATCHES) ∨
      cursor.to_string.utf8ByteSize > 4096) NativeSyncError.InvalidInput = .ok () := by
    refine Except.refuse_eq_ok_iff.mpr ?_
    rintro (hbad | hbad | hbad)
    · exact hbad hissued.valid
    · exact hbad hlimit
    · exact Nat.not_lt.mpr hissued.size hbad
  have hparsed : Except.okOr (UInt64.from_str cursor.revision) NativeSyncError.InvalidInput = .ok revision := by
    rw [hrevision, UInt64.from_str_to_string, Except.okOr]
  have hsame : Except.refuse (revision.to_string ≠ cursor.revision ∨ cursor.subscription_id ≠ id)
      NativeSyncError.InvalidInput = .ok () := by
    refine Except.refuse_eq_ok_iff.mpr ?_
    rintro (hbad | hbad)
    · exact hbad hrevision.symm
    · exact hbad hissued.subscription
  simp only [SubscriptionJournal.changes, hguard, hparsed, hsame, Except.ok_bind]
  rfl

theorem bootstrap_of_valid {id : String} (hid : valid_subscription_text id) {shown : Frame V}
    (hshown : frame runtime id = .ok shown) (journal : SubscriptionJournal V) :
    journal.bootstrap runtime id = .ok (shown, journal.cursor id runtime.state.revision) := by
  refine Except.bind_eq_ok_iff.mpr ⟨(), Except.refuse_eq_ok_iff.mpr (not_not_intro hid), ?_⟩
  exact Except.bind_eq_ok_iff.mpr ⟨shown, hshown, rfl⟩

/-- A cursor that was handed out is answered without a gap. -/
theorem Sound.changes (hsound : journal.Sound past runtime) {id : String} {cursor : Cursor}
    (hissued : Issued id cursor) {revision : UInt64} (hrevision : cursor.revision = revision.to_string) {limit : Nat}
    (hlimit : 1 ≤ limit ∧ limit ≤ MAX_BATCHES) :
    ∃ answer, journal.changes runtime id cursor limit = .ok answer ∧
      Continues past runtime journal id revision limit answer := by
  rw [changes_eq hissued hrevision hlimit]
  split
  · obtain ⟨shown, hshown⟩ := frame_of_valid hissued.valid runtime
    exact ⟨_, by rw [bootstrap_of_valid hissued.valid hshown]; rfl, .reset hshown⟩
  · rename_i hcontinues
    simp only [not_or, not_and, not_forall, gt_iff_lt, UInt64.not_lt, ne_eq, not_not, exists_prop] at hcontinues
    obtain ⟨_, hle, hreaches⟩ := hcontinues
    obtain ⟨start, hstart, hsteps, hrecorded⟩ := hsound.kept hle hreaches
    refine ⟨_, rfl, ?_⟩
    generalize (journal.histories[id]?.map (·.batches)).getD [] = kept at hsteps hrecorded
    have hfilter : (kept.filter fun batch => decide (batch.revision > revision)) =
        kept.filter fun batch => decide (revision.toNat < batch.revision.toNat) :=
      List.filter_congr fun batch _ => by simp only [gt_iff_lt, UInt64.lt_iff_toNat_lt]
    have hafter := hsteps.filter_after hstart (UInt64.le_iff_toNat_le.mp hle)
    rw [hfilter]
    exact continues_of_steps hafter (fun batch hbatch => hrecorded batch (List.mem_of_mem_filter hbatch)) hlimit.1

/-- A cursor at the present revision of the present process is answered with nothing. -/
theorem Sound.changes_current (hsound : journal.Sound past runtime) {id : String} {cursor : Cursor}
    (hissued : Issued id cursor) (hcursor : cursor = journal.cursor id runtime.state.revision) {limit : Nat}
    (hlimit : 1 ≤ limit ∧ limit ≤ MAX_BATCHES) :
    journal.changes runtime id cursor limit = .ok (.batches [] cursor) := by
  have hrevision : cursor.revision = runtime.state.revision.to_string := by
    rw [hcursor]
    rfl
  have hprocess : cursor.process_epoch = journal.epoch.value := by
    rw [hcursor]
    rfl
  obtain ⟨answer, hanswer, hcontinues⟩ := hsound.changes hissued hrevision hlimit
  cases hcontinues with
  | reset hshown =>
    rw [changes_eq hissued hrevision hlimit, if_neg (by simp [hprocess])] at hanswer
    cases hanswer
  | @batches handed stop hleads _ _ hstop =>
    have hlength := hleads.length
    have hle := UInt64.le_iff_toNat_le.mp hstop
    obtain rfl := List.length_eq_zero_iff.mp (show handed.length = 0 by omega)
    obtain rfl : runtime.state.revision = stop := hleads
    rw [hanswer, hcursor]

end SubscriptionJournal

end surrealdb_rn_core.sync_subscription
