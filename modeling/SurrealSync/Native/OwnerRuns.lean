import SurrealSync.Native.OwnerAnswers

open Std Except
open surrealdb_sync_protocol surrealdb_sync_protocol.subscription surrealdb_sync_protocol.bootstrap_codec
open surrealdb_sync_client
open surrealdb_rn_core.sync_state surrealdb_rn_core.sync_bootstrap_store surrealdb_rn_core.sync_bootstrap

namespace surrealdb_rn_core.sync_client

open sync_codec sync_subscription

variable {F V C : Type} [DecidableEq V]

/-! ### Journals, one call after the other -/

abbrev Journals (V : Type) [DecidableEq V] := SyncStateKey → Content V

/-- What the events of an owner do to the journals: a call acts where it ends, and has found what the one before it on
its journal has left. -/
inductive Serial (codec : Codec V) (json : sync_queue.JsonWriter (ClientCommit V)) :
    Journals V → Event V → Journals V → Prop where
  | answered {journals : Journals V} {cell : RuntimeKey} {handle : Nat} {call : Call V} {unsettled : Bool} {answer : Answer V}
      {last : Content V} {bound binding : Binding} (hmoves : Moves cell.key (journals cell.key) last)
      (hexplains : Explains codec json (journals cell.key) bound call answer last binding) :
      Serial codec json journals (.worked cell handle call unsettled (some (.ok answer)))
        (Function.update journals cell.key last)
  | failed {journals : Journals V} {cell : RuntimeKey} {handle : Nat} {call : Call V} {unsettled : Bool} {failure : Failure}
      {last : Content V} (hmoves : Moves cell.key (journals cell.key) last)
      (hexcuses : Excuses (journals cell.key) failure last call) :
      Serial codec json journals (.worked cell handle call unsettled (some (.error failure)))
        (Function.update journals cell.key last)
  | dropped {journals : Journals V} {cell : RuntimeKey} {call : Call V} {armed : Bool} {last : Content V}
      (hmoves : Moves cell.key (journals cell.key) last) :
      Serial codec json journals (.dropped cell call armed) (Function.update journals cell.key last)
  | waits {journals : Journals V} {cell : RuntimeKey} {handle : Nat} {call : Call V} {unsettled : Bool} :
      Serial codec json journals (.worked cell handle call unsettled none) journals
  | forgotten {journals : Journals V} {cell : RuntimeKey} : Serial codec json journals (.forgotten cell) journals
  | changed {journals : Journals V} : Serial codec json journals .changed journals
  | connected {journals : Journals V} : Serial codec json journals .connected journals

variable {store : Store F V C} {json : sync_queue.JsonWriter (ClientCommit V)} {owner after : DatabaseOwner V C}
  {journals : Journals V} {cell other : RuntimeKey} {working : Option RuntimeKey}

/-! ### What holds between the steps -/

/-- A call that waits is safe to go on from the content that the rows hold. -/
structure Resumable (store : Store F V C) (json : sync_queue.JsonWriter (ClientCommit V)) (owner : DatabaseOwner V C)
    (journals : Journals V) (cell : RuntimeKey) (waiting : Waiting V) {bound : Binding}
    (ledger : Ledger V cell.key bound) : Prop where
  binding : (owner.cells cell).binding = bound
  represents : Represents store owner.db cell.key ledger.content
  moves : Moves cell.key (journals cell.key) ledger.content
  safe : Runs (Told store.codec json (journals cell.key) waiting.call)
    (fun failure ledger => Excuses (journals cell.key) failure ledger.content waiting.call)
    (.await waiting.request waiting.resume) waiting.guard ledger

/-- Whether the lock of a cell is taken. -/
def Busy (owner : DatabaseOwner V C) (working : Option RuntimeKey) (cell : RuntimeKey) : Prop :=
  (owner.waiting cell).isSome ∨ working = some cell

/-- The rows and the cells of an owner, between two steps or while the call of one cell works: the calls are all of one
session, and the cells of the present session show what the rows hold. -/
structure Invariant (store : Store F V C) (json : sync_queue.JsonWriter (ClientCommit V)) (owner : DatabaseOwner V C)
    (journals : Journals V) (working : Option RuntimeKey) : Prop where
  staged : Staged owner.db
  together : ∀ cell other, Busy owner working cell → Busy owner working other →
    cell.session_generation = other.session_generation
  current : ∀ cell, Busy owner working cell → owner.closed = false → owner.changing = 0 →
    cell.session_generation = owner.session_generation
  older : ∀ cell, Busy owner working cell → owner.closed = false → owner.changing ≠ 0 →
    cell.session_generation.toNat < owner.session_generation.toNat
  vacant : ∀ cell, owner.closed = false → owner.session_generation.toNat < cell.session_generation.toNat ∨
    owner.changing ≠ 0 ∧ cell.session_generation = owner.session_generation → (owner.cells cell).runtime = none
  idle : ∀ key, (∀ cell, Busy owner working cell → cell.key ≠ key) → Represents store owner.db key (journals key)
  shows : ∀ cell, owner.closed = false → owner.changing = 0 → cell.session_generation = owner.session_generation →
    ¬ Busy owner working cell → ∀ runtime ∈ (owner.cells cell).runtime, journals cell.key = some runtime
  resumable : ∀ cell waiting, working ≠ some cell → owner.waiting cell = some waiting →
    ∃ (bound : Binding) (ledger : Ledger V cell.key bound), Resumable store json owner journals cell waiting ledger

theorem RuntimeKey.eq_of (hsession : cell.session_generation = other.session_generation) (hkey : cell.key = other.key) :
    cell = other := by
  cases cell
  cases other
  cases hsession
  cases hkey
  rfl

/-- No two calls hold cells of one journal. -/
theorem Invariant.eq_of_key (hinv : Invariant store json owner journals working) (hcell : Busy owner working cell)
    (hother : Busy owner working other) (hkey : cell.key = other.key) : cell = other :=
  RuntimeKey.eq_of (hinv.together cell other hcell hother) hkey

/-- A cell whose lock is taken is of a session that has begun. -/
theorem Invariant.not_vacant (hinv : Invariant store json owner journals working) (hcell : Busy owner working cell)
    (hopen : owner.closed = false) (hvacant : owner.session_generation.toNat < cell.session_generation.toNat ∨
      owner.changing ≠ 0 ∧ cell.session_generation = owner.session_generation) : False := by
  by_cases hchanging : owner.changing = 0
  · have hcurrent := congrArg UInt64.toNat (hinv.current cell hcell hopen hchanging)
    rcases hvacant with hlater | ⟨hnot, _⟩
    · exact Nat.ne_of_gt hlater hcurrent
    · exact hnot hchanging
  · have holder := hinv.older cell hcell hopen hchanging
    rcases hvacant with hlater | ⟨_, hsame⟩
    · exact Nat.lt_asymm holder hlater
    · rw [hsame] at holder
      exact Nat.lt_irrefl _ holder

theorem Resumable.frame {waiting : Waiting V} {bound : Binding} {ledger : Ledger V cell.key bound} {next : Journals V}
    (hresumable : Resumable store json owner journals cell waiting ledger) (hcell : after.cells cell = owner.cells cell)
    (hrows : Untouched cell.key owner.db after.db) (hjournal : next cell.key = journals cell.key) :
    Resumable store json after next cell waiting ledger where
  binding := hcell ▸ hresumable.binding
  represents := hresumable.represents.of_untouched hrows
  moves := hjournal ▸ hresumable.moves
  safe := by
    rw [hjournal]
    exact hresumable.safe

theorem busy_release_iff {guard : RuntimeGuard V} :
    Busy (owner.release cell guard) none other ↔ (owner.waiting other).isSome ∧ other ≠ cell := by
  unfold Busy DatabaseOwner.release
  by_cases hsame : other = cell
  · subst hsame
    simp
  · simp [hsame]

/-- The call of a cell ends, with what it has left in the rows and in its guard. -/
theorem Invariant.release (hinv : Invariant store json owner journals (some cell)) {bound : Binding}
    {ledger : Ledger V cell.key bound} {guard : RuntimeGuard V} (hsound : guard.Sound ledger)
    (hrepresents : Represents store owner.db cell.key ledger.content) :
    Invariant store json (owner.release cell guard) (Function.update journals cell.key ledger.content) none := by
  have hbusy : ∀ other, Busy (owner.release cell guard) none other → Busy owner (some cell) other :=
    fun other hother => .inl (busy_release_iff.mp hother).1
  have hhere : Busy owner (some cell) cell := .inr rfl
  have hcells : ∀ other, other ≠ cell → (owner.release cell guard).cells other = owner.cells other :=
    fun other hother => Function.update_of_ne hother _ _
  have hjournals : ∀ key, key ≠ cell.key → Function.update journals cell.key ledger.content key = journals key :=
    fun key hkey => Function.update_of_ne hkey _ _
  refine ⟨hinv.staged, fun first second hfirst hsecond => hinv.together _ _ (hbusy _ hfirst) (hbusy _ hsecond),
    fun other hother => hinv.current other (hbusy _ hother), fun other hother => hinv.older other (hbusy _ hother),
    fun other hopen hvacant => ?_, fun key hidle => ?_,
    fun other hopen hchanging hsession hfree runtime hruntime => ?_, fun other waiting _ hwaiting => ?_⟩
  · have hne : other ≠ cell := by
      rintro rfl
      exact hinv.not_vacant hhere hopen hvacant
    rw [hcells other hne]
    exact hinv.vacant other hopen hvacant
  · by_cases hkey : key = cell.key
    · subst hkey
      rw [Function.update_self]
      exact hrepresents
    · rw [hjournals key hkey]
      refine hinv.idle key fun other hother hsame => ?_
      rcases hother with hwaiting | hworking
      · refine hidle other (busy_release_iff.mpr ⟨hwaiting, ?_⟩) hsame
        rintro rfl
        exact hkey hsame.symm
      · cases hworking
        exact hkey hsame.symm
  · by_cases hne : other = cell
    · subst hne
      have hdropped : (owner.release other guard).cells other = guard.drop.cell := Function.update_self _ _ _
      rw [hdropped] at hruntime
      rw [Function.update_self]
      exact hsound.drop_agrees runtime hruntime
    · have hkey : other.key ≠ cell.key := by
        intro hsame
        have hcurrent := hinv.current cell hhere hopen hchanging
        exact hne (RuntimeKey.eq_of (hsession.trans hcurrent.symm) hsame)
      rw [hjournals _ hkey]
      rw [hcells other hne] at hruntime
      refine hinv.shows other hopen hchanging hsession ?_ runtime hruntime
      rintro (hwaiting | hworking)
      · exact hfree (busy_release_iff.mpr ⟨hwaiting, hne⟩)
      · cases hworking
        exact hne rfl
  · have hbusy : Busy (owner.release cell guard) none other := .inl (Option.isSome_iff_exists.mpr ⟨_, hwaiting⟩)
    have hother := busy_release_iff.mp hbusy
    have hfound : owner.waiting other = some waiting := (Function.update_of_ne hother.2 _ _).symm.trans hwaiting
    have hkey : other.key ≠ cell.key := fun hsame =>
      hother.2 (hinv.eq_of_key (.inl hother.1) hhere hsame)
    obtain ⟨bound, ledger, hresumable⟩ := hinv.resumable other waiting (fun hsame => hother.2 (Option.some.inj hsame).symm) hfound
    exact ⟨bound, ledger, hresumable.frame (hcells other hother.2) (.refl _ _) (hjournals _ hkey)⟩

theorem busy_suspend_iff {waiting : Waiting V} :
    Busy (owner.suspend cell waiting) none other ↔ Busy owner (some cell) other := by
  unfold Busy DatabaseOwner.suspend
  by_cases hsame : other = cell
  · subst hsame
    simp
  · have hne : cell ≠ other := fun h => hsame h.symm
    simp [hsame, hne]

/-- The call of a cell waits, safe to go on. -/
theorem Invariant.suspend (hinv : Invariant store json owner journals (some cell)) {waiting : Waiting V} {bound : Binding}
    {ledger : Ledger V cell.key bound} (hresumable : Resumable store json owner journals cell waiting ledger) :
    Invariant store json (owner.suspend cell waiting) journals none := by
  refine ⟨hinv.staged, fun first second hfirst hsecond => ?_, fun other hother => hinv.current other (busy_suspend_iff.mp hother),
    fun other hother => hinv.older other (busy_suspend_iff.mp hother), hinv.vacant, fun key hidle => ?_,
    fun other hopen hchanging hsession hfree => ?_, fun other found _ hfound => ?_⟩
  · exact hinv.together _ _ (busy_suspend_iff.mp hfirst) (busy_suspend_iff.mp hsecond)
  · exact hinv.idle key fun other hother => hidle other (busy_suspend_iff.mpr hother)
  · exact hinv.shows other hopen hchanging hsession fun hother => hfree (busy_suspend_iff.mpr hother)
  · by_cases hsame : other = cell
    · subst hsame
      obtain rfl : waiting = found := by simpa [DatabaseOwner.suspend] using hfound
      exact ⟨bound, ledger, hresumable.frame rfl (.refl _ _) rfl⟩
    · have hbefore : owner.waiting other = some found := (Function.update_of_ne hsame _ _).symm.trans hfound
      obtain ⟨bound, ledger, hresumable⟩ := hinv.resumable other found (fun h => hsame (Option.some.inj h).symm) hbefore
      exact ⟨bound, ledger, hresumable.frame rfl (.refl _ _) rfl⟩

/-- A call takes the lock of a cell of the present session. -/
theorem Invariant.enter (hinv : Invariant store json owner journals none) (hchanging : owner.changing = 0)
    (hopen : owner.closed = false) (hsession : cell.session_generation = owner.session_generation) :
    Invariant store json owner journals (some cell) := by
  have hall : ∀ other, Busy owner (some cell) other → other.session_generation = owner.session_generation := by
    rintro other (hwaiting | hworking)
    · exact hinv.current other (.inl hwaiting) hopen hchanging
    · cases hworking
      exact hsession
  refine ⟨hinv.staged, fun first second hfirst hsecond => (hall _ hfirst).trans (hall _ hsecond).symm,
    fun other hother _ _ => hall other hother, fun _ _ _ hnot => absurd hchanging hnot, hinv.vacant, fun key hidle => ?_,
    fun other hopen hchanging hsession hfree => ?_, fun other waiting _ => hinv.resumable other waiting nofun⟩
  · exact hinv.idle key fun other hother => hidle other (hother.imp_right nofun)
  · exact hinv.shows other hopen hchanging hsession fun hother => hfree (hother.imp_right nofun)

/-- The rows of a waiting call are served, and the call takes up its work again. -/
theorem Invariant.take (hinv : Invariant store json owner journals none) {waiting : Waiting V}
    (hwaiting : owner.waiting cell = some waiting) {db : Database C StageTables} (hstaged : Staged db)
    (hrows : ∀ key, key ≠ cell.key → Untouched key owner.db db) :
    Invariant store json { owner with db } journals (some cell) := by
  have hhere : Busy owner none cell := .inl (Option.isSome_iff_exists.mpr ⟨_, hwaiting⟩)
  have hbusy : ∀ other, Busy { owner with db } (some cell) other → Busy owner none other := by
    rintro other (hother | hworking)
    · exact .inl hother
    · cases hworking
      exact hhere
  refine ⟨hstaged, fun first second hfirst hsecond => hinv.together _ _ (hbusy _ hfirst) (hbusy _ hsecond),
    fun other hother => hinv.current other (hbusy _ hother), fun other hother => hinv.older other (hbusy _ hother),
    hinv.vacant, fun key hidle => ?_, fun other hopen hchanging hsession hfree => ?_,
    fun other found hne hfound => ?_⟩
  · have hkey : key ≠ cell.key := fun hsame => hidle cell (.inr rfl) hsame.symm
    exact (hinv.idle key fun other hother => hidle other (hother.imp_right nofun)).of_untouched (hrows key hkey)
  · exact hinv.shows other hopen hchanging hsession fun hother => hfree (hother.imp_right nofun)
  · have hkey : other.key ≠ cell.key := fun hsame =>
      hne (congrArg some (hinv.eq_of_key (.inl (Option.isSome_iff_exists.mpr ⟨_, hfound⟩)) hhere hsame).symm)
    obtain ⟨bound, ledger, hresumable⟩ := hinv.resumable other found nofun hfound
    exact ⟨bound, ledger, hresumable.frame rfl (hrows _ hkey) rfl⟩

/-! ### Steps -/

/-- How the work of a call goes: it returns, or waits again. -/
theorem work_cases (owner : DatabaseOwner V C) {bound : Binding} {ledger : Ledger V cell.key bound}
    {P : Answer V → RuntimeGuard V → Ledger V cell.key bound → Prop} {E : Failure → Ledger V cell.key bound → Prop}
    {part : Guarded Failure V (Answer V)} {guard : RuntimeGuard V} (hruns : Runs P E part guard ledger) (handle : Nat)
    (call : Call V) :
    (∃ (last : RuntimeGuard V) (result : Except Failure (Answer V)),
        owner.work cell handle call part guard = (owner.release cell last, some result) ∧ Ends P E result last ledger) ∨
      ∃ waiting : Waiting V, owner.work cell handle call part guard = (owner.suspend cell waiting, none) ∧
        waiting.call = call ∧ Runs P E (.await waiting.request waiting.resume) waiting.guard ledger := by
  have hsettle := Async.Safe.settle hruns
  unfold DatabaseOwner.work
  cases hpoint : part.settle guard with
  | mk last point =>
    rw [hpoint] at hsettle
    cases point with
    | returned result => exact .inl ⟨last, result, rfl, hsettle⟩
    | waiting request resume => exact .inr ⟨⟨handle, call, last, request, resume⟩, rfl, rfl, hsettle⟩

/-- A call that works on: over rows that hold a content of its journal, and with a guard on which all flags are set
that had been set when it went on. -/
structure Working (store : Store F V C) (json : sync_queue.JsonWriter (ClientCommit V)) (owner : DatabaseOwner V C)
    (journals : Journals V) (cell : RuntimeKey) (handle : Nat) (call : Call V) (unsettled : Bool)
    (result : Option (Except Failure (Answer V))) (after : DatabaseOwner V C) (db : Database C StageTables)
    (part : Guarded Failure V (Answer V)) (guard : RuntimeGuard V)
    (ledger : Ledger V cell.key (owner.cells cell).binding) : Prop where
  invariant : Invariant store json { owner with db } journals (some cell)
  represents : Represents store db cell.key ledger.content
  moves : Moves cell.key (journals cell.key) ledger.content
  runs : Runs (Told store.codec json (journals cell.key) call)
    (fun failure ledger => Excuses (journals cell.key) failure ledger.content call) part guard ledger
  flags : Flags.Raised ⟨owner.poison_all || unsettled, owner.local_closed handle, owner.session_ended cell⟩
    ledger.flags.poison_all ledger.flags.local_closed ledger.flags.session_ended
  works : ({ owner with db } : DatabaseOwner V C).work cell handle call part guard = (after, result)

/-- Where a call ends, its answer or its failure says what it has done to its journal. -/
theorem Working.serial {handle : Nat} {call : Call V} {unsettled : Bool} {result : Option (Except Failure (Answer V))}
    {db : Database C StageTables} {part : Guarded Failure V (Answer V)} {guard : RuntimeGuard V}
    {ledger : Ledger V cell.key (owner.cells cell).binding}
    (hworking : Working store json owner journals cell handle call unsettled result after db part guard ledger) :
    ∃ next, Serial store.codec json journals (.worked cell handle call unsettled result) next ∧
      Invariant store json after next none := by
  obtain ⟨hinv, hrepresents, hmoves, hruns, _, hworks⟩ := hworking
  rcases work_cases { owner with db } hruns handle call with ⟨last, result, hwork, hends⟩ | ⟨waiting, hwork, rfl, hwaits⟩
  · cases hwork.symm.trans hworks
    refine ⟨_, ?_, hinv.release hends.sound hrepresents⟩
    cases result with
    | ok answer => exact .answered hmoves (hends.ok answer rfl).explains
    | error failure => exact .failed hmoves (hends.error failure rfl)
  · cases hwork.symm.trans hworks
    exact ⟨journals, .waits, hinv.suspend ⟨rfl, hrepresents, hmoves, hwaits⟩⟩

theorem interferes_held (owner : DatabaseOwner V C) (cell : RuntimeKey) (waiting : Waiting V) :
    waiting.guard.Interferes (owner.held cell waiting) := by
  refine ⟨rfl, rfl, fun hset => ?_, fun hset => ?_, fun hset => ?_⟩
  · exact Bool.or_eq_true_iff.mpr (.inl hset)
  · exact Bool.or_eq_true_iff.mpr (.inl hset)
  · exact Bool.or_eq_true_iff.mpr (.inl hset)

/-- A call that goes on sees the flags that were set meanwhile, and what its reply tells. -/
theorem raised_held (owner : DatabaseOwner V C) (cell : RuntimeKey) (waiting : Waiting V) (unsettled : Bool) :
    Flags.Raised ⟨owner.poison_all || unsettled, owner.local_closed waiting.handle, owner.session_ended cell⟩
      ((owner.held cell waiting).flags unsettled).poison_all ((owner.held cell waiting).flags unsettled).local_closed
      ((owner.held cell waiting).flags unsettled).session_ended := by
  refine ⟨fun hset => ?_, fun hset => ?_, fun hset => ?_⟩
  · change ((waiting.guard.poison_all || owner.poison_all) || unsettled) = true
    rw [Bool.or_assoc]
    exact Bool.or_eq_true_iff.mpr (.inr hset)
  · exact Bool.or_eq_true_iff.mpr (.inr hset)
  · exact Bool.or_eq_true_iff.mpr (.inr hset)

/-- A request is about the journal of its own cell. -/
theorem Droppable.ne_of_ne {request : DatabaseCall V} {key other : SyncStateKey} {bound : Binding} {guard : RuntimeGuard V}
    {ledger : Ledger V key bound} (hdroppable : Droppable key request guard ledger) (hne : other ≠ key) (asked : SyncStateKey)
    (hasked : request.key = some asked) : other ≠ asked := by
  rw [hdroppable.own asked hasked]
  exact hne

/-- The rows after the request of a waiting call: they hold a content that it tells of, and the journals of other keys
are as they were. -/
theorem Resumable.served (hserde : store.serde.Faithful) (hstaged : Staged owner.db) {waiting : Waiting V} {bound : Binding}
    {ledger : Ledger V cell.key bound} (hresumable : Resumable store json owner journals cell waiting ledger)
    (outcome : Outcome) :
    ∃ next : Content V, waiting.request.Effect (serve store outcome owner.db waiting.request).1 ledger.content next ∧
      Represents store (serve store outcome owner.db waiting.request).2 cell.key next ∧
      ∀ key, key ≠ cell.key → Untouched key owner.db (serve store outcome owner.db waiting.request).2 := by
  have hdroppable : Droppable cell.key waiting.request waiting.guard ledger := hresumable.safe.1
  obtain ⟨next, heffect, hafter⟩ := effect_serve hserde hstaged waiting.request hdroppable.own hresumable.represents outcome
  exact ⟨next, heffect, hafter, fun key hkey => untouched_serve hstaged waiting.request outcome (hdroppable.ne_of_ne hkey)⟩

theorem excuses_refl (content : Content V) (failure : Failure) (call : Call V) : Excuses content failure content call := by
  unfold Excuses
  split
  · trivial
  · trivial
  all_goals exact .inr rfl

/-- A guard that is taken and dropped with nothing done. -/
theorem release_lock_runtime (handle : Nat) (hwaiting : owner.waiting cell = none) :
    owner.release cell (owner.lock_runtime cell handle) = owner := by
  have hcells : Function.update owner.cells cell (owner.cells cell) = owner.cells := Function.update_eq_self _ _
  have hnone : Function.update owner.waiting cell none = owner.waiting := hwaiting ▸ Function.update_eq_self _ _
  change { owner with
    poison_all := owner.poison_all || owner.poison_all
    cells := Function.update owner.cells cell (owner.cells cell)
    waiting := Function.update owner.waiting cell none } = owner
  rw [hcells, hnone, Bool.or_self]

/-- A call that may answer takes the lock of a cell that shows the content of its journal. -/
theorem Invariant.working_start (hinv : Invariant store json owner journals none) (handle : Nat) {call : Call V}
    (hchanging : owner.changing = 0) (hwaiting : owner.waiting cell = none) (habout : call.about cell.key)
    (hlive : (owner.lock_runtime cell handle).Live) :
    ∃ ledger, Working store json owner journals cell handle call false
      (owner.work cell handle call (call.run store json) (owner.lock_runtime cell handle)).2
      (owner.work cell handle call (call.run store json) (owner.lock_runtime cell handle)).1 owner.db
      (call.run store json) (owner.lock_runtime cell handle) ledger := by
  obtain ⟨hopen, hsession⟩ := Bool.or_eq_false_iff.mp hlive.session_ended
  have hcurrent : owner.session_generation = cell.session_generation := by simpa using hsession
  have hfree : ∀ other, Busy owner none other → other.key ≠ cell.key := by
    intro other hother hkey
    obtain rfl := RuntimeKey.eq_of ((hinv.current other hother hopen hchanging).trans hcurrent) hkey
    rcases hother with hsome | hworking
    · rw [hwaiting] at hsome
      cases hsome
    · cases hworking
  have hrepresents := hinv.idle cell.key hfree
  have hshows := hinv.shows cell hopen hchanging hcurrent.symm fun hbusy => hfree cell hbusy rfl
  have hintact : Intact (journals cell.key) (owner.lock_runtime cell handle)
      (⟨journals cell.key, (owner.lock_runtime cell handle).flags false, fun _ => hrepresents.key_of⟩ :
        Ledger V cell.key (owner.cells cell).binding) :=
    ⟨rfl, hshows, rfl, RuntimeGuard.raised_flags _, .refl⟩
  exact ⟨_, hinv.enter hchanging hopen hcurrent.symm, hrepresents, .refl, runs_call hintact rfl habout, ⟨id, id, id⟩, rfl⟩

/-- The database replies to a call that waits. -/
theorem Invariant.working_reply (hserde : store.serde.Faithful) (hinv : Invariant store json owner journals none)
    {waiting : Waiting V} (hwaiting : owner.waiting cell = some waiting) {outcome : Outcome}
    {reply : waiting.request.Reply} {served : DatabaseOwner V C}
    (hserve : owner.serve_request store waiting.request outcome = (reply, served)) :
    ∃ ledger, Working store json owner journals cell waiting.handle waiting.call (waiting.request.unsettles reply)
      (served.work cell waiting.handle waiting.call (waiting.resume reply) (owner.held cell waiting)).2
      (served.work cell waiting.handle waiting.call (waiting.resume reply) (owner.held cell waiting)).1 served.db
      (waiting.resume reply) (owner.held cell waiting) ledger := by
  cases hserve
  obtain ⟨bound, ledger, hresumable⟩ := hinv.resumable cell waiting nofun hwaiting
  obtain rfl := hresumable.binding
  obtain ⟨next, heffect, hrepresents, hrows⟩ := hresumable.served hserde hinv.staged outcome
  have hdroppable : Droppable cell.key waiting.request waiting.guard ledger := hresumable.safe.1
  have hstaged : Staged (serve store outcome owner.db waiting.request).2 := staged_serve hinv.staged waiting.request outcome
  refine ⟨⟨next, (owner.held cell waiting).flags _, fun _ => hrepresents.key_of⟩, hinv.take hwaiting hstaged hrows,
    hrepresents, hresumable.moves.trans (hdroppable.moves _ next heffect),
    hresumable.safe.2 _ _ _ ⟨heffect, rfl⟩ (interferes_held owner cell waiting), raised_held owner cell waiting _, rfl⟩

/-- A call works on, or it does nothing since its guard was not to answer. -/
theorem worked_cases (hserde : store.serde.Faithful) (hinv : Invariant store json owner journals none) {handle : Nat}
    {call : Call V} {unsettled : Bool} {result : Option (Except Failure (Answer V))}
    (hstep : DatabaseOwner.Step store json owner (.worked cell handle call unsettled result) after) :
    (after = owner ∧ unsettled = false ∧ ∃ failure, result = some (.error failure)) ∨
      ∃ db part guard ledger,
        Working store json owner journals cell handle call unsettled result after db part guard ledger := by
  generalize hevent : Event.worked cell handle call unsettled result = event at hstep
  cases hstep with
  | start hchanging hwaiting habout =>
    cases hevent
    by_cases hlive : (owner.lock_runtime cell handle).Live
    · obtain ⟨ledger, hworking⟩ := hinv.working_start handle hchanging hwaiting habout hlive
      exact .inr ⟨_, _, _, ledger, hworking⟩
    · obtain ⟨failure, hsettle⟩ := @refuses_call F V C _ store json _ hlive call
      have hwork : owner.work cell handle call (call.run store json) (owner.lock_runtime cell handle) =
          (owner, some (.error failure)) := by
        unfold DatabaseOwner.work
        rw [hsettle]
        exact congrArg (fun after => (after, _)) (release_lock_runtime handle hwaiting)
      rw [hwork]
      exact .inl ⟨rfl, rfl, failure, rfl⟩
  | reply hwaiting hserve =>
    cases hevent
    obtain ⟨ledger, hworking⟩ := hinv.working_reply hserde hwaiting hserve
    exact .inr ⟨_, _, _, ledger, hworking⟩
  | drop hwaiting => cases hevent
  | reserve hreserved => cases hevent
  | exhaust hexhausted => cases hevent
  | change hchanging hidle => cases hevent
  | close => cases hevent
  | close_client => cases hevent
  | forget hwaiting => cases hevent
  | connect hidle => cases hevent

theorem Invariant.worked (hserde : store.serde.Faithful) (hinv : Invariant store json owner journals none) {handle : Nat}
    {call : Call V} {unsettled : Bool} {result : Option (Except Failure (Answer V))}
    (hstep : DatabaseOwner.Step store json owner (.worked cell handle call unsettled result) after) :
    ∃ next, Serial store.codec json journals (.worked cell handle call unsettled result) next ∧
      Invariant store json after next none := by
  rcases worked_cases hserde hinv hstep with ⟨rfl, rfl, failure, rfl⟩ | ⟨db, part, guard, ledger, hworking⟩
  · refine ⟨journals, ?_, hinv⟩
    have hfailed : Serial store.codec json journals (.worked cell handle call false (some (.error failure)))
        (Function.update journals cell.key (journals cell.key)) := .failed .refl (excuses_refl _ failure call)
    rwa [Function.update_eq_self] at hfailed
  · exact hworking.serial

/-- A dropped guard is sound over what its request has left. -/
theorem Droppable.sound_of_effect {key : SyncStateKey} {bound : Binding} {request : DatabaseCall V} {guard : RuntimeGuard V}
    {ledger next : Ledger V key bound} (hdroppable : Droppable key request guard ledger) {reply : request.Reply}
    (heffect : request.Effect reply ledger.content next.content) (hflags : next.flags = ledger.flags) :
    guard.Sound next := by
  refine ⟨fun hclean => ?_, hflags ▸ hdroppable.sound.raised, hdroppable.sound.rebinds⟩
  have hsame : next.content = ledger.content := by
    refine heffect.of_reading fun transaction hrequest => ?_
    have harmed := hdroppable.armed transaction hrequest
    rw [hclean] at harmed
    cases harmed
  rw [hsame]
  exact hdroppable.sound.agrees hclean

theorem Invariant.drop (hserde : store.serde.Faithful) (hinv : Invariant store json owner journals none)
    {waiting : Waiting V} (hwaiting : owner.waiting cell = some waiting) (sent : Option Outcome) (armed : Bool) :
    ∃ next, Serial store.codec json journals (.dropped cell waiting.call armed) next ∧
      Invariant store json ((owner.abandoned store waiting.request sent).release cell (owner.held cell waiting)) next
        none := by
  obtain ⟨bound, ledger, hresumable⟩ := hinv.resumable cell waiting nofun hwaiting
  have hdroppable : Droppable cell.key waiting.request waiting.guard ledger := hresumable.safe.1
  have hheld := interferes_held owner cell waiting
  cases sent with
  | none =>
    have htaken := hinv.take hwaiting hinv.staged fun key _ => .refl key owner.db
    exact ⟨_, .dropped hresumable.moves,
      htaken.release (hdroppable.sound.interfered hheld) hresumable.represents⟩
  | some outcome =>
    obtain ⟨next, heffect, hrepresents, hrows⟩ := hresumable.served hserde hinv.staged outcome
    have hstaged : Staged (serve store outcome owner.db waiting.request).2 := staged_serve hinv.staged waiting.request outcome
    let later : Ledger V cell.key bound := ⟨next, ledger.flags, fun _ => hrepresents.key_of⟩
    have hsound : waiting.guard.Sound later := hdroppable.sound_of_effect heffect rfl
    exact ⟨_, .dropped (hresumable.moves.trans (hdroppable.moves _ next heffect)),
      (hinv.take hwaiting hstaged hrows).release (hsound.interfered hheld) hrepresents⟩

/-! ### Sessions -/

theorem not_busy_connect (db : Database C StageTables) (cell : RuntimeKey) :
    ¬ Busy (.connect db : DatabaseOwner V C) none cell := by
  rintro (hwaiting | hworking)
  · cases hwaiting
  · cases hworking

theorem Invariant.connect {db : Database C StageTables} (hstaged : Staged db)
    (hrepresents : ∀ key, Represents store db key (journals key)) :
    Invariant store json (.connect db) journals none where
  staged := hstaged
  together := fun cell _ hbusy => absurd hbusy (not_busy_connect db cell)
  current := fun cell hbusy => absurd hbusy (not_busy_connect db cell)
  older := fun cell hbusy => absurd hbusy (not_busy_connect db cell)
  vacant := fun _ _ _ => rfl
  idle := fun key _ => hrepresents key
  shows := fun _ _ _ _ _ _ hruntime => by cases hruntime
  resumable := fun _ _ _ hwaiting => by cases hwaiting

/-- Flags and generations of an owner change, and nothing else. -/
theorem Invariant.of_same (hinv : Invariant store json owner journals none) (hdb : after.db = owner.db)
    (hcells : after.cells = owner.cells) (hwaiting : after.waiting = owner.waiting)
    (hcurrent : ∀ cell, Busy owner none cell → after.closed = false → after.changing = 0 →
      cell.session_generation = after.session_generation)
    (holder : ∀ cell, Busy owner none cell → after.closed = false → after.changing ≠ 0 →
      cell.session_generation.toNat < after.session_generation.toNat)
    (hvacant : ∀ cell, after.closed = false → after.session_generation.toNat < cell.session_generation.toNat ∨
      after.changing ≠ 0 ∧ cell.session_generation = after.session_generation → (owner.cells cell).runtime = none)
    (hshows : ∀ cell, after.closed = false → after.changing = 0 → cell.session_generation = after.session_generation →
      ¬ Busy owner none cell → ∀ runtime ∈ (owner.cells cell).runtime, journals cell.key = some runtime) :
    Invariant store json after journals none := by
  have hbusy : ∀ cell, Busy after none cell ↔ Busy owner none cell := by
    intro cell
    unfold Busy
    rw [hwaiting]
  refine ⟨hdb ▸ hinv.staged, fun first second hfirst hsecond => ?_, fun cell hcell => hcurrent cell ((hbusy cell).mp hcell),
    fun cell hcell => holder cell ((hbusy cell).mp hcell), fun cell => hcells ▸ hvacant cell, fun key hidle => ?_,
    fun cell hopen hchanging hsession hfree => ?_, fun cell waiting _ hfound => ?_⟩
  · exact hinv.together _ _ ((hbusy _).mp hfirst) ((hbusy _).mp hsecond)
  · rw [hdb]
    exact hinv.idle key fun cell hcell => hidle cell ((hbusy cell).mpr hcell)
  · rw [hcells]
    exact hshows cell hopen hchanging hsession fun hcell => hfree ((hbusy cell).mpr hcell)
  · rw [hwaiting] at hfound
    obtain ⟨bound, ledger, hresumable⟩ := hinv.resumable cell waiting nofun hfound
    exact ⟨bound, ledger, hresumable.frame (congrFun hcells cell) (hdb ▸ .refl _ _) rfl⟩

/-- A closed owner answers nothing more. -/
theorem Invariant.of_closed (hinv : Invariant store json owner journals none) (hdb : after.db = owner.db)
    (hcells : after.cells = owner.cells) (hwaiting : after.waiting = owner.waiting) (hclosed : after.closed = true) :
    Invariant store json after journals none := by
  have hnot : after.closed ≠ false := by
    rw [hclosed]
    exact Bool.noConfusion
  exact hinv.of_same hdb hcells hwaiting (fun _ _ hopen => absurd hopen hnot) (fun _ _ hopen => absurd hopen hnot)
    (fun _ hopen => absurd hopen hnot) fun _ hopen => absurd hopen hnot

/-- There was a next generation, or the owner is closed. -/
theorem reserve_session_change_cases (owner : DatabaseOwner V C) :
    (∃ next, next.toNat = owner.session_generation.toNat + 1 ∧
        owner.reserve_session_change = ({ owner with session_generation := next }, true)) ∨
      owner.reserve_session_change = ({ owner with closed := true }, false) := by
  unfold DatabaseOwner.reserve_session_change
  cases hnext : owner.session_generation.checked_add 1 with
  | none => exact .inr rfl
  | some next => exact .inl ⟨next, UInt64.checked_add_eq_some_iff.mp hnext, rfl⟩

theorem Invariant.reserve (hinv : Invariant store json owner journals none)
    (hreserved : owner.reserve_session_change.2 = true) :
    Invariant store json { owner.reserve_session_change.1 with changing := owner.changing + 1 } journals none := by
  rcases reserve_session_change_cases owner with ⟨next, hnext, hreserve⟩ | hreserve
  · rw [hreserve]
    refine hinv.of_same rfl rfl rfl (fun _ _ _ hnone => absurd hnone (Nat.succ_ne_zero _))
      (fun cell hcell hopen _ => ?_) (fun cell hopen hvacant => hinv.vacant cell hopen (.inl ?_))
      fun _ _ hnone => absurd hnone (Nat.succ_ne_zero _)
    · change cell.session_generation.toNat < next.toNat
      rw [hnext, Nat.lt_succ_iff]
      by_cases hchanging : owner.changing = 0
      · exact Nat.le_of_eq (congrArg UInt64.toNat (hinv.current cell hcell hopen hchanging))
      · exact Nat.le_of_lt (hinv.older cell hcell hopen hchanging)
    · rcases hvacant with hlater | ⟨_, hsame⟩
      · change next.toNat < cell.session_generation.toNat at hlater
        omega
      · have hequal : cell.session_generation.toNat = next.toNat := congrArg UInt64.toNat hsame
        omega
  · rw [hreserve] at hreserved
    cases hreserved

theorem Invariant.exhaust (hinv : Invariant store json owner journals none)
    (hexhausted : owner.reserve_session_change.2 = false) :
    Invariant store json owner.reserve_session_change.1 journals none := by
  rcases reserve_session_change_cases owner with ⟨next, _, hreserve⟩ | hreserve
  · rw [hreserve] at hexhausted
    cases hexhausted
  · rw [hreserve]
    exact hinv.of_closed rfl rfl rfl rfl

theorem Invariant.change (hinv : Invariant store json owner journals none) {changing : Nat}
    (hidle : ∀ cell, owner.waiting cell = none) :
    Invariant store json { owner.reserve_session_change.1 with changing } journals none := by
  have hfree : ∀ cell, ¬ Busy owner none cell := by
    rintro cell (hwaiting | hworking)
    · rw [hidle cell] at hwaiting
      cases hwaiting
    · cases hworking
  rcases reserve_session_change_cases owner with ⟨next, hnext, hreserve⟩ | hreserve
  · rw [hreserve]
    have hvacant : ∀ cell : RuntimeKey, owner.closed = false → next.toNat ≤ cell.session_generation.toNat →
        (owner.cells cell).runtime = none := by
      intro cell hopen hlater
      refine hinv.vacant cell hopen (.inl ?_)
      rw [hnext] at hlater
      exact hlater
    refine hinv.of_same rfl rfl rfl (fun cell hcell => absurd hcell (hfree cell))
      (fun cell hcell => absurd hcell (hfree cell)) (fun cell hopen hlater => hvacant cell hopen ?_)
      fun cell hopen _ hsession _ runtime hruntime => ?_
    · rcases hlater with hlater | ⟨_, hsame⟩
      · exact Nat.le_of_lt hlater
      · exact Nat.le_of_eq (congrArg UInt64.toNat hsame).symm
    · rw [hvacant cell hopen (Nat.le_of_eq (congrArg UInt64.toNat hsession).symm)] at hruntime
      cases hruntime
  · rw [hreserve]
    exact hinv.of_closed rfl rfl rfl rfl

theorem Invariant.close (hinv : Invariant store json owner journals none) :
    Invariant store json { owner.reserve_session_change.1 with closed := true, changing := owner.changing + 1 }
      journals none := by
  rcases reserve_session_change_cases owner with ⟨next, _, hreserve⟩ | hreserve
  · rw [hreserve]
    exact hinv.of_closed rfl rfl rfl rfl
  · rw [hreserve]
    exact hinv.of_closed rfl rfl rfl rfl

theorem Invariant.forget (hinv : Invariant store json owner journals none) (hwaiting : owner.waiting cell = none) :
    Invariant store json { owner with cells := Function.update owner.cells cell .fresh } journals none := by
  have hfresh : ∀ other, ((Function.update owner.cells cell .fresh) other).runtime = none ∨
      Function.update owner.cells cell .fresh other = owner.cells other := by
    intro other
    by_cases hsame : other = cell
    · subst hsame
      rw [Function.update_self]
      exact .inl rfl
    · exact .inr (Function.update_of_ne hsame _ _)
  refine ⟨hinv.staged, hinv.together, hinv.current, hinv.older, fun other hopen hvacant => ?_, hinv.idle,
    fun other hopen hchanging hsession hfree runtime hruntime => ?_, fun other waiting _ hfound => ?_⟩
  · rcases hfresh other with hnone | hsame
    · exact hnone
    · exact (congrArg (·.runtime) hsame).trans (hinv.vacant other hopen hvacant)
  · rcases hfresh other with hnone | hsame
    · cases hnone.symm.trans hruntime
    · exact hinv.shows other hopen hchanging hsession hfree runtime ((congrArg (·.runtime) hsame).symm.trans hruntime)
  · have hne : other ≠ cell := by
      rintro rfl
      cases hwaiting.symm.trans hfound
    obtain ⟨bound, ledger, hresumable⟩ := hinv.resumable other waiting nofun hfound
    exact ⟨bound, ledger, hresumable.frame (Function.update_of_ne hne _ _) (.refl _ _) rfl⟩

/-- Every step of the owner is a step of the journals. -/
theorem Invariant.step (hserde : store.serde.Faithful) (hinv : Invariant store json owner journals none)
    {event : Event V} (hstep : DatabaseOwner.Step store json owner event after) :
    ∃ next, Serial store.codec json journals event next ∧ Invariant store json after next none := by
  cases hstep with
  | start hchanging hwaiting habout => exact hinv.worked hserde (.start hchanging hwaiting habout)
  | reply hwaiting hserve => exact hinv.worked hserde (.reply hwaiting hserve)
  | drop hwaiting => exact hinv.drop hserde hwaiting _ _
  | reserve hreserved => exact ⟨journals, .changed, hinv.reserve hreserved⟩
  | exhaust hexhausted => exact ⟨journals, .changed, hinv.exhaust hexhausted⟩
  | change hchanging hidle => exact ⟨journals, .changed, hinv.change hidle⟩
  | close => exact ⟨journals, .changed, hinv.close⟩
  | close_client =>
    exact ⟨journals, .changed, hinv.of_same rfl rfl rfl hinv.current hinv.older hinv.vacant hinv.shows⟩
  | forget hwaiting => exact ⟨journals, .forgotten, hinv.forget hwaiting⟩
  | connect hidle =>
    refine ⟨journals, .connected, .connect hinv.staged fun key => hinv.idle key fun cell hcell => ?_⟩
    rcases hcell with hwaiting | hworking
    · rw [hidle cell] at hwaiting
      cases hwaiting
    · cases hworking

/-- A run of the owner is a run of the journals, with the same events. -/
theorem Invariant.run (hserde : store.serde.Faithful) {edges : List (Trace.Edge (DatabaseOwner V C) (Event V))}
    (hinv : Invariant store json owner journals none)
    (hrun : Trace.Run (DatabaseOwner.Step store json) owner edges after) :
    ∃ history reached, Trace.Run (Serial store.codec json) journals history reached ∧
      history.map (·.label) = edges.map (·.label) ∧ Invariant store json after reached none := by
  induction hrun generalizing journals with
  | nil owner => exact ⟨[], journals, .nil journals, rfl, hinv⟩
  | cons hstep _ ih =>
    obtain ⟨next, hserial, hnext⟩ := hinv.step hserde hstep
    obtain ⟨history, reached, hhistory, hlabels, hreached⟩ := ih hnext
    exact ⟨_, reached, .cons hserial hhistory, congrArg _ hlabels, hreached⟩

end surrealdb_rn_core.sync_client
