import SurrealSync.Client.WindowReplace

open Std
open surrealdb_sync_protocol surrealdb_sync_protocol.subscription

namespace surrealdb_sync_client

variable {V : Type}

/-- The table without one subscription's slot and the cached rows only it used. -/
def DurableSubscriptions.without_slot (self : DurableSubscriptions V) (id : String) :
    DurableSubscriptions V :=
  collect_records { self with slots := self.slots.erase id }

def DurableClientState.without_slot (state : DurableClientState V) (id : String) : DurableClientState V :=
  { state with subscriptions := state.subscriptions.map (·.without_slot id) }

theorem DurableClientState.subscriptions_without_slot {state : DurableClientState V}
    {windows : DurableSubscriptions V} (hwindows : state.subscriptions = some windows) (id : String) :
    (state.without_slot id).subscriptions = some (windows.without_slot id) := by
  simp [DurableClientState.without_slot, hwindows]

theorem DurableSubscriptions.getElem?_slots_without_slot {windows : DurableSubscriptions V}
    {id other : String} (hother : other ≠ id) : (windows.without_slot id).slots[other]? = windows.slots[other]? := by
  rw [DurableSubscriptions.without_slot, collect_records_slots, BTreeMap.getElem?_erase_of_ne hother]

/-- Dropping a slot leaves the rows of the others alone. -/
theorem DurableSubscriptions.rows_of_without_slot {windows : DurableSubscriptions V} {id other : String}
    {slot : SubscriptionSlot} (hslot : (windows.without_slot id).slots[other]? = some slot) :
    (windows.without_slot id).rows_of slot = windows.rows_of slot :=
  collect_records_rows_of other hslot

theorem DurableSubscriptions.getElem?_records_without_slot {windows : DurableSubscriptions V}
    {id other key : String} (hother : other ≠ id) {slot : SubscriptionSlot}
    (hslot : windows.slots[other]? = some slot) {record_id : RecordId}
    (hkey : slot.members[record_id]? = some key) :
    (windows.without_slot id).records[key]? = windows.records[key]? := by
  apply Option.ext
  intro row
  have huses : DurableSubscriptions.Uses { windows with slots := windows.slots.erase id } key :=
    ⟨other, slot, record_id, (getElem?_slots_without_slot hother).trans hslot, hkey⟩
  rw [DurableSubscriptions.without_slot, collect_records_getElem?_records]
  exact and_iff_right huses

theorem guard_subscription_scope_without_slot (state : DurableClientState V) (id : String)
    (scope : ScopeSnapshot) :
    guard_subscription_scope (state.without_slot id) scope = guard_subscription_scope state scope := by
  unfold guard_subscription_scope
  have hscopes : (∃ subscriptions ∈ (state.without_slot id).subscriptions,
      ∃ previous ∈ subscriptions.authorization_scope, previous ≠ scope) ↔
      ∃ subscriptions ∈ state.subscriptions,
        ∃ previous ∈ subscriptions.authorization_scope, previous ≠ scope := by
    unfold DurableClientState.without_slot
    cases state.subscriptions with
    | none => simp
    | some windows => simp [DurableSubscriptions.without_slot]
  simp only [hscopes]
  rfl

theorem initial_rows_without_slot {windows : DurableSubscriptions V} {id other : String}
    (hother : other ≠ id) (response : SubscriptionResponse V) :
    initial_rows (windows.without_slot id) windows.slots[other]? response =
      initial_rows windows windows.slots[other]? response := by
  unfold initial_rows
  cases hslot : windows.slots[other]? with
  | none => rfl
  | some slot =>
    cases response.response with
    | Snapshot reason => rfl
    | Cancelled => rfl
    | Delta before_revision =>
      have hfound : Except.okOr (some slot) invalid = .ok slot := rfl
      simp only [hfound, Except.ok_bind]
      refine congrArg (Bind.bind _) (funext fun next_revision => ?_)
      refine congrArg (Bind.bind _) (funext fun _ => ?_)
      apply Except.foldlM_congr
      rintro rows ⟨record_id, key⟩ hmember
      rw [ExtTreeMap.mem_toList_iff_getElem?_eq_some] at hmember
      rw [DurableSubscriptions.getElem?_records_without_slot hother hslot hmember]

theorem repeats_slot_without_slot {windows : DurableSubscriptions V} {id other : String} (hother : other ≠ id)
    {slot : SubscriptionSlot} (hslot : windows.slots[other]? = some slot) (response : SubscriptionResponse V) :
    repeats_slot (windows.without_slot id) slot response ↔ repeats_slot windows slot response := by
  have hrow : ∀ record_id : RecordId,
      slot.members[record_id]?.bind (fun key => (windows.without_slot id).records[key]?) =
        slot.members[record_id]?.bind fun key => windows.records[key]? := by
    intro record_id
    cases hkey : slot.members[record_id]? with
    | none => rfl
    | some key => exact DurableSubscriptions.getElem?_records_without_slot hother hslot hkey
  unfold repeats_slot
  simp only [hrow]

/-- A valid state stays valid when a slot is dropped. -/
theorem DurableClientState.Valid.without_slot {state : DurableClientState V} (hvalid : state.Valid)
    (id : String) : (state.without_slot id).Valid := by
  unfold DurableClientState.without_slot
  cases hsubscriptions : state.subscriptions with
  | none =>
    rw [Option.map_none, ← hsubscriptions]
    exact hvalid
  | some windows =>
    have hwindows := hvalid.windows windows hsubscriptions
    have hreduced : (windows.without_slot id).Valid
        { state with subscriptions := some (windows.without_slot id) } := by
      refine hwindows.drop id { windows with slots := windows.slots.erase id } rfl rfl rfl
        (fun other _ => ⟨rfl, rfl⟩) (fun request hrequest => hrequest) ?_ hwindows.distinct_le
      intro barrier hbarrier
      exact hwindows.barriers id barrier hbarrier
    exact hvalid.with_windows hreduced

/-- A row that a response brings while another subscription's slot holds the same
record at the same epoch and version. -/
structure Shared (state : DurableClientState V) (id : String) (response : SubscriptionResponse V)
    (row held : SubscriptionRow V) : Prop where
  upserted : .Upsert row ∈ response.changes
  slot : ∃ slot, state.windows.slots[id]? = some slot ∧ slot.frontier.epoch = response.frontier.epoch ∧
    (state.windows.rows_of slot)[row.record_id]? = some held
  version : held.version = row.version

theorem DurableSubscriptions.exists_member_of_rows_of {windows : DurableSubscriptions V}
    {owner : DurableClientState V} {id : String} {slot : SubscriptionSlot}
    (hvalid : SlotValid windows owner id slot) {record_id : RecordId} {row : SubscriptionRow V}
    (hrow : (windows.rows_of slot)[record_id]? = some row) :
    ∃ key, slot.members[record_id]? = some key ∧ windows.records[key]? = some row ∧
      MemberValid slot record_id key row := by
  rw [windows.getElem?_rows_of] at hrow
  obtain ⟨key, hkey, hrow⟩ := Option.bind_eq_some_iff.mp hrow
  obtain ⟨found, hfound, hmember⟩ := hvalid.members record_id key hkey
  cases hrow.symm.trans hfound
  exact ⟨key, hkey, hrow, hmember⟩

/-- The two rows meet in the cache. -/
theorem Shared.stored {state : DurableClientState V} (hvalid : state.Valid) {id : String}
    {response : SubscriptionResponse V} {row held : SubscriptionRow V}
    (hshared : Shared state id response row held) :
    state.windows.records[cache_key response.frontier.epoch row]? = some held := by
  obtain ⟨slot, hslot, hepoch, hrow⟩ := hshared.slot
  obtain ⟨key, _, hstored, hmember⟩ := DurableSubscriptions.exists_member_of_rows_of (hvalid.slot hslot) hrow
  have hkey : cache_key response.frontier.epoch row = key := by
    rw [← hmember.key, cache_key, cache_key, hepoch, hshared.version, hmember.record]
  rw [hkey, hstored]

/-- A response that repeats a slot brings no new rows. -/
theorem Shared.eq_of_repeats {state : DurableClientState V} (hvalid : state.Valid) {id : String}
    {response : SubscriptionResponse V} {row held : SubscriptionRow V}
    (hshared : Shared state id response row held) {previous : SubscriptionSlot}
    (hslot : state.windows.slots[response.subscription_id]? = some previous)
    (hrepeats : repeats_slot state.windows previous response) : held = row := by
  obtain ⟨_, hfrontier, _, _, _, _, hchanges⟩ := hrepeats
  have hrow : (state.windows.rows_of previous)[row.record_id]? = some row := by
    rw [state.windows.getElem?_rows_of]
    exact hchanges _ hshared.upserted
  obtain ⟨key, _, hfound, hmember⟩ := DurableSubscriptions.exists_member_of_rows_of (hvalid.slot hslot) hrow
  have hstored := hshared.stored hvalid
  rw [hfrontier, hmember.key, hfound] at hstored
  exact (Option.some.inj hstored).symm

/-- A row of the cache survives the removal of a slot, unless only that slot
refers to it. -/
theorem stored_without_slot {state : DurableClientState V} (hvalid : state.Valid)
    {windows : DurableSubscriptions V} (hwindows : state.subscriptions = some windows) (id : String)
    {key : String} {stored : SubscriptionRow V} (hstored : windows.records[key]? = some stored) :
    (windows.without_slot id).records[key]? = some stored ∨
      ∃ (slot : SubscriptionSlot) (record_id : RecordId), windows.slots[id]? = some slot ∧
        slot.members[record_id]? = some key := by
  obtain ⟨other, slot, record_id, hslot, hkey⟩ :=
    (hvalid.windows windows hwindows).used key (BTreeMap.mem_of_getElem? hstored)
  by_cases hid : other = id
  · exact .inr ⟨slot, record_id, hid ▸ hslot, hkey⟩
  · rw [DurableSubscriptions.getElem?_records_without_slot hid hslot hkey]
    exact .inl hstored

/-- A row that is stored for one slot only is shared with the response that
brings it again. -/
theorem shared_of_stored {state : DurableClientState V} (hvalid : state.Valid) {id : String}
    {slot : SubscriptionSlot} (hslot : state.windows.slots[id]? = some slot) {record_id : RecordId}
    {response : SubscriptionResponse V} {row stored : SubscriptionRow V}
    (hupsert : .Upsert row ∈ response.changes)
    (hkey : slot.members[record_id]? = some (cache_key response.frontier.epoch row))
    (hstored : state.windows.records[cache_key response.frontier.epoch row]? = some stored) :
    Shared state id response row stored ∧ stored.record_id = row.record_id := by
  obtain ⟨found, hfound, hmember⟩ := (hvalid.slot hslot).members record_id _ hkey
  cases hstored.symm.trans hfound
  obtain ⟨hepoch, hversion, hrecord⟩ := cache_key_inj hmember.key
  have hid : record_id = row.record_id := hmember.record.symm.trans hrecord
  refine ⟨⟨hupsert, ⟨slot, hslot, hepoch, ?_⟩, hversion⟩, hrecord⟩
  rw [state.windows.getElem?_rows_of, ← hid, hkey, Option.bind_some, hstored]

variable [DecidableEq V]

/-- The runtime that would be open had the subscription no slot. -/
def ClientRuntime.without_slot (self : ClientRuntime V) (id : String) : ClientRuntime V where
  state := self.state.without_slot id
  valid := DurableClientState.validate_eq_ok_iff.mpr (self.is_valid.without_slot id)

theorem admit_response_without_slot {state : DurableClientState V} {response : SubscriptionResponse V}
    {id : String} (hother : response.subscription_id ≠ id) :
    admit_response (state.without_slot id) response = admit_response state response := by
  unfold admit_response
  simp only [guard_subscription_scope_without_slot]
  cases hsubscriptions : state.subscriptions with
  | none =>
    have hreduced : (state.without_slot id).subscriptions = none := by
      simp [DurableClientState.without_slot, hsubscriptions]
    rw [hreduced]
    rfl
  | some windows =>
    rw [DurableClientState.subscriptions_without_slot hsubscriptions]
    refine congrArg (Bind.bind _) (funext fun _ => ?_)
    have hfound : ∀ current : DurableSubscriptions V, Except.okOr (some current) invalid = .ok current :=
      fun _ => rfl
    simp only [hfound, Except.ok_bind]
    refine congrArg (Bind.bind _) (funext fun _ => ?_)
    refine congrArg (Bind.bind _) (funext fun request => ?_)
    cases request.command with
    | Resume subscription_id generation token => rfl
    | Cancel subscription_id generation => rfl
    | Start subscription_id generation definition_id parameters limit =>
      refine congrArg (Bind.bind _) (funext fun _ => ?_)
      split
      · rfl
      · refine congrArg (Bind.bind _) (funext fun token => ?_)
        refine congrArg (Bind.bind _) (funext fun _ => ?_)
        refine congrArg (Bind.bind _) (funext fun _ => ?_)
        rw [DurableSubscriptions.getElem?_slots_without_slot hother]
        refine congrArg (Bind.bind _) (funext fun _ => ?_)
        rw [initial_rows_without_slot hother]
        cases hslot : windows.slots[response.subscription_id]? with
        | none => rfl
        | some slot =>
          have hrepeats := repeats_slot_without_slot hother hslot response
          by_cases hview : response.view_revision = slot.view_revision
          · simp only [Option.filter, hview, decide_true, if_true, hrepeats]
          · simp only [Option.filter, hview, decide_false]
            rfl

theorem install_window_eq_ok_iff {current : DurableSubscriptions V} {response : SubscriptionResponse V}
    {token : OpaqueCheckpoint} {rows : BTreeMap RecordId (SubscriptionRow V)} :
    (∃ windows, install_window current response token rows = .ok windows) ↔
      ∃ records, rows.vals.foldlM (cache_row response.frontier.epoch) current.records = .ok records := by
  simp only [install_window, Except.bind_eq_ok_iff]
  constructor
  · rintro ⟨_, records, hrecords, _⟩
    exact ⟨records, hrecords⟩
  · rintro ⟨records, hrecords⟩
    exact ⟨_, records, hrecords, rfl⟩

/-- A window that fits into the cache without the other slot fits into the whole
cache when the shared rows are the same. -/
theorem install_window_of_without_slot {state : DurableClientState V} (hvalid : state.Valid)
    {windows : DurableSubscriptions V} (hwindows : state.subscriptions = some windows)
    {response : SubscriptionResponse V} {token : OpaqueCheckpoint}
    {rows : BTreeMap RecordId (SubscriptionRow V)} {request : SubscriptionRequest}
    (hadmitted : WindowAdmitted state response token rows windows request) {id : String}
    (hreduced : ∃ later, install_window (windows.without_slot id) response token rows = .ok later)
    (hsame : ∀ row held, Shared state id response row held → held.record_id = row.record_id → held = row) :
    ∃ later, install_window windows response token rows = .ok later := by
  have htable := DurableClientState.windows_eq hwindows
  obtain ⟨records, hrecords⟩ := install_window_eq_ok_iff.mp hreduced
  obtain ⟨hgrows, hrows⟩ := foldlM_cache_row_eq_ok hrecords
  refine install_window_eq_ok_iff.mpr (foldlM_cache_row_succeeds ?_ ?_)
  · intro row hrow stored hstored
    obtain ⟨record_id, hrecord⟩ := BTreeMap.mem_vals_iff.mp hrow
    rcases hadmitted.row hrecord with hupsert | ⟨previous, hprevious, hepoch, hold⟩
    · rcases stored_without_slot hvalid hwindows id hstored with hkept | ⟨slot, member, hslot, hkey⟩
      · exact Option.some.inj ((hgrows _ stored hkept).symm.trans (hrows row hrow))
      · obtain ⟨hshared, hid⟩ := shared_of_stored hvalid (htable ▸ hslot) hupsert hkey (htable ▸ hstored)
        exact hsame row stored hshared hid
    · obtain ⟨key, _, hfound, hmember⟩ := DurableSubscriptions.exists_member_of_rows_of
        ((hvalid.windows windows hwindows).slots _ previous hprevious) hold
      rw [hepoch, hmember.key] at hstored
      exact Option.some.inj (hstored.symm.trans hfound)
  · intro row hrow other hother hkey
    have hfound := hrows other hother
    rw [← hkey, hrows row hrow] at hfound
    exact Option.some.inj hfound

/-- A window that fits into the cache agrees with it on the shared rows. -/
theorem shared_eq_of_install_window {state : DurableClientState V} (hvalid : state.Valid)
    {windows later : DurableSubscriptions V} (hwindows : state.subscriptions = some windows)
    {response : SubscriptionResponse V} {token : OpaqueCheckpoint}
    {rows : BTreeMap RecordId (SubscriptionRow V)} {request : SubscriptionRequest}
    (hadmitted : WindowAdmitted state response token rows windows request)
    (hinstall : install_window windows response token rows = .ok later) {id : String}
    {row held : SubscriptionRow V} (hshared : Shared state id response row held) : held = row := by
  have htable := DurableClientState.windows_eq hwindows
  obtain ⟨first, touched, _, hchanges⟩ := hadmitted.rows
  obtain ⟨hupserted, _⟩ := apply_changes_eq_ok hchanges
  have hrow : rows[row.record_id]? = some row := (hupserted _ hshared.upserted).2
  obtain ⟨records, hrecords⟩ := install_window_eq_ok_iff.mp ⟨later, hinstall⟩
  obtain ⟨hgrows, hrows⟩ := foldlM_cache_row_eq_ok hrecords
  have hstored := hgrows _ held (htable ▸ hshared.stored hvalid)
  rw [hrows row (BTreeMap.mem_vals_iff.mpr ⟨_, hrow⟩)] at hstored
  exact (Option.some.inj hstored).symm

/-- What one subscription shows is the same in both states. -/
structure Unaffected (before after : ClientRuntime V) (id : String) : Prop where
  slot : after.state.windows.slots[id]? = before.state.windows.slots[id]?
  request : after.state.windows.requests[id]? = before.state.windows.requests[id]?
  rows : (after.subscription_snapshot id).map (·.rows) = (before.subscription_snapshot id).map (·.rows)

theorem subscription_snapshot_rows (self : ClientRuntime V) (id : String) :
    (self.subscription_snapshot id).map (·.rows) = self.state.windows.slots[id]?.map fun slot =>
      slot.ordered_ids.filterMap fun record_id => (self.state.windows.rows_of slot)[record_id]? := by
  unfold ClientRuntime.subscription_snapshot DurableClientState.windows
  cases self.state.subscriptions with
  | none => simp [DurableSubscriptions.default]
  | some windows =>
    cases hslot : windows.slots[id]? with
    | none => simp [hslot]
    | some slot => simp [hslot, DurableSubscriptions.slot_rows, DurableSubscriptions.getElem?_rows_of]

theorem WindowInstalled.unaffected {before after : ClientRuntime V} {windows later : DurableSubscriptions V}
    (hbefore : before.state.subscriptions = some windows) (hafter : after.state.subscriptions = some later)
    {response : SubscriptionResponse V} {token : OpaqueCheckpoint}
    {rows : BTreeMap RecordId (SubscriptionRow V)}
    (hinstalled : WindowInstalled windows response token rows later) {id : String}
    (hother : response.subscription_id ≠ id) : Unaffected before after id := by
  have hwindows := DurableClientState.windows_eq hbefore
  have hlater := DurableClientState.windows_eq hafter
  have hslot : later.slots[id]? = windows.slots[id]? := by
    rw [hinstalled.slots, BTreeMap.getElem?_insert_of_ne hother.symm]
  refine ⟨by rw [hwindows, hlater, hslot], by rw [hwindows, hlater, hinstalled.requests], ?_⟩
  rw [subscription_snapshot_rows, subscription_snapshot_rows, hwindows, hlater, hslot]
  cases hfound : windows.slots[id]? with
  | none => rfl
  | some slot =>
    have hrows : later.rows_of slot = windows.rows_of slot := by
      have hvalid := (before.is_valid.windows windows hbefore).slots id slot hfound
      exact hinstalled.others id slot hother.symm hfound hvalid.mem_records
    rw [Option.map_some, Option.map_some, hrows]

theorem windowAdmitted_of_admit_response {state : DurableClientState V} {response : SubscriptionResponse V}
    {token : OpaqueCheckpoint} {rows : BTreeMap RecordId (SubscriptionRow V)}
    (hadmits : admit_response state response = .ok (.Window token rows))
    {windows : DurableSubscriptions V} (hwindows : state.subscriptions = some windows) :
    ∃ request, WindowAdmitted state response token rows windows request := by
  obtain ⟨current, request, hanswered, hadmitted⟩ := admit_response_eq_ok hadmits
  cases hadmitted with
  | window hwindow =>
    cases hwindows.symm.trans hanswered.subscriptions
    exact ⟨request, hwindow⟩

/-- What an accepted window leaves behind: the installed table under the next
revision. -/
theorem prepared_window {self : ClientRuntime V} {response : SubscriptionResponse V}
    {prepared : PreparedTransition V} (hprepare : self.prepare_subscription_response response = .ok prepared)
    {token : OpaqueCheckpoint} {rows : BTreeMap RecordId (SubscriptionRow V)}
    (hadmits : admit_response self.state response = .ok (.Window token rows))
    {windows : DurableSubscriptions V} (hwindows : self.state.subscriptions = some windows) :
    ∃ later, install_window windows response token rows = .ok later ∧
      prepared.state =
        { self.state with subscriptions := some later, revision := prepared.state.revision } ∧
      prepared.state.revision.toNat = self.state.revision.toNat + 1 := by
  obtain ⟨next, heffect, hnext⟩ := effect_of_prepare_subscription_response hprepare
  cases heffect with
  | withdrawn hother _ => cases hadmits.symm.trans hother
  | reshown hother => cases hadmits.symm.trans hother
  | @shown _ _ _ current later hsame hcurrent hinstall =>
    cases hadmits.symm.trans hsame
    cases hwindows.symm.trans hcurrent
    obtain ⟨request, hadmitted⟩ := windowAdmitted_of_admit_response hadmits hwindows
    refine ⟨later, hinstall, ?_⟩
    obtain ⟨_, ⟨hunchanged, _⟩ | ⟨_, hstate, hrevision⟩⟩ := ClientRuntime.prepare_eq_ok_iff.mp hnext
    · have hlater : some later = some windows :=
        (congrArg DurableClientState.subscriptions hunchanged).trans hwindows
      exact absurd (Option.some.inj hlater) ((windowInstalled_of_install_window hinstall).ne hadmitted)
    · exact ⟨hstate, hrevision⟩

/-- An installed window that leaves a valid table is prepared under the next revision. -/
theorem prepare_subscription_response_succeeds {self : ClientRuntime V} {response : SubscriptionResponse V}
    {token : OpaqueCheckpoint} {rows : BTreeMap RecordId (SubscriptionRow V)}
    (hadmits : admit_response self.state response = .ok (.Window token rows))
    {windows later : DurableSubscriptions V} (hwindows : self.state.subscriptions = some windows)
    (hinstall : install_window windows response token rows = .ok later) {revision : UInt64}
    (hrevision : revision.toNat = self.state.revision.toNat + 1)
    (hvalid : later.Valid { self.state with subscriptions := some later, revision }) :
    ∃ hstamped : DurableClientState.validate
        { self.state with subscriptions := some later, revision } = .ok (),
      self.prepare_subscription_response response = .ok ⟨self.state.revision, _, hstamped⟩ := by
  obtain ⟨request, hadmitted⟩ := windowAdmitted_of_admit_response hadmits hwindows
  have hstamped : Stamped self.state { self.state with subscriptions := some later }
      { self.state with subscriptions := some later, revision } := by
    refine .inr ⟨fun hunchanged => ?_, rfl, hrevision⟩
    have hlater : some later = some windows :=
      (congrArg DurableClientState.subscriptions hunchanged).trans hwindows
    exact (windowInstalled_of_install_window hinstall).ne hadmitted (Option.some.inj hlater)
  refine ⟨DurableClientState.validate_eq_ok_iff.mpr (self.is_valid.with_windows hvalid), ?_⟩
  unfold ClientRuntime.prepare_subscription_response
  simp only [hadmits, hwindows, Except.okOr, Except.ok_bind, hinstall]
  exact ClientRuntime.prepare_succeeds hstamped _

/-- A window accepted without the other slot is accepted with it, once it fits
into the whole cache. -/
theorem step_of_install_window {self : ClientRuntime V} {id : String} {response : SubscriptionResponse V}
    (hother : response.subscription_id ≠ id) {prepared : PreparedTransition V}
    (hreduced : (self.without_slot id).prepare_subscription_response response = .ok prepared)
    {token : OpaqueCheckpoint} {rows : BTreeMap RecordId (SubscriptionRow V)}
    (hadmits : admit_response self.state response = .ok (.Window token rows))
    {windows later : DurableSubscriptions V} (hwindows : self.state.subscriptions = some windows)
    (hinstall : install_window windows response token rows = .ok later) :
    ∃ after, Step self (.SubscriptionResponse response) after ∧ Unaffected self after id := by
  have hinstalled := windowInstalled_of_install_window hinstall
  obtain ⟨request, hadmitted⟩ := windowAdmitted_of_admit_response hadmits hwindows
  obtain ⟨reduced, hreduced_install, hstate, hrevision⟩ := prepared_window hreduced
    ((admit_response_without_slot hother).trans hadmits)
    (DurableClientState.subscriptions_without_slot hwindows id)
  have hreduced_installed := windowInstalled_of_install_window hreduced_install
  have hreduced_valid := (DurableClientState.validate_eq_ok_iff.mp prepared.valid).windows reduced
    (by rw [hstate])
  have hvalid : later.Valid
      { self.state with subscriptions := some later, revision := prepared.state.revision } := by
    refine hinstalled.valid self.is_valid hwindows hadmitted ?_ ?_
    · have hauthorization := hreduced_valid.authorization
      rw [hstate] at hauthorization
      unfold validate_authorization at hauthorization ⊢
      rw [hreduced_installed.authorization] at hauthorization
      rw [hinstalled.authorization]
      exact hauthorization
    · have hslot : reduced.slots[response.subscription_id]? = some (shown_slot response token rows) := by
        rw [hreduced_installed.slots, ExtTreeMap.getElem?_insert_self]
      have hshown := (hreduced_valid.slots _ _ hslot).transfer later
        (by rw [hinstalled.requests, hreduced_installed.requests]; rfl)
        (by rw [hinstalled.cancelled, hreduced_installed.cancelled]; rfl) hinstalled.authorization
        (hinstalled.shown.trans hreduced_installed.shown.symm) (some later) prepared.state.revision
      rw [hstate] at hshown
      exact hshown
  obtain ⟨hstamped, hprepare⟩ := prepare_subscription_response_succeeds hadmits hwindows hinstall hrevision hvalid
  refine ⟨⟨_, hstamped⟩, ⟨_, hprepare, ClientRuntime.install_eq_ok_iff.mpr ⟨rfl, rfl⟩⟩, ?_⟩
  exact hinstalled.unaffected hwindows rfl hother

/-- A response to one subscription that is accepted without another one's slot,
and brings the values that slot holds, is accepted next to it and leaves it alone
exactly when it brings the sort keys that slot holds as well. -/
theorem subscriptions_isolated_iff {self : ClientRuntime V} {id : String} {response : SubscriptionResponse V}
    (hother : response.subscription_id ≠ id) (hkind : response.response ≠ .Cancelled)
    (haccepted : ∃ prepared, (self.without_slot id).prepare_subscription_response response = .ok prepared)
    (hvalues : ∀ row held, Shared self.state id response row held → held.value = row.value) :
    (∃ after, Step self (.SubscriptionResponse response) after ∧ Unaffected self after id) ↔
      ∀ row held, Shared self.state id response row held → held.sort_key = row.sort_key := by
  obtain ⟨prepared, hreduced⟩ := haccepted
  obtain ⟨admission, hadmits, _⟩ := Except.bind_eq_ok_iff.mp hreduced
  have hadmits := (admit_response_without_slot hother).symm.trans hadmits
  obtain ⟨windows, request, hanswered, hadmitted⟩ := admit_response_eq_ok hadmits
  have htable := DurableClientState.windows_eq hanswered.subscriptions
  cases hadmitted with
  | cancelled hcancelled => exact absurd hcancelled hkind
  | repeated hslot hrepeats =>
    constructor
    · intro _ row held hshared
      rw [hshared.eq_of_repeats self.is_valid (htable ▸ hslot) (htable ▸ hrepeats)]
    · intro _
      have hprepare : self.prepare_subscription_response response =
          .ok ⟨self.state.revision, self.state, self.valid⟩ := by
        unfold ClientRuntime.prepare_subscription_response
        simp only [hadmits, Except.ok_bind, ClientRuntime.prepare_self]
      exact ⟨self, ⟨_, hprepare, ClientRuntime.install_eq_ok_iff.mpr ⟨rfl, rfl⟩⟩, rfl, rfl, rfl⟩
  | @window token rows hwindow =>
    constructor
    · rintro ⟨after, ⟨installed, hprepare, _⟩, _⟩ row held hshared
      obtain ⟨later, hinstall, _⟩ := prepared_window hprepare hadmits hanswered.subscriptions
      rw [shared_eq_of_install_window self.is_valid hanswered.subscriptions hwindow hinstall hshared]
    · intro hsort_keys
      have hwindows := hanswered.subscriptions
      obtain ⟨reduced, hreduced_install, _⟩ := prepared_window hreduced
        ((admit_response_without_slot hother).trans hadmits)
        (DurableClientState.subscriptions_without_slot hwindows id)
      have hinstall : ∃ later, install_window windows response token rows = .ok later := by
        refine install_window_of_without_slot self.is_valid hwindows hwindow ⟨reduced, hreduced_install⟩ ?_
        intro row held hshared hrecord
        exact SubscriptionRow.ext hrecord (hvalues row held hshared) hshared.version
          (hsort_keys row held hshared)
      obtain ⟨later, hinstall⟩ := hinstall
      exact step_of_install_window hother hreduced hadmits hwindows hinstall

namespace transitions

/-- A window "first" that shows the record "a", next to a start of "second". -/
def two_windows (definition : String) : List (Transition String) := [
  .StartSubscription (start "first" 1 "by_score"),
  .StartSubscription (start "second" 1 definition),
  .SubscriptionResponse (window "first" 1 (ordered_by "score" .Ascending) ⟨1, 1⟩ 1 (.Snapshot .Initial) ["a"]
    [.Upsert (row "a" 1 "x" 5)])]

/-- A response for "second" with the version of the record "a" that "first" shows. -/
def second_window (coverage : WindowCoverage) (sort_key : Int64) : SubscriptionResponse String :=
  window "second" 1 coverage ⟨1, 2⟩ 1 (.Snapshot .Initial) ["a"] [.Upsert (row "a" 1 "x" sort_key)]

theorem shared_second_window {state : DurableClientState String} {slot : SubscriptionSlot}
    (hslot : state.windows.slots["first"]? = some slot)
    (hrow : (state.windows.rows_of slot)[RecordId.mk "a"]? = some (row "a" 1 "x" 5))
    {coverage : WindowCoverage} {sort_key : Int64} {upserted held : SubscriptionRow String}
    (hshared : Shared state "first" (second_window coverage sort_key) upserted held) :
    upserted = row "a" 1 "x" sort_key ∧ held = row "a" 1 "x" 5 := by
  obtain ⟨hupserted, ⟨other, hother, _, hheld⟩, _⟩ := hshared
  cases List.mem_singleton.mp hupserted
  cases hslot.symm.trans hother
  exact ⟨rfl, Option.some.inj (hheld.symm.trans hrow)⟩

/-- Two windows over one order field in opposite directions share a row. -/
theorem subscriptions_isolated_by_direction :
    ∃ runtime after : ClientRuntime String,
      Shared runtime.state "first" (second_window (ordered_by "score" .Descending) 5) (row "a" 1 "x" 5)
        (row "a" 1 "x" 5) ∧
      Step runtime (.SubscriptionResponse (second_window (ordered_by "score" .Descending) 5)) after ∧
      Unaffected runtime after "first" := by
  have hexecute : (do
      let (_, last) ← opened.execute (two_windows "by_score")
      let _ ← (last.without_slot "first").prepare_subscription_response
        (second_window (ordered_by "score" .Descending) 5)
      Except.refuse (¬ ∃ slot ∈ last.state.windows.slots["first"]?, slot.frontier.epoch = 1 ∧
        (last.state.windows.rows_of slot)[RecordId.mk "a"]? = some (row "a" 1 "x" 5))
        ClientError.EmptyCommit) = .ok () := by
    decide +kernel
  simp only [Except.bind_eq_ok_iff, Except.refuse_eq_ok_iff, not_not] at hexecute
  obtain ⟨⟨_, last⟩, _, prepared, hprepared, slot, hslot, hepoch, hrow⟩ := hexecute
  have hsame : ∀ upserted held, Shared last.state "first" (second_window (ordered_by "score" .Descending) 5)
      upserted held → held = upserted := by
    intro upserted held hshared
    obtain ⟨rfl, rfl⟩ := shared_second_window hslot hrow hshared
    rfl
  have hisolated := (subscriptions_isolated_iff (by decide) (by decide) ⟨prepared, hprepared⟩
    (fun _ _ hshared => by rw [hsame _ _ hshared])).mpr fun _ _ hshared => by rw [hsame _ _ hshared]
  obtain ⟨after, hstep, hunaffected⟩ := hisolated
  exact ⟨last, after, ⟨List.mem_singleton.mpr rfl, ⟨slot, hslot, hepoch, hrow⟩, rfl⟩, hstep, hunaffected⟩

/-- Two windows over different order fields cannot show one version of a record:
the second one is refused, though it would be accepted alone. -/
theorem subscription_refused_by_other_order_field :
    ¬ ∀ (runtime : ClientRuntime String) (id : String) (response : SubscriptionResponse String),
      response.subscription_id ≠ id → response.response ≠ .Cancelled →
      (∃ prepared, (runtime.without_slot id).prepare_subscription_response response = .ok prepared) →
      (∀ upserted held, Shared runtime.state id response upserted held → held.value = upserted.value) →
      ∃ after, Step runtime (.SubscriptionResponse response) after ∧ Unaffected runtime after id := by
  have hexecute : (do
      let (_, last) ← opened.execute (two_windows "by_rank")
      let _ ← (last.without_slot "first").prepare_subscription_response
        (second_window (ordered_by "rank" .Ascending) 9)
      Except.refuse (¬ ((last.prepare_subscription_response
          (second_window (ordered_by "rank" .Ascending) 9)).isOk = false ∧
        ∃ slot ∈ last.state.windows.slots["first"]?,
          (last.state.windows.rows_of slot)[RecordId.mk "a"]? = some (row "a" 1 "x" 5)))
        ClientError.EmptyCommit) = .ok () := by
    decide +kernel
  simp only [Except.bind_eq_ok_iff, Except.refuse_eq_ok_iff, not_not] at hexecute
  obtain ⟨⟨_, last⟩, _, prepared, hprepared, hrefused, slot, hslot, hrow⟩ := hexecute
  intro hclaim
  obtain ⟨after, ⟨accepted, hprepare, _⟩, _⟩ := hclaim last "first"
    (second_window (ordered_by "rank" .Ascending) 9) (by decide) (by decide) ⟨prepared, hprepared⟩
    fun upserted held hshared => by
      obtain ⟨rfl, rfl⟩ := shared_second_window hslot hrow hshared
      rfl
  exact absurd (Except.isOk_eq_true_iff.mpr ⟨accepted, hprepare⟩) (Bool.eq_false_iff.mp hrefused)

end transitions

end surrealdb_sync_client
