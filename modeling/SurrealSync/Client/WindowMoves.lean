import SurrealSync.Client.Admission
import SurrealSync.Client.Effect
import SurrealSync.Client.Renaming
import SurrealSync.Client.RowCache
import SurrealSync.Client.Validity

open Std
open surrealdb_sync_protocol surrealdb_sync_protocol.subscription

namespace surrealdb_sync_client

variable {V : Type}

/-- The slot an admitted window installs. -/
def shown_slot (response : SubscriptionResponse V) (token : OpaqueCheckpoint)
    (rows : BTreeMap RecordId (SubscriptionRow V)) : SubscriptionSlot where
  generation := response.generation
  plan_fingerprint := response.plan_fingerprint
  scope := response.scope
  frontier := response.frontier
  view_revision := response.view_revision
  coverage := response.coverage
  ordered_ids := response.ordered_ids
  token
  members := rows.map fun _ row => cache_key response.frontier.epoch row

theorem DurableClientState.Valid.slot {state : DurableClientState V} (hvalid : state.Valid) {id : String}
    {slot : SubscriptionSlot} (hslot : state.windows.slots[id]? = some slot) :
    SlotValid state.windows state id slot := by
  unfold DurableClientState.windows at hslot ⊢
  cases hwindows : state.subscriptions with
  | none => simp [hwindows, DurableSubscriptions.default] at hslot
  | some windows =>
    rw [hwindows] at hslot
    exact (hvalid.windows windows hwindows).slots id slot hslot

theorem DurableClientState.Valid.request {state : DurableClientState V} (hvalid : state.Valid) {id : String}
    {request : SubscriptionRequest} (hrequest : state.windows.requests[id]? = some request) :
    validate_request state id request = .ok () := by
  unfold DurableClientState.windows at hrequest
  cases hwindows : state.subscriptions with
  | none => simp [hwindows, DurableSubscriptions.default] at hrequest
  | some windows =>
    rw [hwindows] at hrequest
    exact (hvalid.windows windows hwindows).requests id request hrequest

/-- A response starts from nothing, or from the rows its slot shows. -/
theorem initial_rows_eq_ok {current : DurableSubscriptions V} {previous : Option SubscriptionSlot}
    {response : SubscriptionResponse V} {first : BTreeMap RecordId (SubscriptionRow V)}
    (hinitial : initial_rows current previous response = .ok first) :
    first = ∅ ∨ ∃ slot, previous = some slot ∧ response.frontier.epoch = slot.frontier.epoch ∧
      first = current.rows_of slot := by
  unfold initial_rows at hinitial
  split at hinitial
  · simp only [Except.bind_eq_ok_iff, Except.okOr_eq_ok_iff, Except.refuse_eq_ok_iff, not_or, not_not,
      ne_eq] at hinitial
    obtain ⟨slot, hslot, _, _, _, ⟨_, _, _, hepoch, _⟩, hrows⟩ := hinitial
    refine .inr ⟨slot, hslot, hepoch, ?_⟩
    obtain ⟨hmembers, hothers⟩ := BTreeMap.foldlM_toList_insert_eq_ok_iff
      (g := fun member => Except.okOr current.records[member.2]? invalid) |>.mp hrows
    apply ExtTreeMap.ext_getElem?
    intro record_id
    rw [current.getElem?_rows_of]
    cases hkey : slot.members[record_id]? with
    | none => exact hothers record_id hkey
    | some key =>
      obtain ⟨row, hrow, hfirst⟩ := hmembers record_id key hkey
      rw [hfirst, Option.bind_some, Except.okOr_eq_ok_iff.mp hrow]
  · cases hinitial
    exact .inl rfl
  · cases hinitial

/-- What one membership change does: it touches its own record, for the first
time, and no other. -/
structure ChangeApplied (seen : BTreeSet RecordId) (rows : BTreeMap RecordId (SubscriptionRow V))
    (change : MembershipChange V) (touched : BTreeSet RecordId)
    (next : BTreeMap RecordId (SubscriptionRow V)) : Prop where
  fresh : change.record_id ∉ seen
  touched : touched = seen.insert change.record_id
  row : next[change.record_id]? = change.row
  others : ∀ id ≠ change.record_id, next[id]? = rows[id]?

theorem apply_change_eq_ok {response : SubscriptionResponse V} {seen touched : BTreeSet RecordId}
    {rows next : BTreeMap RecordId (SubscriptionRow V)} {change : MembershipChange V}
    (happly : apply_change response (seen, rows) change = .ok (touched, next)) :
    ChangeApplied seen rows change touched next := by
  simp only [apply_change, Except.bind_eq_ok_iff, BTreeSet.insertFresh_eq_ok_iff] at happly
  obtain ⟨_, _, _, ⟨hfresh, rfl⟩, happly⟩ := happly
  cases change with
  | Upsert row =>
    simp only [Except.bind_eq_ok_iff, Except.ok.injEq, Prod.mk.injEq] at happly
    obtain ⟨_, _, _, _, rfl, rfl⟩ := happly
    exact ⟨hfresh, rfl, ExtTreeMap.getElem?_insert_self, fun id hid => BTreeMap.getElem?_insert_of_ne hid⟩
  | Leave record_id =>
    simp only [Except.bind_eq_ok_iff, Except.ok.injEq, Prod.mk.injEq] at happly
    obtain ⟨_, _, rfl, rfl⟩ := happly
    exact ⟨hfresh, rfl, ExtTreeMap.getElem?_erase_self, fun id hid => BTreeMap.getElem?_erase_of_ne hid⟩
  | Delete record_id version =>
    simp only [Except.bind_eq_ok_iff, Except.ok.injEq, Prod.mk.injEq] at happly
    obtain ⟨_, _, _, _, rfl, rfl⟩ := happly
    exact ⟨hfresh, rfl, ExtTreeMap.getElem?_erase_self, fun id hid => BTreeMap.getElem?_erase_of_ne hid⟩

/-- The changes touch every record at most once, so each leaves its own row, and
records that none of them names keep theirs. -/
theorem apply_changes_eq_ok {response : SubscriptionResponse V} {changes : List (MembershipChange V)}
    {seen touched : BTreeSet RecordId} {rows next : BTreeMap RecordId (SubscriptionRow V)}
    (hloop : changes.foldlM (apply_change response) (seen, rows) = .ok (touched, next)) :
    (∀ change ∈ changes, change.record_id ∉ seen ∧ next[change.record_id]? = change.row) ∧
      ∀ id ∉ changes.map (·.record_id), next[id]? = rows[id]? := by
  induction changes generalizing seen rows with
  | nil =>
    cases hloop
    exact ⟨by simp, fun _ _ => rfl⟩
  | cons change changes ih =>
    obtain ⟨⟨middle, found⟩, hfirst, hrest⟩ := Except.foldlM_cons_eq_ok_iff.mp hloop
    have happlied := apply_change_eq_ok hfirst
    obtain ⟨hchanges, hothers⟩ := ih hrest
    have hunseen : ∀ later ∈ changes, later.record_id ∉ seen ∧ later.record_id ≠ change.record_id := by
      intro later hlater
      have hfresh := (hchanges later hlater).1
      rw [happlied.touched, ExtTreeSet.mem_insert, not_or] at hfresh
      exact ⟨hfresh.2, fun heq => hfresh.1 (by simp [heq])⟩
    refine ⟨List.forall_mem_cons.mpr ⟨⟨happlied.fresh, ?_⟩, fun later hlater => ?_⟩, fun id hid => ?_⟩
    · rw [hothers, happlied.row]
      intro hmem
      obtain ⟨later, hlater, heq⟩ := List.mem_map.mp hmem
      exact (hunseen later hlater).2 heq
    · exact ⟨(hunseen later hlater).1, (hchanges later hlater).2⟩
    · rw [List.map_cons, List.mem_cons, not_or] at hid
      rw [hothers id hid.2, happlied.others id hid.1]

/-- A row after the changes was upserted by one of them, or was there before. -/
theorem apply_changes_row {response : SubscriptionResponse V} {changes : List (MembershipChange V)}
    {rows next : BTreeMap RecordId (SubscriptionRow V)} {seen touched : BTreeSet RecordId}
    (hloop : changes.foldlM (apply_change response) (seen, rows) = .ok (touched, next))
    {record_id : RecordId} {row : SubscriptionRow V} (hrow : next[record_id]? = some row) :
    .Upsert row ∈ changes ∨ rows[record_id]? = some row := by
  obtain ⟨hchanges, hothers⟩ := apply_changes_eq_ok hloop
  by_cases hid : record_id ∈ changes.map (·.record_id)
  · obtain ⟨change, hchange, rfl⟩ := List.mem_map.mp hid
    rw [(hchanges change hchange).2] at hrow
    cases change with
    | Upsert upserted =>
      cases hrow
      exact .inl hchange
    | Leave record_id => cases hrow
    | Delete record_id version => cases hrow
  · exact .inr (hothers record_id hid ▸ hrow)

/-- Every row of an admitted window comes from the response itself or from the
slot it moves forward. -/
theorem WindowAdmitted.row {state : DurableClientState V} {response : SubscriptionResponse V}
    {token : OpaqueCheckpoint} {rows : BTreeMap RecordId (SubscriptionRow V)}
    {current : DurableSubscriptions V} {request : SubscriptionRequest}
    (hadmitted : WindowAdmitted state response token rows current request) {record_id : RecordId}
    {row : SubscriptionRow V} (hrow : rows[record_id]? = some row) :
    .Upsert row ∈ response.changes ∨
      ∃ previous, current.slots[response.subscription_id]? = some previous ∧
        response.frontier.epoch = previous.frontier.epoch ∧
        (current.rows_of previous)[record_id]? = some row := by
  obtain ⟨first, touched, hinitial, hchanges⟩ := hadmitted.rows
  refine (apply_changes_row hchanges hrow).imp_right fun hfirst => ?_
  rcases initial_rows_eq_ok hinitial with rfl | ⟨previous, hprevious, hepoch, rfl⟩
  · simp at hfirst
  · exact ⟨previous, hprevious, hepoch, hfirst⟩

/-- What an installed window leaves in the table. -/
structure WindowInstalled (current : DurableSubscriptions V) (response : SubscriptionResponse V)
    (token : OpaqueCheckpoint) (rows : BTreeMap RecordId (SubscriptionRow V))
    (windows : DurableSubscriptions V) : Prop where
  requests : windows.requests = current.requests
  cancelled : windows.cancelled = current.cancelled
  authorization : windows.authorization_scope = some response.scope
  slots : windows.slots = current.slots.insert response.subscription_id (shown_slot response token rows)
  shown : windows.rows_of (shown_slot response token rows) = rows
  others : ∀ (id : String) slot, id ≠ response.subscription_id → current.slots[id]? = some slot →
    (∀ (record_id : RecordId) key, slot.members[record_id]? = some key → key ∈ current.records) →
    windows.rows_of slot = current.rows_of slot
  used : ∀ key ∈ windows.records, windows.Uses key

/-- Everything a transition can do to the subscription table. -/
inductive WindowMove (state : DurableClientState V) (transition : Transition V)
    (windows : DurableSubscriptions V) : Prop where
  | kept (hkept : windows = state.windows) : WindowMove state transition windows
  | started {request : SubscriptionRequest} (hstart : request.command.IsStart)
      (hunbarred : ¬ state.windows.Barred request.command.identity.1 request.command.identity.2)
      (hnewer : ∀ previous, state.windows.requests[request.command.identity.1]? = some previous →
        previous.command.identity.2 < request.command.identity.2)
      (hwindows : windows = state.windows.start request.command.identity.1 request) :
      WindowMove state transition windows
  | cancelled {id : String} {generation : UInt64}
      (hnewest : ∀ request, state.windows.requests[id]? = some request →
        request.command.identity.2 ≤ generation)
      (hwindows : windows = state.windows.cancel id generation) : WindowMove state transition windows
  | shown {response : SubscriptionResponse V} {token : OpaqueCheckpoint}
      {rows : BTreeMap RecordId (SubscriptionRow V)} {request : SubscriptionRequest}
      (hresponse : transition = .SubscriptionResponse response)
      (hadmitted : WindowAdmitted state response token rows state.windows request)
      (hinstalled : WindowInstalled state.windows response token rows windows) :
      WindowMove state transition windows

/-- An installed slot was there before with the same rows, or is what an admitted
response shows. -/
theorem WindowMove.slot {state : DurableClientState V} (hvalid : state.Valid) {transition : Transition V}
    {windows : DurableSubscriptions V} (hmove : WindowMove state transition windows) {id : String}
    {slot : SubscriptionSlot} (hslot : windows.slots[id]? = some slot) :
    (state.windows.slots[id]? = some slot ∧ windows.rows_of slot = state.windows.rows_of slot) ∨
      ∃ response token rows request, transition = .SubscriptionResponse response ∧
        response.subscription_id = id ∧ WindowAdmitted state response token rows state.windows request ∧
        slot = shown_slot response token rows ∧ windows.rows_of slot = rows := by
  cases hmove with
  | kept hkept =>
    subst hkept
    exact .inl ⟨hslot, rfl⟩
  | @started request _ _ _ hwindows =>
    subst hwindows
    refine .inl ⟨BTreeMap.getElem?_of_erase hslot, ?_⟩
    exact collect_records_rows_of id hslot
  | @cancelled other generation _ hwindows =>
    subst hwindows
    refine .inl ⟨BTreeMap.getElem?_of_erase hslot, ?_⟩
    exact collect_records_rows_of id hslot
  | @shown response token rows request hresponse hadmitted hinstalled =>
    rw [hinstalled.slots, ExtTreeMap.getElem?_insert] at hslot
    split at hslot
    · rename_i hid
      cases hslot
      refine .inr ⟨response, token, rows, request, hresponse, ?_, hadmitted, rfl, hinstalled.shown⟩
      exact LawfulEqOrd.eq_of_compare hid
    · rename_i hid
      have hne : id ≠ response.subscription_id := fun heq => hid (by simp [heq])
      exact .inl ⟨hslot, hinstalled.others id slot hne hslot (hvalid.slot hslot).mem_records⟩

variable [DecidableEq V]

theorem windowInstalled_of_install_window {current windows : DurableSubscriptions V}
    {response : SubscriptionResponse V} {token : OpaqueCheckpoint}
    {rows : BTreeMap RecordId (SubscriptionRow V)}
    (hinstall : install_window current response token rows = .ok windows) :
    WindowInstalled current response token rows windows := by
  simp only [install_window, Except.bind_eq_ok_iff, Except.ok.injEq] at hinstall
  obtain ⟨records, hrecords, rfl⟩ := hinstall
  obtain ⟨hgrows, hrows⟩ := foldlM_cache_row_eq_ok hrecords
  refine ⟨rfl, rfl, rfl, rfl, ?_, ?_, fun key => uses_of_mem_collect_records⟩
  · rw [collect_records_rows_of response.subscription_id ExtTreeMap.getElem?_insert_self]
    apply ExtTreeMap.ext_getElem?
    intro record_id
    rw [DurableSubscriptions.getElem?_rows_of]
    cases hrow : rows[record_id]? with
    | none => simp [shown_slot, hrow]
    | some row => simp [shown_slot, hrow, hrows row (BTreeMap.mem_vals_iff.mpr ⟨record_id, hrow⟩)]
  · intro id slot hne hslot hcached
    have hkept : (current.slots.insert response.subscription_id (shown_slot response token rows))[id]? =
        some slot := by
      rw [BTreeMap.getElem?_insert_of_ne hne, hslot]
    rw [collect_records_rows_of id hkept]
    apply ExtTreeMap.ext_getElem?
    intro record_id
    rw [DurableSubscriptions.getElem?_rows_of, DurableSubscriptions.getElem?_rows_of]
    cases hkey : slot.members[record_id]? with
    | none => rfl
    | some key =>
      obtain ⟨row, hrow⟩ := BTreeMap.exists_of_mem (hcached record_id key hkey)
      simp [hrow, hgrows key row hrow]

theorem Effect.windows {state next : DurableClientState V} {transition : Transition V}
    (heffect : Effect state transition next) : WindowMove state transition next.windows := by
  cases heffect with
  | recorded _ hrecord =>
    obtain ⟨renamed, _, hrenamed, rfl⟩ := record_outcome_eq_ok hrecord
    refine .kept ?_
    rw [hrenamed.frame]
    rfl
  | decided _ _ _ hdecide =>
    obtain ⟨rfl, _⟩ := decide_conflict_eq_ok hdecide
    exact .kept rfl
  | reset hreplaces =>
    obtain ⟨_, _, _, rfl⟩ := hreplaces.replaced
    exact .kept rfl
  | bootstrapped _ _ hreplaces =>
    obtain ⟨_, _, _, rfl⟩ := hreplaces.replaced
    exact .kept rfl
  | started hstart hbarred hnewer => exact .started hstart hbarred hnewer rfl
  | cancelled hnewest => exact .cancelled hnewest rfl
  | withdrawn _ hnewest => exact .cancelled hnewest rfl
  | @shown response token rows current windows hadmits hcurrent hinstall =>
    obtain ⟨current', request, _, hadmitted⟩ := admit_response_eq_ok hadmits
    cases hadmitted with
    | window hwindow =>
      cases hcurrent.symm.trans hwindow.subscriptions
      have htable := DurableClientState.windows_eq hcurrent
      have hinstalled := windowInstalled_of_install_window hinstall
      exact .shown rfl (htable ▸ hwindow) (htable ▸ hinstalled)
  | _ => exact .kept rfl

theorem Step.windows {before after : ClientRuntime V} {transition : Transition V}
    (hstep : Step before transition after) :
    WindowMove before.state transition after.state.windows := by
  obtain ⟨next, heffect, hstamped⟩ := hstep.effect
  obtain ⟨_, hafter⟩ := hstamped.exists_revision
  rw [hafter]
  exact heffect.windows

end surrealdb_sync_client
