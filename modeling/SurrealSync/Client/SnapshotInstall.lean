import SurrealSync.Basic.Sorted
import SurrealSync.Client.Revocation

open Std
open surrealdb_sync_protocol surrealdb_sync_protocol.subscription

namespace surrealdb_sync_protocol.subscription

instance : OrientedCmp QueryScalar.cmp where
  eq_swap {a b} := by
    cases a <;> cases b <;> simp only [QueryScalar.cmp, Ordering.swap]
    all_goals exact OrientedCmp.eq_swap

instance : TransCmp QueryScalar.cmp where
  isLE_trans {a b c} hab hbc := by
    cases a <;> cases b <;> cases c <;> simp_all [QueryScalar.cmp]
    all_goals exact TransCmp.isLE_trans hab hbc

/-- What the wire validator promises of a snapshot. -/
structure SnapshotShape {V : Type} (response : SubscriptionResponse V) : Prop where
  distinct : (response.changes.map (·.record_id)).Nodup
  plan : valid_subscription_text response.plan_fingerprint
  epoch : response.frontier.epoch ≠ 0
  view_revision : response.view_revision ≠ 0
  order_field : valid_subscription_text response.coverage.order_field
  limit_ne_zero : response.coverage.limit ≠ 0
  limit_le : response.coverage.limit.toNat ≤ MAX_WINDOW_ROWS
  ids_le : response.ordered_ids.length ≤ response.coverage.limit.toNat
  changes_le : response.changes.length ≤ MAX_WINDOW_ROWS * 2
  token : ∃ token, response.token = some token ∧ valid_subscription_text token.val
  rows : ∀ row, .Upsert row ∈ response.changes → valid_subscription_text row.record_id.val ∧ row.version ≠ 0 ∧
    row.sort_key.kind = response.coverage.order_kind ∧ bounded_scalar_text row.sort_key

theorem snapshotShape_of_validate {V : Type} {response : SubscriptionResponse V} {reason : WindowResetReason}
    (hkind : response.response = .Snapshot reason) (hvalid : validate_subscription_response response) :
    SnapshotShape response := by
  unfold validate_subscription_response at hvalid
  simp only [hkind, Bool.and_eq_true, decide_eq_true_eq, beq_iff_eq, List.all_eq_true] at hvalid
  obtain ⟨⟨⟨⟨⟨⟨⟨⟨⟨⟨⟨⟨⟨⟨⟨⟨⟨⟨⟨hshape, hdistinct⟩, _⟩, _⟩, _⟩, _⟩, _⟩, hplan⟩, hepoch⟩, hview⟩, _⟩, _⟩, hfield⟩, hlimit⟩,
    hlimitLe⟩, hidsLe⟩, _⟩, hchangesLe⟩, htoken⟩, hrows⟩ := hvalid
  have hlength : response.changes.length = (response.changes.map (·.record_id)).length := by rw [List.length_map]
  obtain ⟨token, hsome⟩ := Option.isSome_iff_exists.mp hshape.1
  refine ⟨BTreeSet.size_ofList_eq_length_iff.mp (hdistinct.trans hlength), hplan, ?_, ?_, hfield, ?_, hlimitLe, hidsLe,
    hchangesLe, ⟨token, hsome, ?_⟩, ?_⟩
  · exact UInt64.pos_iff_ne_zero.mp hepoch
  · exact UInt64.pos_iff_ne_zero.mp hview
  · exact UInt16.pos_iff_ne_zero.mp hlimit
  · rw [hsome] at htoken
    exact htoken
  · intro row hrow
    have hchecked := hrows _ hrow
    simp only [Bool.and_eq_true, decide_eq_true_eq] at hchecked
    obtain ⟨⟨⟨htext, hversion⟩, hsort⟩, hbounded⟩ := hchecked
    exact ⟨htext, UInt64.pos_iff_ne_zero.mp hversion, hsort, hbounded⟩

end surrealdb_sync_protocol.subscription

namespace surrealdb_sync_client

variable {V : Type}

theorem transCmp_sort_key : TransCmp fun a b : SubscriptionRow V => a.sort_key.cmp b.sort_key where
  eq_swap := OrientedCmp.eq_swap
  isLE_trans := TransCmp.isLE_trans

instance (direction : SortDirection) : TransCmp (window_cmp (V := V) direction) := by
  have hascending := transCmp_sort_key (V := V)
  cases direction with
  | Ascending =>
    exact inferInstanceAs (TransCmp (compareLex (fun a b : SubscriptionRow V => a.sort_key.cmp b.sort_key)
      (compareOn (·.record_id))))
  | Descending =>
    have hdescending : TransCmp fun a b : SubscriptionRow V => (a.sort_key.cmp b.sort_key).swap := by
      have hswap : (fun a b : SubscriptionRow V => (a.sort_key.cmp b.sort_key).swap) =
          fun a b => b.sort_key.cmp a.sort_key := by
        funext a b
        exact OrientedCmp.eq_swap.symm
      rw [hswap]
      exact TransCmp.opposite
    exact inferInstanceAs (TransCmp (compareLex
      (fun a b : SubscriptionRow V => (a.sort_key.cmp b.sort_key).swap) (compareOn (·.record_id))))

/-- The map that a list of upserts of distinct records leaves. -/
structure RowsById (rows : List (SubscriptionRow V)) (found : BTreeMap RecordId (SubscriptionRow V)) : Prop where
  distinct : (rows.map (·.record_id)).Nodup
  stored : ∀ row ∈ rows, found[row.record_id]? = some row
  others : ∀ id ∉ rows.map (·.record_id), found[id]? = none

theorem RowsById.getElem?_eq_some_iff {rows : List (SubscriptionRow V)}
    {found : BTreeMap RecordId (SubscriptionRow V)} (hrows : RowsById rows found) {id : RecordId}
    {row : SubscriptionRow V} : found[id]? = some row ↔ row ∈ rows ∧ row.record_id = id := by
  constructor
  · intro hfound
    by_cases hid : id ∈ rows.map (·.record_id)
    · obtain ⟨other, hother, rfl⟩ := List.mem_map.mp hid
      cases hfound.symm.trans (hrows.stored other hother)
      exact ⟨hother, rfl⟩
    · cases hfound.symm.trans (hrows.others id hid)
  · rintro ⟨hrow, rfl⟩
    exact hrows.stored row hrow

theorem RowsById.vals_perm {rows : List (SubscriptionRow V)} {found : BTreeMap RecordId (SubscriptionRow V)}
    (hrows : RowsById rows found) : found.vals.Perm rows := by
  have hids : found.vals.map (·.record_id) = found.toList.map Prod.fst := by
    rw [BTreeMap.vals, List.map_map]
    apply List.map_congr_left
    rintro ⟨id, row⟩ hentry
    rw [ExtTreeMap.mem_toList_iff_getElem?_eq_some] at hentry
    exact (hrows.getElem?_eq_some_iff.mp hentry).2
  have hvals : found.vals.Nodup := by
    apply List.Nodup.of_map (·.record_id)
    rw [hids]
    exact BTreeMap.nodup_keys found
  rw [List.perm_ext_iff_of_nodup hvals (List.Nodup.of_map _ hrows.distinct)]
  intro row
  rw [BTreeMap.mem_vals_iff]
  constructor
  · rintro ⟨id, hfound⟩
    exact (hrows.getElem?_eq_some_iff.mp hfound).1
  · intro hrow
    exact ⟨row.record_id, hrows.stored row hrow⟩

theorem RowsById.size_eq {rows : List (SubscriptionRow V)} {found : BTreeMap RecordId (SubscriptionRow V)}
    (hrows : RowsById rows found) : found.size = rows.length := by
  rw [← hrows.vals_perm.length_eq, BTreeMap.vals, List.length_map, ExtTreeMap.length_toList]

theorem RowsById.of_perm {rows shown : List (SubscriptionRow V)} {found : BTreeMap RecordId (SubscriptionRow V)}
    (hrows : RowsById rows found) (hperm : shown.Perm rows) : RowsById shown found where
  distinct := (hperm.map _).nodup_iff.mpr hrows.distinct
  stored row hrow := hrows.stored row (hperm.mem_iff.mp hrow)
  others id hid := hrows.others id fun hmem => hid ((hperm.map _).mem_iff.mpr hmem)

/-- Upserts of distinct records that pass their own checks are all applied. -/
theorem apply_upserts_succeed {response : SubscriptionResponse V} {rows : List (SubscriptionRow V)}
    {seen : BTreeSet RecordId} {found : BTreeMap RecordId (SubscriptionRow V)}
    (hrows : ∀ row ∈ rows, valid_subscription_text row.record_id.val ∧ row.version ≠ 0 ∧
      row.sort_key.kind = response.coverage.order_kind)
    (hdistinct : (rows.map (·.record_id)).Nodup)
    (hfresh : ∀ row ∈ rows, row.record_id ∉ seen ∧ found[row.record_id]? = none) :
    ∃ result, (rows.map .Upsert).foldlM (apply_change response) (seen, found) = .ok result := by
  induction rows generalizing seen found with
  | nil => exact ⟨_, rfl⟩
  | cons row rows ih =>
    obtain ⟨⟨htext, hversion, hkind⟩, hrest⟩ := List.forall_mem_cons.mp hrows
    obtain ⟨⟨hunseen, habsent⟩, hlater⟩ := List.forall_mem_cons.mp hfresh
    obtain ⟨hnew, hdistinct⟩ := List.nodup_cons.mp hdistinct
    have happly : apply_change response (seen, found) (.Upsert row) =
        .ok (seen.insert row.record_id, found.insert row.record_id row) := by
      simp [apply_change, MembershipChange.record_id, htext, BTreeSet.insertFresh, hunseen, hversion, hkind, habsent,
        Except.refuse]
    have hne : ∀ other ∈ rows, other.record_id ≠ row.record_id := by
      intro other hother heq
      exact hnew (List.mem_map.mpr ⟨other, hother, heq⟩)
    have hnext : ∃ result, (rows.map .Upsert).foldlM (apply_change response)
        (seen.insert row.record_id, found.insert row.record_id row) = .ok result := by
      refine ih hrest hdistinct fun other hother => ?_
      rw [ExtTreeSet.mem_insert, LawfulEqOrd.compare_eq_iff_eq, not_or,
        BTreeMap.getElem?_insert_of_ne (hne other hother)]
      exact ⟨⟨(hne other hother).symm, (hlater other hother).1⟩, (hlater other hother).2⟩
    obtain ⟨result, hresult⟩ := hnext
    exact ⟨result, Except.foldlM_cons_eq_ok_iff.mpr ⟨_, happly, hresult⟩⟩

theorem rowsById_of_apply_changes {response : SubscriptionResponse V} {rows : List (SubscriptionRow V)}
    (hdistinct : (rows.map (·.record_id)).Nodup) {touched : BTreeSet RecordId}
    {found : BTreeMap RecordId (SubscriptionRow V)}
    (hloop : (rows.map .Upsert).foldlM (apply_change response) (∅, ∅) = .ok (touched, found)) :
    RowsById rows found := by
  obtain ⟨hchanges, hothers⟩ := apply_changes_eq_ok hloop
  refine ⟨hdistinct, ?_, ?_⟩
  · intro row hrow
    exact (hchanges _ (List.mem_map_of_mem hrow)).2
  · intro id hid
    rw [hothers id, ExtTreeMap.getElem?_empty]
    rwa [List.map_map]

/-- A window in the order of its sort keys is what sorting it finds. -/
theorem RowsById.ordered_eq {shown : List (SubscriptionRow V)}
    {found : BTreeMap RecordId (SubscriptionRow V)} (hrows : RowsById shown found) {coverage : WindowCoverage} (hsorted : shown.Pairwise fun a b => window_cmp coverage.direction a b = .lt) :
    ordered found coverage = shown.map (·.record_id) := by
  unfold ordered
  rw [Sorted.insertionSort_eq_of_perm hrows.vals_perm hsorted]

theorem unusable_sort_text_iff {sort_key : QueryScalar} (hbounded : bounded_scalar_text sort_key) :
    unusable_sort_text sort_key ↔ sort_key = .Text "" := by
  cases sort_key with
  | Bool value => simp [unusable_sort_text]
  | Int value => simp [unusable_sort_text]
  | Text value =>
    simp only [bounded_scalar_text, decide_eq_true_eq] at hbounded
    simp [unusable_sort_text, valid_subscription_text, hbounded]

/-- The state asks for a window: a start of the subscription is stored, and no
cancellation bars it. -/
structure ActiveStart (state : DurableClientState V) (windows : DurableSubscriptions V) (id : String)
    (generation : UInt64) (definition_id : String) (limit : UInt16) : Prop where
  subscriptions : state.subscriptions = some windows
  requested : ∃ request parameters, windows.requests[id]? = some request ∧
    request.command = .Start id generation definition_id parameters limit
  unbarred : ¬ windows.Barred id generation

/-- A snapshot the server may send for an active start, with the rows it shows in
window order. -/
structure WellFormedSnapshot (state : DurableClientState V) (windows : DurableSubscriptions V)
    (response : SubscriptionResponse V) (shown : List (SubscriptionRow V)) : Prop where
  wire : validate_subscription_response response
  kind : ∃ reason, response.response = .Snapshot reason
  partition_id : response.partition_id = state.partition_id
  client_id : response.client_id = state.client_id
  identity : response.scope.identity = state.requested_scope
  subscription_revision : response.scope.subscription_revision = state.subscription_revision
  checkpoint : ∀ checkpoint, state.checkpoint = some checkpoint → checkpoint.scope = response.scope
  authorization : ∀ scope, windows.authorization_scope = some scope → scope = response.scope
  forward : ∀ slot, windows.slots[response.subscription_id]? = some slot →
    CursorLe slot.frontier response.frontier ∧ slot.view_revision < response.view_revision
  changes : ∃ rows, response.changes = rows.map .Upsert ∧ shown.Perm rows
  cached : ∀ row ∈ shown, ∀ stored, windows.records[cache_key response.frontier.epoch stored]? = some stored →
    stored.record_id = row.record_id → stored.version = row.version → stored = row
  sorted : shown.Pairwise fun a b => window_cmp response.coverage.direction a b = .lt
  ordered_ids : response.ordered_ids = shown.map (·.record_id)

theorem refuse_scope_change_of_not {state : DurableClientState V} {changed : Prop} [Decidable changed]
    (hsame : ¬ changed) : refuse_scope_change state changed = .ok () := by
  rw [refuse_scope_change, if_neg hsame]

theorem guard_subscription_scope_of_eq {state : DurableClientState V} {windows : DurableSubscriptions V}
    (hwindows : state.subscriptions = some windows) {scope : ScopeSnapshot}
    (hsame : ∀ previous, windows.authorization_scope = some previous → previous = scope) :
    guard_subscription_scope state scope = .ok () := by
  unfold guard_subscription_scope
  rw [if_neg]
  rintro ⟨current, hcurrent, previous, hprevious, hne⟩
  cases hwindows.symm.trans hcurrent
  exact hne (hsame previous hprevious)

theorem guard_previous_slot_of_forward {state : DurableClientState V} {previous : SubscriptionSlot}
    {response : SubscriptionResponse V} (hforward : SlotForward previous response) :
    guard_previous_slot state (some previous) response = .ok () := by
  refine Except.bind_eq_ok_iff.mpr ⟨(), refuse_scope_change_of_not (not_not.mpr hforward.scope), ?_⟩
  rw [Except.refuse_eq_ok_iff]
  rintro (hepoch | ⟨hepoch, hsequence⟩ | hview)
  · rcases hforward.frontier with hlt | ⟨heq, _⟩
    · exact UInt64.lt_asymm hepoch hlt
    · rw [heq] at hepoch
      exact UInt64.lt_irrefl _ hepoch
  · rcases hforward.frontier with hlt | ⟨_, hle⟩
    · rw [hepoch] at hlt
      exact UInt64.lt_irrefl _ hlt
    · exact UInt64.not_lt.mpr hle hsequence
  · exact UInt64.not_lt.mpr hforward.view_revision hview

variable [DecidableEq V]

/-- A well-formed snapshot passes every check before the installation. -/
theorem WellFormedSnapshot.admitted {state : DurableClientState V} (hvalid : state.Valid)
    {windows : DurableSubscriptions V} {response : SubscriptionResponse V} {shown : List (SubscriptionRow V)}
    (hactive : ActiveStart state windows response.subscription_id response.generation
      response.coverage.definition_id response.coverage.limit)
    (hformed : WellFormedSnapshot state windows response shown) :
    ∃ token found, admit_response state response = .ok (.Window token found) ∧
      valid_subscription_text token.val ∧ RowsById shown found := by
  obtain ⟨reason, hkind⟩ := hformed.kind
  have hshape := snapshotShape_of_validate hkind hformed.wire
  obtain ⟨token, htoken, htext⟩ := hshape.token
  obtain ⟨rows, hchanges, hperm⟩ := hformed.changes
  obtain ⟨request, parameters, hrequest, hcommand⟩ := hactive.requested
  have hdistinct : (rows.map (·.record_id)).Nodup := by
    have := hshape.distinct
    rwa [hchanges, List.map_map] at this
  have hrows : ∀ row ∈ rows, valid_subscription_text row.record_id.val ∧ row.version ≠ 0 ∧
      row.sort_key.kind = response.coverage.order_kind := by
    intro row hrow
    obtain ⟨hid, hversion, hsort, _⟩ := hshape.rows row (hchanges ▸ List.mem_map_of_mem hrow)
    exact ⟨hid, hversion, hsort⟩
  obtain ⟨⟨touched, found⟩, hloop⟩ := @apply_upserts_succeed V response rows ∅ ∅ hrows hdistinct fun row _ => by simp
  have hfound := (rowsById_of_apply_changes hdistinct hloop).of_perm hperm
  refine ⟨token, found, ?_, htext, hfound⟩
  unfold admit_response
  refine Except.bind_eq_ok_iff.mpr ⟨(), Except.refuse_eq_ok_iff.mpr (not_not.mpr hformed.wire), ?_⟩
  refine Except.bind_eq_ok_iff.mpr ⟨windows, Except.okOr_eq_ok_iff.mpr hactive.subscriptions, ?_⟩
  refine Except.bind_eq_ok_iff.mpr ⟨(), Except.refuse_eq_ok_iff.mpr hactive.unbarred, ?_⟩
  refine Except.bind_eq_ok_iff.mpr ⟨request, Except.okOr_eq_ok_iff.mpr hrequest, ?_⟩
  simp only [hcommand]
  have hanswers : ¬ (response.partition_id ≠ state.partition_id ∨ response.client_id ≠ state.client_id ∨
      response.generation ≠ (SubscriptionCommand.Start response.subscription_id response.generation
        response.coverage.definition_id parameters response.coverage.limit).identity.2 ∨
      response.scope.identity ≠ state.requested_scope ∨
      response.scope.subscription_revision ≠ state.subscription_revision ∨
      response.coverage.definition_id ≠ response.coverage.definition_id ∨
      response.coverage.limit ≠ response.coverage.limit ∨ response.frontier.epoch = 0 ∨
      response.view_revision = 0 ∨ response.changes.length > MAX_WINDOW_ROWS * 2 ∨
      response.ordered_ids.length > response.coverage.limit.toNat ∨
      ¬ valid_subscription_text response.plan_fingerprint) := by
    simp [hformed.partition_id, hformed.client_id, SubscriptionCommand.identity, hformed.identity,
      hformed.subscription_revision, hshape.epoch, hshape.view_revision, hshape.changes_le, hshape.ids_le, hshape.plan]
  refine Except.bind_eq_ok_iff.mpr ⟨(), Except.refuse_eq_ok_iff.mpr hanswers, ?_⟩
  rw [if_neg (by simp [hkind])]
  refine Except.bind_eq_ok_iff.mpr ⟨token, Except.okOr_eq_ok_iff.mpr ?_, ?_⟩
  · simp [htoken, htext]
  refine Except.bind_eq_ok_iff.mpr
    ⟨(), guard_subscription_scope_of_eq hactive.subscriptions hformed.authorization, ?_⟩
  refine Except.bind_eq_ok_iff.mpr ⟨(), refuse_scope_change_of_not ?_, ?_⟩
  · rintro ⟨checkpoint, hcheckpoint, hne⟩
    exact hne (hformed.checkpoint checkpoint hcheckpoint)
  have hprevious : guard_previous_slot state windows.slots[response.subscription_id]? response = .ok () ∧
      windows.slots[response.subscription_id]?.filter
        (fun previous => response.view_revision = previous.view_revision) = none := by
    cases hslot : windows.slots[response.subscription_id]? with
    | none => exact ⟨rfl, rfl⟩
    | some slot =>
      obtain ⟨hfrontier, hview⟩ := hformed.forward slot hslot
      have hscope := hformed.authorization slot.scope
        ((hvalid.windows windows hactive.subscriptions).slots _ slot hslot).authorized
      refine ⟨guard_previous_slot_of_forward ⟨hscope.symm, hfrontier, UInt64.le_of_lt hview⟩, ?_⟩
      have hne : response.view_revision ≠ slot.view_revision := fun heq => UInt64.lt_irrefl _ (heq ▸ hview)
      simp [hne]
  refine Except.bind_eq_ok_iff.mpr ⟨(), hprevious.1, ?_⟩
  simp only [hprevious.2, initial_rows, hkind, Except.ok_bind, hchanges, hloop]
  have hsize : found.size = shown.length := hfound.size_eq
  have hids_le := hshape.ids_le
  rw [hformed.ordered_ids, List.length_map] at hids_le
  refine Except.bind_eq_ok_iff.mpr ⟨(), Except.refuse_eq_ok_iff.mpr ?_, rfl⟩
  rw [hfound.ordered_eq hformed.sorted, hformed.ordered_ids, hsize]
  simp [hids_le]

/-- The rows of a well-formed snapshot fit into the cache. -/
theorem WellFormedSnapshot.installs {state : DurableClientState V} (hvalid : state.Valid)
    {windows : DurableSubscriptions V} (hwindows : state.subscriptions = some windows)
    {response : SubscriptionResponse V} {shown : List (SubscriptionRow V)}
    (hformed : WellFormedSnapshot state windows response shown) (token : OpaqueCheckpoint)
    {found : BTreeMap RecordId (SubscriptionRow V)} (hfound : RowsById shown found) :
    ∃ later, install_window windows response token found = .ok later := by
  refine install_window_eq_ok_iff.mpr (foldlM_cache_row_succeeds ?_ ?_)
  · intro row hrow stored hstored
    obtain ⟨id, slot, record_id, hslot, hkey⟩ :=
      (hvalid.windows windows hwindows).used _ (BTreeMap.mem_of_getElem? hstored)
    obtain ⟨other, hother, hmember⟩ := ((hvalid.windows windows hwindows).slots id slot hslot).members _ _ hkey
    cases hstored.symm.trans hother
    obtain ⟨hepoch, hversion, hrecord⟩ := cache_key_inj hmember.key
    refine hformed.cached row (hfound.vals_perm.mem_iff.mp hrow) stored ?_ hrecord hversion
    rw [← hepoch, hmember.key, hstored]
  · intro row hrow other hother hkey
    obtain ⟨_, _, hrecord⟩ := cache_key_inj hkey
    have hone := hfound.stored row (hfound.vals_perm.mem_iff.mp hrow)
    have htwo := hfound.stored other (hfound.vals_perm.mem_iff.mp hother)
    rw [hrecord, htwo] at hone
    exact (Option.some.inj hone).symm

omit [DecidableEq V] in
theorem RowsById.validate_neighbours {shown : List (SubscriptionRow V)}
    {found : BTreeMap RecordId (SubscriptionRow V)} (hfound : RowsById shown found) {direction : SortDirection}
    (hsorted : shown.Pairwise fun a b => window_cmp direction a b = .lt) :
    ∀ pair ∈ (shown.map (·.record_id)).zip (shown.map (·.record_id)).tail,
      validate_neighbours found direction pair = .ok () := by
  intro pair hpair
  rw [← List.map_tail, List.zip_map, List.mem_map] at hpair
  obtain ⟨⟨a, b⟩, hneighbours, rfl⟩ := hpair
  obtain ⟨ha, hb⟩ := List.of_mem_zip hneighbours
  have hlt := Sorted.forall_neighbours hsorted _ hneighbours
  refine Except.bind_eq_ok_iff.mpr ⟨a, Except.okOr_eq_ok_iff.mpr (hfound.stored a ha), ?_⟩
  refine Except.bind_eq_ok_iff.mpr ⟨b, Except.okOr_eq_ok_iff.mpr (hfound.stored b (List.mem_of_mem_tail hb)), ?_⟩
  rw [Except.refuse_eq_ok_iff, hlt]
  decide

omit [DecidableEq V] in
/-- The slot of a well-formed snapshot passes the durable validation when no row is
sorted by the empty text. -/
theorem WellFormedSnapshot.slotValid {state : DurableClientState V} {windows later : DurableSubscriptions V}
    {response : SubscriptionResponse V} {shown : List (SubscriptionRow V)}
    (hactive : ActiveStart state windows response.subscription_id response.generation
      response.coverage.definition_id response.coverage.limit)
    (hformed : WellFormedSnapshot state windows response shown) {token : OpaqueCheckpoint}
    (htext : valid_subscription_text token.val) {found : BTreeMap RecordId (SubscriptionRow V)}
    (hfound : RowsById shown found) (hinstalled : WindowInstalled windows response token found later)
    (hsort : ∀ row ∈ shown, row.sort_key ≠ .Text "") {subscriptions : Option (DurableSubscriptions V)}
    {revision : UInt64} :
    SlotValid later { state with subscriptions, revision } response.subscription_id
      (shown_slot response token found) := by
  obtain ⟨reason, hkind⟩ := hformed.kind
  have hshape := snapshotShape_of_validate hkind hformed.wire
  obtain ⟨request, parameters, hrequest, hcommand⟩ := hactive.requested
  obtain ⟨rows, hchanges, hperm⟩ := hformed.changes
  have hids_le := hshape.ids_le
  rw [hformed.ordered_ids, List.length_map] at hids_le
  refine ⟨⟨request, ?_, ?_, ?_⟩, hinstalled.authorization, ?_, hshape.epoch, hshape.view_revision, hformed.identity,
    hformed.subscription_revision, hshape.plan, htext, hshape.limit_ne_zero, hshape.limit_le, ?_, hshape.order_field,
    ?_, ?_, ?_, ?_, ?_⟩
  · rw [hinstalled.requests, hrequest]
  · rw [hcommand]
    rfl
  · rw [hcommand, validate_slot_command, Except.refuse_eq_ok_iff]
    simp [shown_slot]
  · intro barrier hbarrier
    rw [hinstalled.cancelled] at hbarrier
    by_contra hle
    exact hactive.unbarred ⟨barrier, hbarrier, UInt64.not_lt.mp hle⟩
  · have hsize : (shown_slot response token found).members.size = found.size := ExtTreeMap.size_map
    rw [hsize, hfound.size_eq]
    exact hids_le
  · intro record_id key hkey
    have hrow : ∃ row, found[record_id]? = some row ∧ cache_key response.frontier.epoch row = key := by
      simpa [shown_slot] using hkey
    obtain ⟨row, hrow, rfl⟩ := hrow
    obtain ⟨hmem, rfl⟩ := hfound.getElem?_eq_some_iff.mp hrow
    have hlookup := congrArg (·[row.record_id]?) hinstalled.shown
    rw [later.getElem?_rows_of, hkey, Option.bind_some, hrow] at hlookup
    obtain ⟨hid, hversion, hsorts, hbounded⟩ :=
      hshape.rows row (hchanges ▸ List.mem_map_of_mem (hperm.mem_iff.mp hmem))
    refine ⟨row, hlookup, hid, ?_, rfl, rfl, hsorts, hversion⟩
    rw [unusable_sort_text_iff hbounded]
    exact hsort row hmem
  · rw [hinstalled.shown, hfound.size_eq]
    change _ = response.ordered_ids.length
    rw [hformed.ordered_ids, List.length_map]
  · rw [hinstalled.shown, hfound.size_eq]
    change (ExtTreeSet.ofList response.ordered_ids : BTreeSet RecordId).size = _
    rw [hformed.ordered_ids, BTreeSet.size_ofList_eq_length_iff.mpr hfound.distinct, List.length_map]
  · intro record_id hmem
    rw [hinstalled.shown]
    change record_id ∈ response.ordered_ids at hmem
    rw [hformed.ordered_ids] at hmem
    obtain ⟨row, hrow, rfl⟩ := List.mem_map.mp hmem
    exact BTreeMap.mem_of_getElem? (hfound.stored row hrow)
  · rw [hinstalled.shown]
    change ∀ pair ∈ response.ordered_ids.zip response.ordered_ids.tail, _
    rw [hformed.ordered_ids]
    exact hfound.validate_neighbours hformed.sorted

theorem WellFormedSnapshot.snapshot_rows {runtime : ClientRuntime V} {windows later : DurableSubscriptions V}
    {state : DurableClientState V} {response : SubscriptionResponse V} {shown : List (SubscriptionRow V)}
    (hformed : WellFormedSnapshot state windows response shown) {token : OpaqueCheckpoint}
    {found : BTreeMap RecordId (SubscriptionRow V)} (hfound : RowsById shown found)
    (hinstalled : WindowInstalled windows response token found later)
    (hlater : runtime.state.subscriptions = some later) :
    (runtime.subscription_snapshot response.subscription_id).map (·.rows) = some shown := by
  have hslot : later.slots[response.subscription_id]? = some (shown_slot response token found) := by
    rw [hinstalled.slots, ExtTreeMap.getElem?_insert_self]
  rw [subscription_snapshot_rows, DurableClientState.windows_eq hlater, hslot, Option.map_some, hinstalled.shown]
  change some (response.ordered_ids.filterMap fun record_id => found[record_id]?) = some shown
  rw [hformed.ordered_ids, List.filterMap_map]
  have hrows : shown.filterMap ((fun record_id => found[record_id]?) ∘ (·.record_id)) = shown.filterMap some :=
    List.filterMap_congr fun row hrow => hfound.stored row hrow
  rw [hrows, List.filterMap_some]

/-- A well-formed snapshot for an active start is installed and shown as it was sent
exactly when none of its rows is sorted by the empty text: the wire validator lets such
a row pass, the validator of the durable state does not. -/
theorem snapshot_installable_iff {self : ClientRuntime V} (hroom : self.state.revision.toNat + 1 < 2 ^ 64)
    {windows : DurableSubscriptions V} {response : SubscriptionResponse V} {shown : List (SubscriptionRow V)}
    (hactive : ActiveStart self.state windows response.subscription_id response.generation
      response.coverage.definition_id response.coverage.limit)
    (hformed : WellFormedSnapshot self.state windows response shown) :
    (∃ prepared, self.prepare_subscription_response response = .ok prepared ∧
      ((⟨prepared.state, prepared.valid⟩ : ClientRuntime V).subscription_snapshot
        response.subscription_id).map (·.rows) = some shown) ↔
      ∀ row ∈ shown, row.sort_key ≠ .Text "" := by
  have hwindows := hactive.subscriptions
  obtain ⟨token, found, hadmits, htext, hfound⟩ := hformed.admitted self.is_valid hactive
  obtain ⟨later, hinstall⟩ := hformed.installs self.is_valid hwindows token hfound
  have hinstalled := windowInstalled_of_install_window hinstall
  obtain ⟨request, hadmitted⟩ := windowAdmitted_of_admit_response hadmits hwindows
  constructor
  · rintro ⟨prepared, hprepare, _⟩ row hrow hempty
    obtain ⟨same, hsame, hstate, _⟩ := prepared_window hprepare hadmits hwindows
    cases hinstall.symm.trans hsame
    have hvalid := (DurableClientState.validate_eq_ok_iff.mp prepared.valid).windows later (by rw [hstate])
    have hslot : later.slots[response.subscription_id]? = some (shown_slot response token found) := by
      rw [hinstalled.slots, ExtTreeMap.getElem?_insert_self]
    have hshown : (later.rows_of (shown_slot response token found))[row.record_id]? = some row := by
      rw [hinstalled.shown, hfound.stored row hrow]
    obtain ⟨key, _, _, hmember⟩ := DurableSubscriptions.exists_member_of_rows_of (hvalid.slots _ _ hslot) hshown
    refine hmember.sort_text ?_
    rw [hempty]
    rfl
  · intro hsort
    obtain ⟨revision, hrevision⟩ := exists_next_revision hroom
    have hauthorization :
        validate_authorization later { self.state with subscriptions := some later, revision } = .ok () := by
      unfold validate_authorization
      rw [hinstalled.authorization]
      rw [Except.refuse_eq_ok_iff]
      rintro (hidentity | hscope | ⟨checkpoint, hcheckpoint, hne⟩)
      · exact hidentity hformed.identity
      · exact hscope hformed.subscription_revision
      · exact hne (hformed.checkpoint checkpoint hcheckpoint)
    have hvalid : later.Valid { self.state with subscriptions := some later, revision } :=
      hinstalled.valid self.is_valid hwindows hadmitted hauthorization
        (hformed.slotValid hactive htext hfound hinstalled hsort)
    obtain ⟨_, hprepare⟩ := prepare_subscription_response_succeeds hadmits hwindows hinstall hrevision hvalid
    exact ⟨_, hprepare, hformed.snapshot_rows hfound hinstalled rfl⟩

namespace transitions

/-- A client that asked for one window and shows nothing yet. -/
def asked (definition : String) : DurableClientState String :=
  { empty_state with
    revision := 1
    subscriptions := some { DurableSubscriptions.default with
      requests := ExtTreeMap.ofList [("window", start "window" 1 definition)] } }

def named (field : String) (kind : ScalarKind) (direction : SortDirection) : WindowCoverage :=
  ⟨"by_" ++ field, 2, field, kind, direction⟩

/-- The first snapshot has no slot and no cached row to agree with. -/
theorem wellFormedSnapshot_asked {definition : String} {coverage : WindowCoverage}
    {ids : List String} {changes : List (MembershipChange String)} {shown : List (SubscriptionRow String)}
    (hwire : validate_subscription_response
      (window "window" 1 coverage ⟨1, 1⟩ 1 (.Snapshot .Initial) ids changes) = true)
    (hchanges : ∃ rows, changes = rows.map .Upsert ∧ shown.Perm rows)
    (hsorted : shown.Pairwise fun a b => window_cmp coverage.direction a b = .lt)
    (hids : ids.map RecordId.mk = shown.map (·.record_id)) :
    WellFormedSnapshot (asked definition) (asked definition).windows
      (window "window" 1 coverage ⟨1, 1⟩ 1 (.Snapshot .Initial) ids changes) shown where
  wire := hwire
  kind := ⟨.Initial, rfl⟩
  partition_id := rfl
  client_id := rfl
  identity := rfl
  subscription_revision := rfl
  checkpoint := nofun
  authorization := nofun
  forward slot hslot := by
    rw [show (asked definition).windows.slots = ∅ from rfl, ExtTreeMap.getElem?_empty] at hslot
    cases hslot
  changes := hchanges
  cached row _ stored hstored := by
    rw [show (asked definition).windows.records = ∅ from rfl, ExtTreeMap.getElem?_empty] at hstored
    cases hstored
  sorted := hsorted
  ordered_ids := hids

theorem activeStart_asked {definition : String}
    (hrequested : (asked definition).windows.requests["window"]? = some (start "window" 1 definition)) :
    ActiveStart (asked definition) (asked definition).windows "window" 1 definition 2 where
  subscriptions := rfl
  requested := ⟨start "window" 1 definition, ∅, hrequested, rfl⟩
  unbarred := by
    rintro ⟨barrier, hbarrier, _⟩
    rw [show (asked definition).windows.cancelled = ∅ from rfl, ExtTreeMap.getElem?_empty] at hbarrier
    cases hbarrier

/-- A descending window over texts, sent in another order than it is shown. -/
theorem snapshot_installable_by_name :
    ∃ (runtime : ClientRuntime String) (prepared : PreparedTransition String),
      runtime.state = asked "by_name" ∧
      runtime.prepare_subscription_response (window "window" 1 (named "name" .Text .Descending) ⟨1, 1⟩ 1
        (.Snapshot .Initial) ["b", "a"]
        [.Upsert ⟨⟨"a"⟩, "x", 1, .Text "ada"⟩, .Upsert ⟨⟨"b"⟩, "y", 4, .Text "bob"⟩]) = .ok prepared ∧
      ((⟨prepared.state, prepared.valid⟩ : ClientRuntime String).subscription_snapshot "window").map (·.rows) =
        some [⟨⟨"b"⟩, "y", 4, .Text "bob"⟩, ⟨⟨"a"⟩, "x", 1, .Text "ada"⟩] := by
  have hformed : WellFormedSnapshot (asked "by_name") (asked "by_name").windows
      (window "window" 1 (named "name" .Text .Descending) ⟨1, 1⟩ 1 (.Snapshot .Initial) ["b", "a"]
        [.Upsert ⟨⟨"a"⟩, "x", 1, .Text "ada"⟩, .Upsert ⟨⟨"b"⟩, "y", 4, .Text "bob"⟩])
      [⟨⟨"b"⟩, "y", 4, .Text "bob"⟩, ⟨⟨"a"⟩, "x", 1, .Text "ada"⟩] := by
    refine wellFormedSnapshot_asked (by decide +kernel) ⟨_, rfl, .swap _ _ []⟩ ?_ rfl
    decide +kernel
  have hinstalled := (@snapshot_installable_iff String _ ⟨asked "by_name", by decide +kernel⟩ (by decide) _ _ _
    (activeStart_asked (by decide +kernel)) hformed).mpr (by decide)
  obtain ⟨prepared, hprepare, hrows⟩ := hinstalled
  exact ⟨_, prepared, rfl, hprepare, hrows⟩

/-- A row sorted by the empty text passes the wire validator, and its window can never be
installed. -/
theorem empty_sort_text_not_installable :
    ¬ ∀ (runtime : ClientRuntime String) (windows : DurableSubscriptions String)
      (response : SubscriptionResponse String) (shown : List (SubscriptionRow String)),
      runtime.state.revision.toNat + 1 < 2 ^ 64 →
      ActiveStart runtime.state windows response.subscription_id response.generation
        response.coverage.definition_id response.coverage.limit →
      WellFormedSnapshot runtime.state windows response shown →
      ∃ prepared, runtime.prepare_subscription_response response = .ok prepared ∧
        ((⟨prepared.state, prepared.valid⟩ : ClientRuntime String).subscription_snapshot
          response.subscription_id).map (·.rows) = some shown := by
  intro hclaim
  have hformed : WellFormedSnapshot (asked "by_name") (asked "by_name").windows
      (window "window" 1 (named "name" .Text .Ascending) ⟨1, 1⟩ 1 (.Snapshot .Initial) ["a"]
        [.Upsert ⟨⟨"a"⟩, "x", 1, .Text ""⟩]) [⟨⟨"a"⟩, "x", 1, .Text ""⟩] :=
    wellFormedSnapshot_asked (by decide +kernel) ⟨_, rfl, .refl _⟩ (List.pairwise_singleton _ _) rfl
  obtain ⟨prepared, hprepare, _⟩ := hclaim ⟨asked "by_name", by decide +kernel⟩ _ _ _ (by decide)
    (activeStart_asked (by decide +kernel)) hformed
  have hrefused : ((⟨asked "by_name", by decide +kernel⟩ : ClientRuntime String).prepare_subscription_response
      (window "window" 1 (named "name" .Text .Ascending) ⟨1, 1⟩ 1 (.Snapshot .Initial) ["a"]
        [.Upsert ⟨⟨"a"⟩, "x", 1, .Text ""⟩])).isOk = false := by
    decide +kernel
  exact absurd (Except.isOk_eq_true_iff.mpr ⟨prepared, hprepare⟩) (Bool.eq_false_iff.mp hrefused)

end transitions

end surrealdb_sync_client
