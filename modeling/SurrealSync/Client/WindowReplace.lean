import Mathlib.Algebra.Order.BigOperators.Group.List
import Mathlib.Algebra.Order.Group.Nat
import SurrealSync.Client.WindowMoves

open Std
open surrealdb_sync_protocol surrealdb_sync_protocol.subscription

namespace surrealdb_sync_client

variable {V : Type}

theorem slots_size_le {windows : DurableSubscriptions V}
    (hrequests : ∀ (id : String) slot, windows.slots[id]? = some slot →
      ∃ request, windows.requests[id]? = some request) : windows.slots.size ≤ windows.requests.size := by
  apply BTreeMap.size_le_of_keys
  intro id hid
  obtain ⟨slot, hslot⟩ := BTreeMap.exists_of_mem hid
  obtain ⟨request, hrequest⟩ := hrequests id slot hslot
  exact BTreeMap.mem_of_getElem? hrequest

/-- A cache without unused rows is bounded by the windows that share it. -/
theorem records_size_le {windows : DurableSubscriptions V} (hslots : windows.slots.size ≤ MAX_SUBSCRIPTIONS)
    (hmembers : ∀ (id : String) slot, windows.slots[id]? = some slot → slot.members.size ≤ MAX_WINDOW_ROWS)
    (hused : ∀ key ∈ windows.records, windows.Uses key) :
    windows.records.size ≤ MAX_SUBSCRIPTIONS * MAX_WINDOW_ROWS := by
  have hkeys : windows.records.size ≤ (windows.slots.vals.flatMap fun slot => slot.members.vals).length := by
    apply BTreeMap.size_le_length
    intro key hkey
    obtain ⟨id, slot, record_id, hslot, hmember⟩ := hused key hkey
    exact List.mem_flatMap.mpr ⟨slot, BTreeMap.mem_vals_iff.mpr ⟨id, hslot⟩,
      BTreeMap.mem_vals_iff.mpr ⟨record_id, hmember⟩⟩
  have hsum : ((windows.slots.vals).map fun slot => slot.members.vals.length).sum ≤
      windows.slots.vals.length • MAX_WINDOW_ROWS := by
    rw [← List.length_map fun slot : SubscriptionSlot => slot.members.vals.length]
    apply List.sum_le_card_nsmul
    intro count hcount
    obtain ⟨slot, hslot, rfl⟩ := List.mem_map.mp hcount
    obtain ⟨id, hslot⟩ := BTreeMap.mem_vals_iff.mp hslot
    simpa [BTreeMap.vals] using hmembers id slot hslot
  have hlength : windows.slots.vals.length = windows.slots.size := by simp [BTreeMap.vals]
  rw [List.length_flatMap] at hkeys
  rw [hlength, Nat.nsmul_eq_mul] at hsum
  exact hkeys.trans (hsum.trans (Nat.mul_le_mul_right _ hslots))

/-- The validity of a slot depends on its request, its barrier, the scope in force
and the rows it shows, not on the other windows. -/
theorem SlotValid.transfer {windows : DurableSubscriptions V} {owner : DurableClientState V} {id : String}
    {slot : SubscriptionSlot} (hvalid : SlotValid windows owner id slot) (later : DurableSubscriptions V)
    (hrequest : later.requests[id]? = windows.requests[id]?)
    (hcancelled : later.cancelled[id]? = windows.cancelled[id]?)
    (hauthorized : later.authorization_scope = some slot.scope)
    (hrows : later.rows_of slot = windows.rows_of slot)
    (subscriptions : Option (DurableSubscriptions V)) (revision : UInt64) :
    SlotValid later { owner with subscriptions, revision } id slot where
  request := hrequest ▸ hvalid.request
  authorized := hauthorized
  unbarred := hcancelled ▸ hvalid.unbarred
  epoch := hvalid.epoch
  view_revision := hvalid.view_revision
  scope := hvalid.scope
  subscription_revision := hvalid.subscription_revision
  plan := hvalid.plan
  token := hvalid.token
  limit_ne_zero := hvalid.limit_ne_zero
  limit_le := hvalid.limit_le
  members_le := hvalid.members_le
  order_field := hvalid.order_field
  members := by
    intro record_id key hkey
    obtain ⟨row, hrow, hmember⟩ := hvalid.members record_id key hkey
    refine ⟨row, ?_, hmember⟩
    have hlookup := congrArg (·[record_id]?) hrows
    simpa [DurableSubscriptions.getElem?_rows_of, hkey, hrow] using hlookup
  ids_length := hrows ▸ hvalid.ids_length
  ids_distinct := hrows ▸ hvalid.ids_distinct
  ids_members := hrows ▸ hvalid.ids_members
  sorted := hrows ▸ hvalid.sorted

/-- The bounds on the slots and on the cache follow from the others, when every slot is
valid and nothing in the cache is unused. -/
theorem DurableSubscriptions.Valid.assemble {windows : DurableSubscriptions V} {owner : DurableClientState V}
    (hrequests : ∀ id request, windows.requests[id]? = some request → validate_request owner id request = .ok ())
    (hbarriers : ∀ id barrier, windows.cancelled[id]? = some barrier → valid_subscription_text id ∧ barrier ≠ 0)
    (hdistinct : (ExtTreeSet.ofList (windows.requests.keys ++ windows.cancelled.keys) : BTreeSet String).size ≤
      MAX_SUBSCRIPTIONS)
    (hauthorization : validate_authorization windows owner = .ok ())
    (hslots : ∀ (id : String) slot, windows.slots[id]? = some slot → SlotValid windows owner id slot)
    (hused : ∀ key ∈ windows.records, windows.Uses key) : windows.Valid owner := by
  have hknown : ∀ id : String, id ∈ windows.requests ∨ id ∈ windows.cancelled →
      id ∈ (ExtTreeSet.ofList (windows.requests.keys ++ windows.cancelled.keys) : BTreeSet String).toList := by
    intro id hid
    rw [ExtTreeSet.mem_toList, ExtTreeSet.mem_ofList, List.contains_iff_mem, List.mem_append, ExtTreeMap.mem_keys,
      ExtTreeMap.mem_keys]
    exact hid
  have hrequests_le : windows.requests.size ≤ MAX_SUBSCRIPTIONS := by
    refine Nat.le_trans (BTreeMap.size_le_length fun id hid => hknown id (.inl hid)) ?_
    rwa [ExtTreeSet.length_toList]
  have hcancelled_le : windows.cancelled.size ≤ MAX_SUBSCRIPTIONS := by
    refine Nat.le_trans (BTreeMap.size_le_length fun id hid => hknown id (.inr hid)) ?_
    rwa [ExtTreeSet.length_toList]
  have hslots_le : windows.slots.size ≤ MAX_SUBSCRIPTIONS := by
    refine (slots_size_le fun id slot hslot => ?_).trans hrequests_le
    obtain ⟨request, hrequest, _⟩ := (hslots id slot hslot).request
    exact ⟨request, hrequest⟩
  have hrecords_le : windows.records.size ≤ MAX_SUBSCRIPTIONS * MAX_WINDOW_ROWS := by
    refine records_size_le hslots_le (fun id slot hslot => ?_) hused
    exact (hslots id slot hslot).members_le.trans (hslots id slot hslot).limit_le
  exact ⟨hrequests_le, hcancelled_le, hslots_le, hrecords_le, hrequests, hbarriers, hdistinct, hauthorization, hslots,
    hused⟩

/-- A table that keeps the requests and barriers of a valid one is valid when its
slots are and nothing in its cache is unused. -/
theorem DurableSubscriptions.Valid.replace {windows : DurableSubscriptions V}
    {owner : DurableClientState V} (hvalid : windows.Valid owner) (later : DurableSubscriptions V)
    (hrequests : later.requests = windows.requests) (hcancelled : later.cancelled = windows.cancelled)
    {subscriptions : Option (DurableSubscriptions V)} {revision : UInt64}
    (hauthorization : validate_authorization later { owner with subscriptions, revision } = .ok ())
    (hslots : ∀ (id : String) slot, later.slots[id]? = some slot →
      SlotValid later { owner with subscriptions, revision } id slot)
    (hused : ∀ key ∈ later.records, later.Uses key) :
    later.Valid { owner with subscriptions, revision } :=
  .assemble (hrequests ▸ hvalid.requests) (hcancelled ▸ hvalid.barriers) (hrequests ▸ hcancelled ▸ hvalid.distinct_le)
    hauthorization hslots hused

/-- Taking the window of one subscription out of a valid table, with the rows only it
used, leaves a valid table, however the request and the barrier of that
subscription change within the limits. -/
theorem DurableSubscriptions.Valid.drop {windows : DurableSubscriptions V} {owner : DurableClientState V}
    (hvalid : windows.Valid owner) (id : String) (later : DurableSubscriptions V)
    (hslots : later.slots = windows.slots.erase id) (hrecords : later.records = windows.records)
    (hscope : later.authorization_scope = windows.authorization_scope)
    (hkept : ∀ other ≠ id, later.requests[other]? = windows.requests[other]? ∧
      later.cancelled[other]? = windows.cancelled[other]?)
    (hrequest : ∀ request, later.requests[id]? = some request → windows.requests[id]? = some request)
    (hbarrier : ∀ barrier, later.cancelled[id]? = some barrier → valid_subscription_text id ∧ barrier ≠ 0)
    (hdistinct : (ExtTreeSet.ofList (later.requests.keys ++ later.cancelled.keys) : BTreeSet String).size ≤
      MAX_SUBSCRIPTIONS) {subscriptions : Option (DurableSubscriptions V)} {revision : UInt64} :
    (collect_records later).Valid { owner with subscriptions, revision } := by
  have hother : ∀ (other : String) slot, later.slots[other]? = some slot →
      other ≠ id ∧ windows.slots[other]? = some slot := by
    intro other slot hslot
    rw [hslots] at hslot
    refine ⟨?_, BTreeMap.getElem?_of_erase hslot⟩
    rintro rfl
    rw [ExtTreeMap.getElem?_erase_self] at hslot
    cases hslot
  refine .assemble ?_ ?_ hdistinct ?_ ?_ fun key => uses_of_mem_collect_records
  · intro other request hfound
    refine hvalid.requests other request ?_
    by_cases hid : other = id
    · subst hid
      exact hrequest request hfound
    · exact (hkept other hid).1 ▸ hfound
  · intro other barrier hfound
    by_cases hid : other = id
    · subst hid
      exact hbarrier barrier hfound
    · exact hvalid.barriers other barrier ((hkept other hid).2 ▸ hfound)
  · have hauthorization := hvalid.authorization
    unfold validate_authorization at hauthorization ⊢
    rw [collect_records_authorization_scope, hscope]
    cases hpresent : windows.authorization_scope with
    | some scope =>
      rw [hpresent] at hauthorization
      exact hauthorization
    | none =>
      simp only [hpresent, Except.refuse_eq_ok_iff, Bool.not_eq_false] at hauthorization ⊢
      rw [collect_records_slots, hslots, ExtTreeMap.isEmpty_iff.mp hauthorization]
      rfl
  · intro other slot hslot
    obtain ⟨hid, hfound⟩ := hother other slot hslot
    have hslotValid := hvalid.slots other slot hfound
    refine hslotValid.transfer (collect_records later) (hkept other hid).1 (hkept other hid).2
      (hscope.trans hslotValid.authorized) ?_ _ _
    have hrows : (collect_records later).rows_of slot = later.rows_of slot := collect_records_rows_of other hslot
    rw [hrows, DurableSubscriptions.rows_of, DurableSubscriptions.rows_of, hrecords]

/-- Validation treats the subscription table separately from the rest. -/
theorem DurableClientState.Valid.with_windows {state : DurableClientState V} (hvalid : state.Valid)
    {windows : DurableSubscriptions V} {revision : UInt64}
    (hwindows : windows.Valid { state with subscriptions := some windows, revision }) :
    DurableClientState.Valid { state with subscriptions := some windows, revision } where
  commits := hvalid.commits
  outcomes := hvalid.outcomes
  commit_ids := hvalid.commit_ids
  resolutions := hvalid.resolutions
  confirmed := hvalid.confirmed
  checkpoint := hvalid.checkpoint
  coverage := hvalid.coverage
  windows := by
    intro later hlater
    cases hlater
    exact hwindows
  id_map := hvalid.id_map
  confirmed_unmapped := hvalid.confirmed_unmapped
  outbox_unmapped := hvalid.outbox_unmapped
  outcomes_unmapped := hvalid.outcomes_unmapped

/-- An installed window keeps the table valid when its own slot is valid. -/
theorem WindowInstalled.valid {state : DurableClientState V} (hvalid : state.Valid)
    {windows later : DurableSubscriptions V} (hwindows : state.subscriptions = some windows)
    {response : SubscriptionResponse V} {token : OpaqueCheckpoint}
    {rows : BTreeMap RecordId (SubscriptionRow V)} {request : SubscriptionRequest}
    (hadmitted : WindowAdmitted state response token rows windows request)
    (hinstalled : WindowInstalled windows response token rows later) {revision : UInt64}
    (hauthorization :
      validate_authorization later { state with subscriptions := some later, revision } = .ok ())
    (hshown : SlotValid later { state with subscriptions := some later, revision } response.subscription_id
      (shown_slot response token rows)) :
    later.Valid { state with subscriptions := some later, revision } := by
  have hcurrent := hvalid.windows windows hwindows
  refine hcurrent.replace later hinstalled.requests hinstalled.cancelled hauthorization ?_ hinstalled.used
  intro id slot hslot
  rw [hinstalled.slots] at hslot
  by_cases hid : id = response.subscription_id
  · subst hid
    rw [ExtTreeMap.getElem?_insert_self] at hslot
    cases hslot
    exact hshown
  · rw [BTreeMap.getElem?_insert_of_ne hid] at hslot
    have hslotValid := hcurrent.slots id slot hslot
    have hscope : state.authorization_scope = some slot.scope := by
      rw [DurableClientState.authorization_scope, hwindows]
      exact hslotValid.authorized
    refine hslotValid.transfer later (by rw [hinstalled.requests]) (by rw [hinstalled.cancelled]) ?_ ?_ _ _
    · rw [hinstalled.authorization, guard_subscription_scope_eq_ok hadmitted.scope hscope]
    · exact hinstalled.others id slot hid hslot hslotValid.mem_records

/-- An admitted window is a change. -/
theorem WindowInstalled.ne {state : DurableClientState V} {windows later : DurableSubscriptions V}
    {response : SubscriptionResponse V} {token : OpaqueCheckpoint}
    {rows : BTreeMap RecordId (SubscriptionRow V)} {request : SubscriptionRequest}
    (hadmitted : WindowAdmitted state response token rows windows request)
    (hinstalled : WindowInstalled windows response token rows later) : later ≠ windows := by
  rintro rfl
  have hslot : later.slots[response.subscription_id]? = some (shown_slot response token rows) := by
    rw [hinstalled.slots, ExtTreeMap.getElem?_insert_self]
  exact (hadmitted.forward _ hslot).2 rfl

end surrealdb_sync_client
