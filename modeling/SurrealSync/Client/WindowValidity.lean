import SurrealSync.Client.Windows

open Std
open surrealdb_sync_protocol surrealdb_sync_protocol.subscription

namespace surrealdb_sync_client

variable {V : Type}

/-- A member of a slot refers to a cached row of its own record, epoch and sort
kind. -/
structure MemberValid (slot : SubscriptionSlot) (record_id : RecordId) (key : String)
    (row : SubscriptionRow V) : Prop where
  text : valid_subscription_text record_id.val
  sort_text : ¬ unusable_sort_text row.sort_key
  record : row.record_id = record_id
  key : cache_key slot.frontier.epoch row = key
  kind : row.sort_key.kind = slot.coverage.order_kind
  version : row.version ≠ 0

theorem validate_member_eq_ok_iff {records : BTreeMap String (SubscriptionRow V)}
    {slot : SubscriptionSlot} {record_id : RecordId} {key : String} {row : SubscriptionRow V} :
    validate_member records slot record_id key = .ok row ↔
      records[key]? = some row ∧ MemberValid slot record_id key row := by
  simp only [validate_member, Except.bind_eq_ok_iff, Except.okOr_eq_ok_iff,
    Except.refuse_eq_ok_iff, not_or, not_not, ne_eq, Except.ok.injEq]
  constructor
  · rintro ⟨row, hrow, _, ⟨htext, hsort, hrecord, hkey, hkind, hversion⟩, rfl⟩
    exact ⟨hrow, htext, hsort, hrecord, hkey, hkind, hversion⟩
  · rintro ⟨hrow, htext, hsort, hrecord, hkey, hkind, hversion⟩
    exact ⟨row, hrow, (), ⟨htext, hsort, hrecord, hkey, hkind, hversion⟩, rfl⟩

/-- The rows of a slot, by record id. -/
def DurableSubscriptions.rows_of (self : DurableSubscriptions V) (slot : SubscriptionSlot) :
    BTreeMap RecordId (SubscriptionRow V) :=
  slot.members.filterMap fun _ key => self.records[key]?

theorem DurableSubscriptions.getElem?_rows_of (self : DurableSubscriptions V)
    (slot : SubscriptionSlot) (record_id : RecordId) :
    (self.rows_of slot)[record_id]? = slot.members[record_id]?.bind fun key => self.records[key]? := by
  simp [DurableSubscriptions.rows_of]

/-- Everything validation requires of one installed slot. -/
structure SlotValid (windows : DurableSubscriptions V) (owner : DurableClientState V) (id : String)
    (slot : SubscriptionSlot) : Prop where
  request : ∃ request, windows.requests[id]? = some request ∧
    request.command.identity.2 = slot.generation ∧ validate_slot_command request.command slot = .ok ()
  authorized : windows.authorization_scope = some slot.scope
  unbarred : ∀ barrier, windows.cancelled[id]? = some barrier → barrier < slot.generation
  epoch : slot.frontier.epoch ≠ 0
  view_revision : slot.view_revision ≠ 0
  scope : slot.scope.identity = owner.requested_scope
  subscription_revision : slot.scope.subscription_revision = owner.subscription_revision
  plan : valid_subscription_text slot.plan_fingerprint
  token : valid_subscription_text slot.token.val
  limit_ne_zero : slot.coverage.limit ≠ 0
  limit_le : slot.coverage.limit.toNat ≤ MAX_WINDOW_ROWS
  members_le : slot.members.size ≤ slot.coverage.limit.toNat
  order_field : valid_subscription_text slot.coverage.order_field
  members : ∀ record_id key, slot.members[record_id]? = some key →
    ∃ row, windows.records[key]? = some row ∧ MemberValid slot record_id key row
  ids_length : (windows.rows_of slot).size = slot.ordered_ids.length
  ids_distinct : (ExtTreeSet.ofList slot.ordered_ids : BTreeSet RecordId).size = (windows.rows_of slot).size
  ids_members : ∀ record_id ∈ slot.ordered_ids, record_id ∈ windows.rows_of slot
  sorted : ∀ pair ∈ slot.ordered_ids.zip slot.ordered_ids.tail,
    validate_neighbours (windows.rows_of slot) slot.coverage.direction pair = .ok ()

theorem SlotValid.mem_records {windows : DurableSubscriptions V} {owner : DurableClientState V} {id : String}
    {slot : SubscriptionSlot} (hvalid : SlotValid windows owner id slot) (record_id : RecordId) (key : String)
    (hkey : slot.members[record_id]? = some key) : key ∈ windows.records := by
  obtain ⟨row, hrow, _⟩ := hvalid.members record_id key hkey
  exact BTreeMap.mem_of_getElem? hrow

/-- The member loop succeeds exactly on valid members, and collects their rows. -/
theorem member_loop_eq_ok_iff {self : DurableSubscriptions V} {slot : SubscriptionSlot}
    {rows : BTreeMap RecordId (SubscriptionRow V)} :
    slot.members.toList.foldlM (fun rows member => do
        let row ← validate_member self.records slot member.1 member.2
        .ok (rows.insert member.1 row)) (∅ : BTreeMap RecordId (SubscriptionRow V)) = .ok rows ↔
      (∀ record_id key, slot.members[record_id]? = some key →
        ∃ row, self.records[key]? = some row ∧ MemberValid slot record_id key row) ∧
      rows = self.rows_of slot := by
  rw [BTreeMap.foldlM_toList_insert_eq_ok_iff (g := fun member =>
    validate_member self.records slot member.1 member.2)]
  simp only [validate_member_eq_ok_iff]
  constructor
  · rintro ⟨hmembers, hother⟩
    refine ⟨fun record_id key hkey => ?_, ExtTreeMap.ext_getElem? fun record_id => ?_⟩
    · obtain ⟨row, hrow, _⟩ := hmembers record_id key hkey
      exact ⟨row, hrow⟩
    · rw [self.getElem?_rows_of]
      cases hkey : slot.members[record_id]? with
      | none =>
        exact hother record_id hkey
      | some key =>
        obtain ⟨row, ⟨hrow, _⟩, hlookup⟩ := hmembers record_id key hkey
        simp [hlookup, hrow]
  · rintro ⟨hmembers, rfl⟩
    refine ⟨fun record_id key hkey => ?_, fun record_id hnone => ?_⟩
    · obtain ⟨row, hrow, hvalid⟩ := hmembers record_id key hkey
      exact ⟨row, ⟨hrow, hvalid⟩, by simp [self.getElem?_rows_of, hkey, hrow]⟩
    · rw [self.getElem?_rows_of, hnone]
      rfl

theorem validate_slot_eq_ok_iff {self : DurableSubscriptions V} {owner : DurableClientState V}
    {used next : BTreeSet String} {id : String} {slot : SubscriptionSlot} :
    validate_slot self owner used id slot = .ok next ↔
      SlotValid self owner id slot ∧ next = slot.members.vals.foldl (fun used key => used.insert key) used := by
  simp only [validate_slot, Except.bind_eq_ok_iff, Except.okOr_eq_ok_iff, Except.refuse_eq_ok_iff,
    Except.forM_eq_ok_iff, member_loop_eq_ok_iff, not_or, not_not, not_exists, not_and, ne_eq,
    Except.ok.injEq, ge_iff_le, gt_iff_lt, UInt64.not_le, Nat.not_lt]
  constructor
  · rintro ⟨request, hrequest, _, hauthorized, _, ⟨hgeneration, hunbarred, hepoch, hview, hscope,
      hrevision, hplan, htoken, hlimit, hlimitLe, hmembersLe⟩, _, hcommand, _, hfield, rows,
      ⟨hmembers, rfl⟩, _, ⟨hlength, hdistinct, hids⟩, _, hsorted, rfl⟩
    exact ⟨⟨⟨request, hrequest, hgeneration, hcommand⟩, hauthorized, hunbarred, hepoch, hview, hscope,
      hrevision, hplan, htoken, hlimit, hlimitLe, hmembersLe, hfield, hmembers, hlength, hdistinct,
      hids, hsorted⟩, rfl⟩
  · rintro ⟨hvalid, rfl⟩
    obtain ⟨request, hrequest, hgeneration, hcommand⟩ := hvalid.request
    exact ⟨request, hrequest, (), hvalid.authorized, (), ⟨hgeneration, hvalid.unbarred, hvalid.epoch,
      hvalid.view_revision, hvalid.scope, hvalid.subscription_revision, hvalid.plan, hvalid.token,
      hvalid.limit_ne_zero, hvalid.limit_le, hvalid.members_le⟩, (), hcommand, (), hvalid.order_field,
      _, ⟨hvalid.members, rfl⟩, (), ⟨hvalid.ids_length, hvalid.ids_distinct, hvalid.ids_members⟩, (),
      hvalid.sorted, rfl⟩

/-- Everything validation requires of the subscription table. -/
structure DurableSubscriptions.Valid (windows : DurableSubscriptions V) (owner : DurableClientState V) :
    Prop where
  requests_le : windows.requests.size ≤ MAX_SUBSCRIPTIONS
  cancelled_le : windows.cancelled.size ≤ MAX_SUBSCRIPTIONS
  slots_le : windows.slots.size ≤ MAX_SUBSCRIPTIONS
  records_le : windows.records.size ≤ MAX_SUBSCRIPTIONS * MAX_WINDOW_ROWS
  requests : ∀ id request, windows.requests[id]? = some request → validate_request owner id request = .ok ()
  barriers : ∀ id barrier, windows.cancelled[id]? = some barrier →
    valid_subscription_text id ∧ barrier ≠ 0
  distinct_le : (ExtTreeSet.ofList (windows.requests.keys ++ windows.cancelled.keys) : BTreeSet String).size ≤
    MAX_SUBSCRIPTIONS
  authorization : validate_authorization windows owner = .ok ()
  slots : ∀ id slot, windows.slots[id]? = some slot → SlotValid windows owner id slot
  used : ∀ key ∈ windows.records, ∃ (id : String) (slot : SubscriptionSlot) (record_id : RecordId),
    windows.slots[id]? = some slot ∧ slot.members[record_id]? = some key

/-- The keys that the slots' members use. -/
theorem mem_used_iff {slots : List (String × SubscriptionSlot)} {used : BTreeSet String} {key : String} :
    key ∈ slots.foldl (fun used entry => entry.2.members.vals.foldl (fun used key => used.insert key) used)
        used ↔
      key ∈ used ∨ ∃ entry ∈ slots, key ∈ entry.2.members.vals := by
  induction slots generalizing used with
  | nil => simp
  | cons entry slots ih =>
    rw [List.foldl_cons, ih, BTreeSet.mem_foldl_insert]
    simp only [List.map_id', List.mem_cons, exists_eq_or_imp]
    exact or_assoc

theorem mem_used_empty_iff {slots : BTreeMap String SubscriptionSlot} {key : String} :
    key ∈ slots.toList.foldl (fun used entry =>
        entry.2.members.vals.foldl (fun used key => used.insert key) used) (∅ : BTreeSet String) ↔
      ∃ (id : String) (slot : SubscriptionSlot) (record_id : RecordId),
        slots[id]? = some slot ∧ slot.members[record_id]? = some key := by
  rw [mem_used_iff]
  simp only [ExtTreeSet.not_mem_empty, false_or, Prod.exists,
    ExtTreeMap.mem_toList_iff_getElem?_eq_some, BTreeMap.mem_vals_iff]
  constructor
  · rintro ⟨id, slot, hslot, record_id, hkey⟩
    exact ⟨id, slot, record_id, hslot, hkey⟩
  · rintro ⟨id, slot, record_id, hslot, hkey⟩
    exact ⟨id, slot, hslot, record_id, hkey⟩

theorem slot_loop_eq_ok_iff {self : DurableSubscriptions V} {owner : DurableClientState V}
    {slots : List (String × SubscriptionSlot)} {used next : BTreeSet String} :
    slots.foldlM (fun used slot => validate_slot self owner used slot.1 slot.2) used = .ok next ↔
      (∀ entry ∈ slots, SlotValid self owner entry.1 entry.2) ∧
        next = slots.foldl (fun used entry =>
          entry.2.members.vals.foldl (fun used key => used.insert key) used) used :=
  Except.foldlM_eq_ok_iff_of_step (P := fun (entry : String × SubscriptionSlot) =>
    SlotValid self owner entry.1 entry.2) fun _ _ _ => validate_slot_eq_ok_iff

theorem DurableSubscriptions.validate_eq_ok_iff {self : DurableSubscriptions V}
    {owner : DurableClientState V} : self.validate owner = .ok () ↔ self.Valid owner := by
  simp only [DurableSubscriptions.validate, Except.bind_eq_ok_iff, Except.refuse_eq_ok_iff,
    Except.forM_eq_ok_iff, slot_loop_eq_ok_iff, Prod.forall,
    ExtTreeMap.mem_toList_iff_getElem?_eq_some, not_or, Nat.not_lt, gt_iff_lt, not_not, not_exists,
    not_and, ExtTreeMap.mem_keys]
  constructor
  · rintro ⟨_, ⟨hrequests, hcancelled, hslots, hrecords⟩, _, hrequest, _, hbarriers, _, hdistinct, _,
      hauthorization, used, ⟨hslot, rfl⟩, hused⟩
    refine ⟨hrequests, hcancelled, hslots, hrecords, hrequest, hbarriers, hdistinct, hauthorization,
      hslot, fun key hkey => ?_⟩
    exact mem_used_empty_iff.mp (hused key hkey)
  · intro hvalid
    exact ⟨(), ⟨hvalid.requests_le, hvalid.cancelled_le, hvalid.slots_le, hvalid.records_le⟩, (),
      hvalid.requests, (), hvalid.barriers, (), hvalid.distinct_le, (), hvalid.authorization, _,
      ⟨hvalid.slots, rfl⟩, fun key hkey => mem_used_empty_iff.mpr (hvalid.used key hkey)⟩

end surrealdb_sync_client
