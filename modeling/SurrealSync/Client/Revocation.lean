import SurrealSync.Client.Interference

open Std
open surrealdb_sync_protocol surrealdb_sync_protocol.subscription

namespace surrealdb_sync_client

variable {V : Type}

/-- A stored request names a usable id and a positive generation. -/
theorem identity_of_validate_request {owner : DurableClientState V} {id : String} {request : SubscriptionRequest}
    (hvalid : validate_request owner id request = .ok ()) :
    valid_subscription_text id ∧ request.command.identity.2 ≠ 0 := by
  unfold validate_request at hvalid
  simp only [Except.refuse_eq_ok_iff, not_or, not_not, ne_eq] at hvalid
  obtain ⟨hrequest, _, hid, _⟩ := hvalid
  unfold validate_subscription_request at hrequest
  simp only [Bool.or_eq_true, Bool.not_eq_true', beq_iff_eq] at hrequest
  split at hrequest
  · cases hrequest
  · rename_i hguard
    simp only [not_or, Bool.not_eq_false] at hguard
    exact ⟨hid ▸ hguard.1.2, hguard.2⟩

/-- The ids a table counts against its limit. -/
theorem DurableSubscriptions.mem_distinct_ids {windows : DurableSubscriptions V} {id : String} :
    id ∈ (ExtTreeSet.ofList (windows.requests.keys ++ windows.cancelled.keys) : BTreeSet String) ↔
      id ∈ windows.requests ∨ id ∈ windows.cancelled := by
  rw [ExtTreeSet.mem_ofList, List.contains_iff_mem, List.mem_append, ExtTreeMap.mem_keys, ExtTreeMap.mem_keys]

/-- A cancellation turns the id of a request into the id of a barrier, so the count of
distinct ids does not move. -/
theorem DurableSubscriptions.distinct_ids_cancel {windows : DurableSubscriptions V} {id : String}
    (hrequested : id ∈ windows.requests) (generation : UInt64) :
    (ExtTreeSet.ofList ((windows.cancel id generation).requests.keys ++
        (windows.cancel id generation).cancelled.keys) : BTreeSet String) =
      ExtTreeSet.ofList (windows.requests.keys ++ windows.cancelled.keys) := by
  apply ExtTreeSet.ext_mem
  intro other
  rw [mem_distinct_ids, mem_distinct_ids, DurableSubscriptions.cancel, collect_records_requests,
    collect_records_cancelled, ExtTreeMap.mem_erase, ExtTreeMap.mem_insert, ne_eq,
    LawfulEqOrd.compare_eq_iff_eq]
  by_cases hid : id = other
  · subst hid
    simp [hrequested]
  · simp [hid]

/-- A request that has no barrier yet leaves room for one. -/
theorem DurableSubscriptions.Valid.room_for_barrier {windows : DurableSubscriptions V}
    {owner : DurableClientState V} (hvalid : windows.Valid owner) {id : String}
    (hrequested : id ∈ windows.requests) (hunbarred : id ∉ windows.cancelled) :
    windows.cancelled.size < MAX_SUBSCRIPTIONS := by
  have hinsert : (windows.cancelled.insert id 0).size = windows.cancelled.size + 1 := by
    rw [ExtTreeMap.size_insert, if_neg (by rwa [ExtTreeMap.contains_iff_mem])]
  have hdistinct := hvalid.distinct_le
  rw [← ExtTreeSet.length_toList] at hdistinct
  have hsize : (windows.cancelled.insert id 0).size ≤
      (ExtTreeSet.ofList (windows.requests.keys ++ windows.cancelled.keys) : BTreeSet String).toList.length := by
    apply BTreeMap.size_le_length
    intro other hother
    rw [ExtTreeSet.mem_toList, mem_distinct_ids]
    rw [ExtTreeMap.mem_insert, LawfulEqOrd.compare_eq_iff_eq] at hother
    rcases hother with rfl | hother
    · exact .inl hrequested
    · exact .inr hother
  omega

/-- Cancelling a stored request keeps the table valid. -/
theorem DurableSubscriptions.Valid.cancel {windows : DurableSubscriptions V} {owner : DurableClientState V}
    (hvalid : windows.Valid owner) {id : String} {request : SubscriptionRequest}
    (hrequest : windows.requests[id]? = some request) {generation : UInt64} (hgeneration : generation ≠ 0)
    {subscriptions : Option (DurableSubscriptions V)} {revision : UInt64} :
    (windows.cancel id generation).Valid { owner with subscriptions, revision } := by
  have htext := (identity_of_validate_request (hvalid.requests id request hrequest)).1
  refine hvalid.drop id { windows with
    cancelled := windows.cancelled.insert id (max (windows.cancelled[id]?.getD generation) generation)
    slots := windows.slots.erase id
    requests := windows.requests.erase id } rfl rfl rfl ?_ ?_ ?_ ?_
  · intro other hother
    exact ⟨BTreeMap.getElem?_erase_of_ne hother, BTreeMap.getElem?_insert_of_ne hother⟩
  · intro found hfound
    exact BTreeMap.getElem?_of_erase hfound
  · intro barrier hbarrier
    rw [ExtTreeMap.getElem?_insert_self, Option.some.injEq] at hbarrier
    refine ⟨htext, fun hzero => hgeneration ?_⟩
    have hle : generation ≤ barrier := hbarrier ▸ UInt64.le_max_right _ _
    rw [hzero] at hle
    rw [UInt64.le_iff_toNat_le] at hle
    apply UInt64.toNat_inj.mp
    have hnat : (0 : UInt64).toNat = 0 := rfl
    omega
  · have hsame := distinct_ids_cancel (BTreeMap.mem_of_getElem? hrequest) generation
    have hdistinct := hvalid.distinct_le
    rw [← hsame] at hdistinct
    exact hdistinct

theorem DurableSubscriptions.getElem?_slots_cancel (windows : DurableSubscriptions V) {id other : String}
    (hother : other ≠ id) (generation : UInt64) :
    (windows.cancel id generation).slots[other]? = windows.slots[other]? := by
  rw [DurableSubscriptions.cancel, collect_records_slots, BTreeMap.getElem?_erase_of_ne hother]

theorem DurableSubscriptions.rows_of_cancel {windows : DurableSubscriptions V} {id other : String}
    {generation : UInt64} {slot : SubscriptionSlot}
    (hslot : (windows.cancel id generation).slots[other]? = some slot) :
    (windows.cancel id generation).rows_of slot = windows.rows_of slot :=
  collect_records_rows_of other hslot

variable [DecidableEq V]

/-- What a cancellation promises: the subscription is gone behind a barrier, and nothing
else changed. -/
structure Revoked (before after : ClientRuntime V) (id : String) (generation : UInt64) : Prop where
  request : after.state.windows.requests[id]? = none
  slot : after.state.windows.slots[id]? = none
  barrier : ∃ barrier, after.state.windows.cancelled[id]? = some barrier ∧ barrier ≥ generation
  others : ∀ other ≠ id, Unaffected before after other
  outbox : after.state.outbox = before.state.outbox
  outcomes : after.state.outcomes = before.state.outcomes
  confirmed : after.state.confirmed = before.state.confirmed
  checkpoint : after.state.checkpoint = before.state.checkpoint
  id_map : after.state.id_map = before.state.id_map

theorem revoked_of_cancel {before after : ClientRuntime V} {id : String} {generation revision : UInt64}
    (hafter : after.state = { before.state with
      subscriptions := some (before.state.windows.cancel id generation), revision }) :
    Revoked before after id generation := by
  have hwindows : after.state.windows = before.state.windows.cancel id generation :=
    DurableClientState.windows_eq (by rw [hafter])
  refine ⟨?_, ?_, ?_, ?_, ?_, ?_, ?_, ?_, ?_⟩
  · rw [hwindows, DurableSubscriptions.cancel, collect_records_requests, ExtTreeMap.getElem?_erase_self]
  · rw [hwindows, DurableSubscriptions.cancel, collect_records_slots, ExtTreeMap.getElem?_erase_self]
  · rw [hwindows, DurableSubscriptions.cancel, collect_records_cancelled, ExtTreeMap.getElem?_insert_self]
    exact ⟨_, rfl, UInt64.le_max_right _ _⟩
  · intro other hother
    have hslot := before.state.windows.getElem?_slots_cancel hother generation
    refine ⟨by rw [hwindows, hslot], ?_, ?_⟩
    · rw [hwindows, DurableSubscriptions.cancel, collect_records_requests, BTreeMap.getElem?_erase_of_ne hother]
    · rw [subscription_snapshot_rows, subscription_snapshot_rows, hwindows]
      cases hfound : before.state.windows.slots[other]? with
      | none => rw [hslot, hfound, Option.map_none, Option.map_none]
      | some slot =>
        rw [hslot, hfound, Option.map_some, Option.map_some,
          DurableSubscriptions.rows_of_cancel (hslot.trans hfound)]
  all_goals rw [hafter]

/-- An active subscription can be revoked in every state that has a revision left, at its
own generation or any later one. -/
theorem active_subscription_revocable {self : ClientRuntime V} (hroom : self.state.revision.toNat + 1 < 2 ^ 64)
    {id : String} {request : SubscriptionRequest} (hrequest : self.state.windows.requests[id]? = some request)
    {generation : UInt64} (hgeneration : request.command.identity.2 ≤ generation) :
    ∃ prepared, self.prepare_cancel_subscription id generation = .ok prepared ∧
      Revoked self ⟨prepared.state, prepared.valid⟩ id generation := by
  cases hwindows : self.state.subscriptions with
  | none => simp [DurableClientState.windows, hwindows, DurableSubscriptions.default] at hrequest
  | some windows =>
    obtain rfl := DurableClientState.windows_eq hwindows
    have hvalid := self.is_valid.windows self.state.windows hwindows
    obtain ⟨htext, hpositive⟩ := identity_of_validate_request (hvalid.requests id request hrequest)
    have hnonzero : generation ≠ 0 := by
      rintro rfl
      exact hpositive (UInt64.le_zero_iff.mp hgeneration)
    obtain ⟨revision, hrevision⟩ := exists_next_revision hroom
    have hcancel : (self.state.windows.cancel id generation).Valid
        { self.state with subscriptions := some (self.state.windows.cancel id generation), revision } :=
      hvalid.cancel hrequest hnonzero
    have hlater := self.is_valid.with_windows hcancel
    have hstamped : Stamped self.state { self.state with subscriptions := some (self.state.windows.cancel id generation) }
        { self.state with subscriptions := some (self.state.windows.cancel id generation), revision } := by
      refine .inr ⟨fun hunchanged => ?_, rfl, hrevision⟩
      have hsame : some (self.state.windows.cancel id generation) = some self.state.windows :=
        (congrArg DurableClientState.subscriptions hunchanged).trans hwindows
      have hgone : self.state.windows.requests[id]? = none := by
        rw [← Option.some.inj hsame]
        exact ExtTreeMap.getElem?_erase_self
      rw [hrequest] at hgone
      cases hgone
    have hprepare : self.prepare_cancel_subscription id generation =
        .ok ⟨self.state.revision, _, DurableClientState.validate_eq_ok_iff.mpr hlater⟩ := by
      have hnamed : ¬ (¬ valid_subscription_text id ∨ generation = 0) := by
        simp [htext, hnonzero]
      have hfits : ¬ (id ∉ self.state.windows.cancelled ∧ self.state.windows.cancelled.size ≥ MAX_SUBSCRIPTIONS) := by
        rintro ⟨hunbarred, hfull⟩
        have hspare := hvalid.room_for_barrier (BTreeMap.mem_of_getElem? hrequest) hunbarred
        omega
      have hcurrent : ¬ ∃ found ∈ self.state.windows.requests[id]?, found.command.identity.2 > generation := by
        rintro ⟨found, hfound, hlarger⟩
        cases hrequest.symm.trans hfound
        exact UInt64.not_lt.mpr hgeneration hlarger
      refine Except.bind_eq_ok_iff.mpr ⟨(), Except.refuse_eq_ok_iff.mpr hnamed, ?_⟩
      refine Except.bind_eq_ok_iff.mpr ⟨(), Except.refuse_eq_ok_iff.mpr hfits, ?_⟩
      refine Except.bind_eq_ok_iff.mpr ⟨(), Except.refuse_eq_ok_iff.mpr hcurrent, ?_⟩
      exact ClientRuntime.prepare_succeeds hstamped _
    exact ⟨_, hprepare, revoked_of_cancel rfl⟩

namespace transitions

/-- Two windows share the record "a"; "second" is revoked past its generation. -/
theorem active_subscription_revocable_shared :
    ∃ edges last prepared, Run opened edges last ∧
      (∃ slot, last.state.windows.slots["second"]? = some slot ∧ slot.ordered_ids = [⟨"a"⟩]) ∧
      last.prepare_cancel_subscription "second" 3 = .ok prepared ∧
      Revoked last ⟨prepared.state, prepared.valid⟩ "second" 3 := by
  have hexecute : (do
      let (_, last) ← opened.execute (two_windows "by_score" ++
        [Transition.SubscriptionResponse (second_window (ordered_by "score" .Ascending) 5)])
      Except.refuse (¬ (last.state.revision = 4 ∧
        last.state.windows.requests["second"]? = some (start "second" 1 "by_score") ∧
        ∃ slot ∈ last.state.windows.slots["second"]?, slot.ordered_ids = [RecordId.mk "a"]))
        ClientError.EmptyCommit) = .ok () := by
    decide +kernel
  simp only [Except.bind_eq_ok_iff, Except.refuse_eq_ok_iff, not_not] at hexecute
  obtain ⟨⟨edges, last⟩, hlast, hrevision, hrequest, hslot⟩ := hexecute
  obtain ⟨prepared, hprepare, hrevoked⟩ := @active_subscription_revocable _ _ last (by rw [hrevision]; decide)
    "second" _ hrequest 3 (by decide)
  exact ⟨edges, last, prepared, run_of_execute hlast, hslot, hprepare, hrevoked⟩

end transitions

end surrealdb_sync_client
