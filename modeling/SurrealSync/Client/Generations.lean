import SurrealSync.Client.Validity
import SurrealSync.Client.WindowMoves

open Std
open surrealdb_sync_protocol surrealdb_sync_protocol.subscription

namespace surrealdb_sync_client

variable {V : Type}

/-- A cancellation of a subscription's generation, by the application or by the
server. -/
def Transition.Cancels (transition : Transition V) (id : String) (generation : UInt64) : Prop :=
  transition = .CancelSubscription id generation ∨
    ∃ response, transition = .SubscriptionResponse response ∧ response.response = .Cancelled ∧
      response.subscription_id = id ∧ response.generation = generation

/-- A generation that is over: every request the subscription has is newer, and
either the barrier or such a request keeps it so. -/
structure Retired (id : String) (generation : UInt64) (windows : DurableSubscriptions V) : Prop where
  newer : ∀ request, windows.requests[id]? = some request → generation < request.command.identity.2
  remembered : windows.Barred id generation ∨ id ∈ windows.requests

theorem barred_cancel (windows : DurableSubscriptions V) (id : String) {earlier generation : UInt64}
    (hle : earlier ≤ generation) : (windows.cancel id generation).Barred id earlier := by
  refine ⟨max (windows.cancelled[id]?.getD generation) generation, ExtTreeMap.getElem?_insert_self, ?_⟩
  exact UInt64.le_trans hle (UInt64.le_max_right _ _)

/-- A barrier never goes down. -/
theorem DurableSubscriptions.Barred.cancel {windows : DurableSubscriptions V} {id : String}
    {generation : UInt64} (hbarred : windows.Barred id generation) (other : String) (cancelled : UInt64) :
    (windows.cancel other cancelled).Barred id generation := by
  obtain ⟨barrier, hbarrier, hge⟩ := hbarred
  rw [Option.mem_def] at hbarrier
  by_cases hid : other = id
  · subst hid
    refine ⟨max barrier cancelled, ?_, UInt64.le_trans hge (UInt64.le_max_left _ _)⟩
    simp [DurableSubscriptions.cancel, hbarrier]
  · refine ⟨barrier, ?_, hge⟩
    simp [DurableSubscriptions.cancel, ExtTreeMap.getElem?_insert, hid, hbarrier]

/-- A cancellation retires its generation. -/
theorem retired_cancel (windows : DurableSubscriptions V) (id : String) (generation : UInt64) :
    Retired id generation (windows.cancel id generation) where
  newer := by
    intro request hrequest
    simp [DurableSubscriptions.cancel] at hrequest
  remembered := .inl (barred_cancel windows id (UInt64.le_refl generation))

/-- No transition revives a retired generation. -/
theorem Retired.move {state : DurableClientState V} {transition : Transition V}
    {windows : DurableSubscriptions V} {id : String} {generation : UInt64}
    (hretired : Retired id generation state.windows) (hmove : WindowMove state transition windows) :
    Retired id generation windows := by
  cases hmove with
  | kept hkept => exact hkept ▸ hretired
  | @started request _ hunbarred hnewer hwindows =>
    subst hwindows
    by_cases hid : request.command.identity.1 = id
    · -- The barrier, or the request it replaces, puts the new start above the generation.
      subst hid
      refine ⟨fun other hother => ?_, .inr ?_⟩
      · cases ExtTreeMap.getElem?_insert_self.symm.trans hother
        rcases hretired.remembered with ⟨barrier, hbarrier, hge⟩ | hrequest
        · have hbelow := UInt64.not_le.mp fun hle => hunbarred ⟨barrier, hbarrier, hle⟩
          exact UInt64.lt_of_le_of_lt hge hbelow
        · obtain ⟨previous, hprevious⟩ := BTreeMap.exists_of_mem hrequest
          exact UInt64.lt_trans (hretired.newer previous hprevious) (hnewer previous hprevious)
      · exact ExtTreeMap.mem_insert_self
    · have hkept : (state.windows.start request.command.identity.1 request).requests[id]? =
          state.windows.requests[id]? := by
        simp [DurableSubscriptions.start, ExtTreeMap.getElem?_insert, hid]
      refine ⟨fun other hother => hretired.newer other (hkept ▸ hother), ?_⟩
      rw [ExtTreeMap.mem_iff_isSome_getElem?, hkept, ← ExtTreeMap.mem_iff_isSome_getElem?]
      exact hretired.remembered
  | @cancelled other cancelled hnewest hwindows =>
    subst hwindows
    by_cases hid : other = id
    · subst hid
      refine ⟨fun request hrequest => ?_, .inl ?_⟩
      · simp [DurableSubscriptions.cancel] at hrequest
      · rcases hretired.remembered with hbarred | hrequest
        · exact hbarred.cancel other cancelled
        · obtain ⟨request, hrequest⟩ := BTreeMap.exists_of_mem hrequest
          have hlt := UInt64.lt_of_lt_of_le (hretired.newer request hrequest) (hnewest request hrequest)
          exact barred_cancel state.windows other (UInt64.le_of_lt hlt)
    · have hkept : (state.windows.cancel other cancelled).requests[id]? = state.windows.requests[id]? := by
        simp [DurableSubscriptions.cancel, ExtTreeMap.getElem?_erase, hid]
      refine ⟨fun request hrequest => hretired.newer request (hkept ▸ hrequest), ?_⟩
      rw [ExtTreeMap.mem_iff_isSome_getElem?, hkept, ← ExtTreeMap.mem_iff_isSome_getElem?]
      exact hretired.remembered.imp_left fun hbarred => hbarred.cancel other cancelled
  | shown _ _ hinstalled =>
    constructor
    · rw [hinstalled.requests]
      exact hretired.newer
    · rw [hinstalled.requests]
      unfold DurableSubscriptions.Barred
      rw [hinstalled.cancelled]
      exact hretired.remembered

/-- A later slot of one generation: the same slot with the same rows, or a later
view that is not behind it. -/
structure SlotAdvanced (earlier : DurableSubscriptions V) (slot : SubscriptionSlot)
    (later : DurableSubscriptions V) (next : SubscriptionSlot) : Prop where
  generation : next.generation = slot.generation
  frontier : CursorLe slot.frontier next.frontier
  view : (next = slot ∧ later.rows_of next = earlier.rows_of slot) ∨ slot.view_revision < next.view_revision

theorem SlotAdvanced.refl (windows : DurableSubscriptions V) (slot : SubscriptionSlot) :
    SlotAdvanced windows slot windows slot :=
  ⟨rfl, CursorLe.refl _, .inl ⟨rfl, rfl⟩⟩

theorem SlotAdvanced.trans {earlier middle later : DurableSubscriptions V} {a b c : SubscriptionSlot}
    (hfirst : SlotAdvanced earlier a middle b) (hsecond : SlotAdvanced middle b later c) :
    SlotAdvanced earlier a later c := by
  refine ⟨hsecond.generation.trans hfirst.generation, hfirst.frontier.trans hsecond.frontier, ?_⟩
  rcases hfirst.view with ⟨rfl, hrows⟩ | hlt
  · exact hsecond.view.imp_left fun ⟨hslot, hsame⟩ => ⟨hslot, hsame.trans hrows⟩
  · rcases hsecond.view with ⟨rfl, _⟩ | hnext
    · exact .inr hlt
    · exact .inr (UInt64.lt_trans hlt hnext)

variable [DecidableEq V]

theorem Retired.run {first last : ClientRuntime V}
    {edges : List (Trace.Edge (ClientRuntime V) (Transition V))} {id : String} {generation : UInt64} (hretired : Retired id generation first.state.windows)
    (hrun : Run first edges last) : Retired id generation last.state.windows :=
  hrun.preserves (P := fun runtime => Retired id generation runtime.state.windows)
    (fun _ _ _ hstep hretired => hretired.move hstep.windows) hretired

/-- An installed cancellation retires its generation. -/
theorem Step.retired {before after : ClientRuntime V} {transition : Transition V}
    (hstep : Step before transition after) {id : String} {generation : UInt64}
    (hcancels : transition.Cancels id generation) : Retired id generation after.state.windows := by
  obtain ⟨next, heffect, hstamped⟩ := hstep.effect
  obtain ⟨_, hafter⟩ := hstamped.exists_revision
  rw [hafter]
  rcases hcancels with rfl | ⟨response, rfl, hcancelled, rfl, rfl⟩
  · cases heffect with
    | cancelled _ => exact retired_cancel before.state.windows id generation
  · cases heffect with
    | withdrawn _ _ => exact retired_cancel before.state.windows _ _
    | reshown hadmits => cases admission_of_cancelled hadmits hcancelled
    | shown hadmits _ _ => cases admission_of_cancelled hadmits hcancelled

theorem Retired.slot_newer {self : ClientRuntime V} {id : String} {generation : UInt64}
    (hretired : Retired id generation self.state.windows) {slot : SubscriptionSlot}
    (hslot : self.state.windows.slots[id]? = some slot) : generation < slot.generation := by
  obtain ⟨request, hrequest, hgeneration, _⟩ := (self.is_valid.slot hslot).request
  exact hgeneration ▸ hretired.newer request hrequest

theorem Retired.start_refused {self : ClientRuntime V} {request : SubscriptionRequest} {generation : UInt64}
    (hretired : Retired request.command.identity.1 generation self.state.windows)
    (hold : request.command.identity.2 ≤ generation) :
    ∃ error, self.prepare_start_subscription request = .error error := by
  apply Except.exists_error
  intro prepared hprepare
  apply UInt64.not_lt.mpr hold
  obtain ⟨next, heffect, _⟩ := effect_of_prepare_start_subscription hprepare
  cases heffect with
  | restarted hrequest => exact hretired.newer request hrequest
  | started _ hunbarred hnewer =>
    rcases hretired.remembered with ⟨barrier, hbarrier, hge⟩ | hrequest
    · exact absurd ⟨barrier, hbarrier, UInt64.le_trans hold hge⟩ hunbarred
    · obtain ⟨previous, hprevious⟩ := BTreeMap.exists_of_mem hrequest
      exact UInt64.lt_trans (hretired.newer previous hprevious) (hnewer previous hprevious)

theorem answered_of_prepare_subscription_response {self : ClientRuntime V}
    {response : SubscriptionResponse V} {prepared : PreparedTransition V}
    (hprepare : self.prepare_subscription_response response = .ok prepared) :
    ∃ request, Answered self.state response self.state.windows request := by
  obtain ⟨admission, hadmits, _⟩ := Except.bind_eq_ok_iff.mp hprepare
  obtain ⟨current, request, hanswered, _⟩ := admit_response_eq_ok hadmits
  have htable := DurableClientState.windows_eq hanswered.subscriptions
  exact ⟨request, htable ▸ hanswered⟩

theorem Retired.response_refused {self : ClientRuntime V} {response : SubscriptionResponse V}
    {generation : UInt64} (hretired : Retired response.subscription_id generation self.state.windows)
    (hold : response.generation ≤ generation) :
    ∃ error, self.prepare_subscription_response response = .error error := by
  apply Except.exists_error
  intro prepared hprepare
  obtain ⟨request, hanswered⟩ := answered_of_prepare_subscription_response hprepare
  apply UInt64.not_lt.mpr hold
  exact hanswered.generation ▸ hretired.newer request hanswered.requested

/-- A response to one generation of a subscription, installed along a run. -/
def DeliveredTo (edges : List (Trace.Edge (ClientRuntime V) (Transition V))) (id : String)
    (generation : UInt64) (response : SubscriptionResponse V) : Prop :=
  ∃ edge ∈ edges, edge.label = .SubscriptionResponse response ∧ response.subscription_id = id ∧
    response.generation = generation

/-- Where an installed slot and its rows come from: responses to the generation
of the current start, or the slot of that generation the run started with. -/
structure SlotOrigin (first : ClientRuntime V) (edges : List (Trace.Edge (ClientRuntime V) (Transition V)))
    (last : ClientRuntime V) (id : String) (slot : SubscriptionSlot) : Prop where
  request : ∃ request, last.state.windows.requests[id]? = some request ∧ request.command.IsStart ∧
    request.command.identity = (id, slot.generation)
  installed : first.state.windows.slots[id]? = some slot ∨
    ∃ response token, DeliveredTo edges id slot.generation response ∧ response.token = some token ∧
      slot = shown_slot response token (last.state.windows.rows_of slot)
  rows : ∀ (record_id : RecordId) row, (last.state.windows.rows_of slot)[record_id]? = some row →
    (∃ response, DeliveredTo edges id slot.generation response ∧ .Upsert row ∈ response.changes) ∨
    ∃ earlier, first.state.windows.slots[id]? = some earlier ∧ earlier.generation = slot.generation ∧
      (first.state.windows.rows_of earlier)[record_id]? = some row

theorem DeliveredTo.append {edges later : List (Trace.Edge (ClientRuntime V) (Transition V))} {id : String}
    {generation : UInt64} {response : SubscriptionResponse V}
    (hdelivered : DeliveredTo edges id generation response) :
    DeliveredTo (edges ++ later) id generation response := by
  obtain ⟨edge, hedge, hlabel⟩ := hdelivered
  exact ⟨edge, List.mem_append_left _ hedge, hlabel⟩

theorem ClientRuntime.slot_request (self : ClientRuntime V) {id : String} {slot : SubscriptionSlot}
    (hslot : self.state.windows.slots[id]? = some slot) :
    ∃ request, self.state.windows.requests[id]? = some request ∧ request.command.IsStart ∧
      request.command.identity = (id, slot.generation) := by
  obtain ⟨request, hrequest, hgeneration, _⟩ := (self.is_valid.slot hslot).request
  have hvalid := self.is_valid.request hrequest
  simp only [validate_request, Except.refuse_eq_ok_iff, not_or, not_not, ne_eq] at hvalid
  obtain ⟨_, hstart, hid, _⟩ := hvalid
  exact ⟨request, hrequest, hstart, Prod.ext hid hgeneration⟩

/-- An admitted response has the generation of the slot it replaces. -/
theorem Answered.slot_generation {self : ClientRuntime V} {response : SubscriptionResponse V}
    {request : SubscriptionRequest} (hanswered : Answered self.state response self.state.windows request)
    {slot : SubscriptionSlot} (hslot : self.state.windows.slots[response.subscription_id]? = some slot) :
    slot.generation = response.generation := by
  obtain ⟨other, hother, _, hidentity⟩ := self.slot_request hslot
  cases hanswered.requested.symm.trans hother
  rw [hanswered.generation, hidentity]

/-- A step keeps the origin of a slot it leaves alone, and a slot it shows stems
from its response. -/
theorem Step.slotOrigin {first before after : ClientRuntime V} {transition : Transition V}
    {edges : List (Trace.Edge (ClientRuntime V) (Transition V))} (hstep : Step before transition after)
    (horigin : ∀ (id : String) slot, before.state.windows.slots[id]? = some slot →
      SlotOrigin first edges before id slot)
    {id : String} {slot : SubscriptionSlot} (hslot : after.state.windows.slots[id]? = some slot) :
    SlotOrigin first (edges ++ [⟨before, transition, after⟩]) after id slot := by
  rcases hstep.windows.slot before.is_valid hslot with ⟨hkept, hrows⟩ |
    ⟨response, token, rows, request, rfl, rfl, hadmitted, rfl, hrows⟩
  · obtain ⟨_, hinstalled, hrowsOrigin⟩ := horigin id slot hkept
    refine ⟨after.slot_request hslot, ?_, ?_⟩
    · rw [hrows]
      exact hinstalled.imp_right fun ⟨response, token, hdelivered, hslot⟩ =>
        ⟨response, token, hdelivered.append, hslot⟩
    · rw [hrows]
      intro record_id row hrow
      exact (hrowsOrigin record_id row hrow).imp_left fun ⟨response, hdelivered, hupsert⟩ =>
        ⟨response, hdelivered.append, hupsert⟩
  · have hdelivered : DeliveredTo (edges ++ [⟨before, .SubscriptionResponse response, after⟩])
        response.subscription_id response.generation response :=
      ⟨_, List.mem_append_right _ List.mem_cons_self, rfl, rfl, rfl⟩
    refine ⟨after.slot_request hslot, .inr ⟨response, token, hdelivered, hadmitted.token, by rw [hrows]⟩, ?_⟩
    rw [hrows]
    intro record_id row hrow
    rcases hadmitted.row hrow with hupsert | ⟨previous, hprevious, _, hrow⟩
    · exact .inl ⟨response, hdelivered, hupsert⟩
    · have hgeneration := hadmitted.slot_generation hprevious
      rcases (horigin _ previous hprevious).rows record_id row hrow with
        ⟨earlier, hearlier, hupsert⟩ | ⟨earlier, hearlier, hsame, hrow⟩
      · refine .inl ⟨earlier, ?_, hupsert⟩
        exact (hgeneration ▸ hearlier).append
      · exact .inr ⟨earlier, hearlier, hsame.trans hgeneration, hrow⟩

theorem slotOrigin_of_run {first last : ClientRuntime V}
    {edges : List (Trace.Edge (ClientRuntime V) (Transition V))} (hrun : Run first edges last) :
    ∀ (id : String) slot, last.state.windows.slots[id]? = some slot → SlotOrigin first edges last id slot := by
  refine Trace.Run.lastInduction (motive := fun first edges last => ∀ (id : String) slot,
    last.state.windows.slots[id]? = some slot → SlotOrigin first edges last id slot) ?_ ?_ hrun
  · intro runtime id slot hslot
    exact ⟨runtime.slot_request hslot, .inl hslot, fun _ _ hrow => .inr ⟨slot, hslot, rfl, hrow⟩⟩
  · intro first edges middle transition last _ hstep ih id slot hslot
    exact hstep.slotOrigin ih hslot

/-- A slot disappears only together with its generation. -/
theorem Step.retired_of_removed {before after : ClientRuntime V} {transition : Transition V}
    (hstep : Step before transition after) {id : String} {slot : SubscriptionSlot}
    (hslot : before.state.windows.slots[id]? = some slot) (hremoved : after.state.windows.slots[id]? = none) :
    Retired id slot.generation after.state.windows := by
  obtain ⟨request, hrequest, _, hidentity⟩ := before.slot_request hslot
  have hmove := hstep.windows
  cases hmove with
  | kept hkept => simp [hkept, hslot] at hremoved
  | @started other _ _ hnewer hwindows =>
    rw [hwindows] at hremoved ⊢
    by_cases hid : other.command.identity.1 = id
    · subst hid
      refine ⟨fun found hfound => ?_, .inr ExtTreeMap.mem_insert_self⟩
      cases ExtTreeMap.getElem?_insert_self.symm.trans hfound
      simpa [hidentity] using hnewer request hrequest
    · simp [DurableSubscriptions.start, ExtTreeMap.getElem?_erase, hid, hslot] at hremoved
  | @cancelled other generation hnewest hwindows =>
    rw [hwindows] at hremoved ⊢
    by_cases hid : other = id
    · subst hid
      refine ⟨fun found hfound => ?_, .inl (barred_cancel before.state.windows other ?_)⟩
      · simp [DurableSubscriptions.cancel] at hfound
      · simpa [hidentity] using hnewest request hrequest
    · simp [DurableSubscriptions.cancel, ExtTreeMap.getElem?_erase, hid, hslot] at hremoved
  | @shown response token rows _ _ _ hinstalled =>
    rw [hinstalled.slots, ExtTreeMap.getElem?_insert] at hremoved
    split at hremoved
    · cases hremoved
    · rw [hslot] at hremoved
      cases hremoved

/-- While its generation lasts, a step keeps a slot or moves it forward. -/
theorem Step.slotAdvanced {before after : ClientRuntime V} {transition : Transition V}
    (hstep : Step before transition after) {id : String} {slot : SubscriptionSlot}
    (hslot : before.state.windows.slots[id]? = some slot) :
    (∃ next, after.state.windows.slots[id]? = some next ∧
      SlotAdvanced before.state.windows slot after.state.windows next) ∨
    Retired id slot.generation after.state.windows := by
  cases hnext : after.state.windows.slots[id]? with
  | none => exact .inr (hstep.retired_of_removed hslot hnext)
  | some next =>
    refine .inl ⟨next, rfl, ?_⟩
    rcases hstep.windows.slot before.is_valid hnext with ⟨hkept, hrows⟩ |
      ⟨response, token, rows, request, rfl, rfl, hadmitted, rfl, hrows⟩
    · cases hslot.symm.trans hkept
      exact ⟨rfl, CursorLe.refl _, .inl ⟨rfl, hrows⟩⟩
    · obtain ⟨hforward, hmoved⟩ := hadmitted.forward slot hslot
      refine ⟨(hadmitted.slot_generation hslot).symm, hforward.frontier, .inr ?_⟩
      exact UInt64.lt_of_le_of_ne hforward.view_revision hmoved

theorem slotAdvanced_of_run {first last : ClientRuntime V}
    {edges : List (Trace.Edge (ClientRuntime V) (Transition V))} (hrun : Run first edges last) {id : String}
    {slot : SubscriptionSlot} (hslot : first.state.windows.slots[id]? = some slot) :
    (∃ next, last.state.windows.slots[id]? = some next ∧
      SlotAdvanced first.state.windows slot last.state.windows next) ∨
    Retired id slot.generation last.state.windows := by
  refine hrun.preserves (P := fun runtime : ClientRuntime V =>
    (∃ next, runtime.state.windows.slots[id]? = some next ∧
      SlotAdvanced first.state.windows slot runtime.state.windows next) ∨
    Retired id slot.generation runtime.state.windows) ?_ (.inl ⟨slot, hslot, .refl _ _⟩)
  rintro before transition after hstep (⟨middle, hmiddle, hadvanced⟩ | hretired)
  · rcases hstep.slotAdvanced hmiddle with ⟨next, hnext, hlater⟩ | hretired
    · exact .inl ⟨next, hnext, hadvanced.trans hlater⟩
    · exact .inr (hadvanced.generation ▸ hretired)
  · exact .inr (hretired.move hstep.windows)

/-- A state in which one generation of a subscription and all older ones are
over. -/
structure Fenced (runtime : ClientRuntime V) (id : String) (generation : UInt64) : Prop where
  requests : ∀ request, runtime.state.windows.requests[id]? = some request →
    generation < request.command.identity.2
  slots : ∀ slot, runtime.state.windows.slots[id]? = some slot → generation < slot.generation
  starts : ∀ request : SubscriptionRequest, request.command.identity.1 = id →
    request.command.identity.2 ≤ generation →
    ∃ error, runtime.prepare_transition (.StartSubscription request) = .error error
  responses : ∀ response : SubscriptionResponse V, response.subscription_id = id →
    response.generation ≤ generation →
    ∃ error, runtime.prepare_transition (.SubscriptionResponse response) = .error error

theorem Retired.fenced {runtime : ClientRuntime V} {id : String} {generation : UInt64}
    (hretired : Retired id generation runtime.state.windows) : Fenced runtime id generation where
  requests := hretired.newer
  slots := fun _ hslot => hretired.slot_newer hslot
  starts := by
    rintro request rfl hold
    exact hretired.start_refused hold
  responses := by
    rintro response rfl hold
    exact hretired.response_refused hold

/-- The generations of every subscription along a run. -/
structure GenerationsHold (first : ClientRuntime V)
    (edges : List (Trace.Edge (ClientRuntime V) (Transition V))) (last : ClientRuntime V) : Prop where
  barrier : ∀ edge ∈ edges, ∀ id generation, edge.label.Cancels id generation → Fenced last id generation
  contents : ∀ (id : String) slot, last.state.windows.slots[id]? = some slot →
    SlotOrigin first edges last id slot
  forward : ∀ (id : String) slot next, first.state.windows.slots[id]? = some slot →
    last.state.windows.slots[id]? = some next → next.generation = slot.generation →
    SlotAdvanced first.state.windows slot last.state.windows next

/-- A cancellation fences its generation for the rest of the run, an installed
slot stems from responses to the current start, and a slot only moves forward
while its generation lasts. -/
theorem cancellation_is_permanent {first last : ClientRuntime V}
    {edges : List (Trace.Edge (ClientRuntime V) (Transition V))} (hrun : Run first edges last) :
    GenerationsHold first edges last where
  barrier := by
    intro edge hedge id generation hcancels
    obtain ⟨before, after, rfl⟩ := List.append_of_mem hedge
    obtain ⟨_, hstep, hrest⟩ := hrun.split_edge
    exact ((hstep.retired hcancels).run hrest).fenced
  contents := slotOrigin_of_run hrun
  forward := by
    intro id slot next hslot hnext hgeneration
    rcases slotAdvanced_of_run hrun hslot with ⟨other, hother, hadvanced⟩ | hretired
    · cases hnext.symm.trans hother
      exact hadvanced
    · have hlt := hretired.slot_newer hnext
      rw [hgeneration] at hlt
      exact absurd hlt (UInt64.lt_irrefl _)

namespace transitions

theorem cancellation_is_permanent_after_restart :
    ∃ edges last, Run opened edges last ∧ GenerationsHold opened edges last ∧
      ∃ slot, last.state.windows.slots["window"]? = some slot ∧ slot.generation = 2 ∧
        slot.view_revision = 2 := by
  have hexecute : (do
      let (edges, last) ← opened.execute [
        .StartSubscription (start "window" 1 "by_score"),
        .SubscriptionResponse (window "window" 1 (ordered_by "score" .Ascending) ⟨1, 1⟩ 1
          (.Snapshot .Initial) ["a"] [.Upsert (row "a" 1 "x" 5)]),
        .CancelSubscription "window" 1,
        .StartSubscription (start "window" 2 "by_score"),
        .SubscriptionResponse (window "window" 2 (ordered_by "score" .Ascending) ⟨1, 1⟩ 1
          (.Snapshot .Initial) ["a"] [.Upsert (row "a" 1 "x" 5)]),
        .SubscriptionResponse (window "window" 2 (ordered_by "score" .Ascending) ⟨1, 2⟩ 2 (.Delta 1) ["b"]
          [.Leave ⟨"a"⟩, .Upsert (row "b" 1 "y" 7)])]
      Except.refuse (¬ ∃ slot ∈ last.state.windows.slots["window"]?,
        slot.generation = 2 ∧ slot.view_revision = 2) ClientError.EmptyCommit) = .ok () := by
    decide +kernel
  simp only [Except.bind_eq_ok_iff, Except.refuse_eq_ok_iff, not_not] at hexecute
  obtain ⟨⟨edges, last⟩, hlast, hslot⟩ := hexecute
  have hrun := run_of_execute hlast
  exact ⟨edges, last, hrun, cancellation_is_permanent hrun, hslot⟩

end transitions

end surrealdb_sync_client
