import SurrealSync.Package.TelemetryRuns

namespace react_native_surrealdb.sync_telemetry

open Sink (Steady Accounts)
open Telemetry (Valid Balanced)

variable {self next : Telemetry} {sink other : Sink} {index : Nat}

/-! ### The calls of the telemetry -/

theorem follows_subscribe (hvalid : Valid self) (hstep : self.subscribe = some next) : Follows self next := by
  unfold Telemetry.subscribe at hstep
  split at hstep
  · cases hstep
  · split at hstep
    · cases hstep
    · cases hstep
      refine ⟨⟨?_, ?_⟩, ?_⟩
      · exact List.forall_mem_append.mpr ⟨hvalid.sinks, List.forall_mem_singleton.mpr Sink.steady_new⟩
      · simp [hvalid.retired, Telemetry.retiredTotals, Telemetry.retiredSum]
      · exact fun hbalanced => List.forall_mem_append.mpr ⟨hbalanced, List.forall_mem_singleton.mpr (.refl _)⟩

theorem follows_flush (hvalid : Valid self) (closing : Bool) (deadlineMs : Number) :
    Follows self (self.flush closing deadlineMs) := by
  unfold Telemetry.flush
  split
  · split
    · exact ⟨hvalid, id⟩
    · exact .of_same hvalid rfl rfl rfl rfl
  · exact ⟨hvalid, id⟩

theorem follows_close (hvalid : Valid self) (deadlineMs : Number) : Follows self (self.close deadlineMs) := by
  have hclosed : Follows self { self with closed := true } := .of_same hvalid rfl rfl rfl rfl
  have hflushed := follows_flush hclosed.valid true deadlineMs
  exact ⟨hflushed.valid, fun hbalanced => hflushed.balanced (hclosed.balanced hbalanced)⟩

theorem follows_poll {late : Bool} (hvalid : Valid self) (hstep : self.poll index late = some next) :
    Follows self next := by
  obtain ⟨call, _, hstep⟩ := Option.bind_eq_some_iff.mp hstep
  cases call with
  | waiting closing =>
    simp only at hstep
    split at hstep
    · split at hstep
      · cases hstep
        exact .of_same hvalid rfl rfl rfl rfl
      · cases hstep
        exact ⟨hvalid, id⟩
    · cases hstep
      exact .of_same hvalid rfl rfl rfl rfl
  | flushed closing answer => cases hstep
  | returned answer => cases hstep

/-- The loop of a `close`. -/
theorem follows_deactivate (hvalid : Valid self) (flushes : List Flush) : Follows self { self with
    flushes, sinks := self.sinks.map fun sink => if sink.kept then sink.deactivate else sink } where
  valid := {
    sinks := by
      refine List.forall_mem_map.mpr fun sink hsink => ?_
      have hsteady := hvalid.sinks sink hsink
      split
      · exact hsteady.deactivate
      · exact hsteady
    retired := by
      rw [hvalid.retired]
      simp only [Telemetry.retiredTotals, Telemetry.retiredSum, List.map_map]
      congr 3 <;>
      · funext sink
        cases hkept : sink.kept <;> simp [hkept, Sink.deactivate] }
  balanced hbalanced := by
    refine List.forall_mem_map.mpr fun sink hsink => ?_
    have hplaces := hbalanced sink hsink
    split
    · exact Sink.places_deactivate.trans hplaces
    · exact hplaces

theorem follows_resume (hvalid : Valid self) (hstep : self.resume index = some next) : Follows self next := by
  obtain ⟨call, _, hstep⟩ := Option.bind_eq_some_iff.mp hstep
  cases call with
  | waiting closing => cases hstep
  | flushed closing answer =>
    cases closing with
    | false =>
      cases hstep
      exact .of_same hvalid rfl rfl rfl rfl
    | true =>
      cases hstep
      exact follows_deactivate hvalid _
  | returned answer => cases hstep

/-! ### The recording of an event -/

/-- No event is recorded while a sink lingers: it was unsubscribed, and its timer or callback is outstanding. -/
def InTime (self : Telemetry) : Telemetry.Move → Prop
  | .record input => input.phase = none ∨ self.closed ∨ ∀ sink ∈ self.sinks, sink.kept → sink.active
  | _ => True

instance (self : Telemetry) : DecidablePred (InTime self)
  | .record input =>
    inferInstanceAs (Decidable (input.phase = none ∨ self.closed ∨ ∀ sink ∈ self.sinks, sink.kept → sink.active))
  | .subscribe | .unsubscribe _ | .run _ _ | .settle _ _ _ | .flush _ | .close _ | .poll _ _ | .resume _ =>
    .isTrue trivial

/-- What a sink becomes when an event is recorded. -/
def Sink.observe (sink : Sink) (capacity : Nat) (event : SyncTelemetryEvent) : Sink :=
  if sink.kept then (sink.expect event).record capacity event else sink.expect event

theorem record_sinks {input : Input} {phase : SyncPhase} (hphase : input.phase = some phase) (hclosed : ¬ self.closed) :
    (self.record input).sinks =
      self.sinks.map (·.observe self.capacity (reconstruct (self.sequence + 1) phase input)) := by
  rw [Telemetry.record, hphase]
  simp only [if_neg hclosed]
  rfl

theorem steady_observe {capacity sequence : Nat} {event : SyncTelemetryEvent}
    (hsteady : Steady capacity sequence sink) (hevent : event.sequence = sequence + 1) :
    Steady capacity (sequence + 1) (sink.observe capacity event) := by
  unfold Sink.observe
  split
  · exact hsteady.record hevent
  · exact hsteady.expect hevent

theorem kept_record {capacity : Nat} {event : SyncTelemetryEvent} : (sink.record capacity event).kept = sink.kept := by
  unfold Sink.record
  split
  · rfl
  · exact Sink.kept_pump

theorem counted_observe {capacity : Nat} {event : SyncTelemetryEvent} (count : Totals → Nat) :
    (if (sink.observe capacity event).kept then 0 else count (sink.observe capacity event).totals) =
      if sink.kept then 0 else count sink.totals := by
  unfold Sink.observe
  by_cases hkept : sink.kept
  · rw [if_pos hkept, if_pos hkept, kept_record]
    exact if_pos hkept
  · rw [if_neg hkept]
    rfl

theorem places_observe {capacity : Nat} {event : SyncTelemetryEvent} (hkept : sink.kept) :
    (sink.observe capacity event).places.Perm (event :: sink.places) := by
  rw [Sink.observe, if_pos hkept]
  exact Sink.places_record

theorem due_observe {capacity : Nat} {event : SyncTelemetryEvent} :
    (sink.observe capacity event).history.due =
      if sink.active then sink.history.due ++ [event] else sink.history.due := by
  unfold Sink.observe
  split
  · rw [Sink.history_record, Sink.expect]
  · rfl

theorem valid_record (hvalid : Valid self) (input : Input) : Valid (self.record input) := by
  cases hphase : input.phase with
  | none =>
    rw [Telemetry.record, hphase]
    exact hvalid
  | some phase =>
    by_cases hclosed : self.closed
    · rw [Telemetry.record, hphase]
      simpa only [if_pos hclosed] using hvalid
    · have hsinks := record_sinks hphase hclosed
      have hsum (count : Totals → Nat) : (self.record input).retiredSum count = self.retiredSum count := by
        rw [Telemetry.retiredSum, hsinks, List.map_map, Telemetry.retiredSum]
        exact congrArg List.sum (List.map_congr_left fun sink _ => counted_observe count)
      refine ⟨?_, ?_⟩
      · rw [hsinks]
        refine List.forall_mem_map.mpr fun sink hsink => ?_
        rw [Telemetry.record, hphase]
        simp only [if_neg hclosed]
        exact steady_observe (hvalid.sinks sink hsink) rfl
      · rw [Telemetry.retiredTotals, hsum, hsum, hsum, Telemetry.record, hphase]
        simp only [if_neg hclosed]
        exact hvalid.retired

theorem balanced_record (hvalid : Valid self) (hbalanced : Balanced self) {input : Input}
    (htime : InTime self (.record input)) : Balanced (self.record input) := by
  cases hphase : input.phase with
  | none =>
    rw [Telemetry.record, hphase]
    exact hbalanced
  | some phase =>
    by_cases hclosed : self.closed
    · rw [Telemetry.record, hphase]
      simpa only [if_pos hclosed] using hbalanced
    · have hactive : ∀ sink ∈ self.sinks, sink.kept → sink.active := by
        rcases htime with hnone | hgone | hactive
        · rw [hphase] at hnone
          cases hnone
        · exact absurd hgone hclosed
        · exact hactive
      rw [Telemetry.Balanced, record_sinks hphase hclosed]
      refine List.forall_mem_map.mpr fun sink hsink => ?_
      have hplaces := hbalanced sink hsink
      rw [due_observe]
      by_cases hkept : sink.kept
      · rw [if_pos (hactive sink hsink hkept)]
        exact (places_observe hkept).trans ((hplaces.cons _).trans (List.perm_append_singleton _ _).symm)
      · have hinactive := ((hvalid.sinks sink hsink).retired (by simpa using hkept)).1
        rw [hinactive, Sink.observe, if_neg hkept]
        exact hplaces

/-- An event that is recorded while a sink lingers is queued or dropped there. -/
theorem not_balanced_record (hbalanced : Balanced self) {input : Input} (htime : ¬ InTime self (.record input)) :
    ¬ Balanced (self.record input) := by
  intro hafter
  simp only [InTime, not_or, not_forall] at htime
  obtain ⟨hphase, hclosed, sink, hsink, hkept, hinactive⟩ := htime
  obtain ⟨phase, hphase⟩ := Option.ne_none_iff_exists'.mp hphase
  rw [Telemetry.Balanced, record_sinks hphase hclosed] at hafter
  have hplaces := (places_observe hkept).symm.trans (List.forall_mem_map.mp hafter sink hsink)
  rw [due_observe, if_neg hinactive] at hplaces
  have hlength := (hplaces.trans (hbalanced sink hsink).symm).length_eq
  rw [List.length_cons] at hlength
  exact absurd hlength (Nat.succ_ne_self _)

theorem valid_step {move : Telemetry.Move} (hvalid : Valid self) (hstep : Interleaving self move next) :
    Valid next ∧ (InTime self move → Balanced self → Balanced next) := by
  have hfollows (h : Follows self next) : Valid next ∧ (InTime self move → Balanced self → Balanced next) :=
    ⟨h.valid, fun _ => h.balanced⟩
  cases move with
  | subscribe =>
    cases hstep
    cases hsubscribe : self.subscribe with
    | none => exact ⟨hvalid, fun _ => id⟩
    | some subscribed => exact ⟨(follows_subscribe hvalid hsubscribe).valid, fun _ =>
        (follows_subscribe hvalid hsubscribe).balanced⟩
  | unsubscribe index => exact hfollows (follows_unsubscribe hvalid hstep)
  | record input =>
    cases hstep
    exact ⟨valid_record hvalid input, fun htime hbalanced => balanced_record hvalid hbalanced htime⟩
  | run index task => exact hfollows (follows_run hvalid hstep)
  | settle index task resolved => exact hfollows (follows_settle hvalid hstep)
  | flush deadlineMs =>
    cases hstep
    exact hfollows (follows_flush hvalid false deadlineMs)
  | close deadlineMs =>
    cases hstep
    exact hfollows (follows_close hvalid deadlineMs)
  | poll index late => exact hfollows (follows_poll hvalid hstep)
  | resume index => exact hfollows (follows_resume hvalid hstep)

/-! ### The accounts in every run -/

/-- Every sink has its account, and a snapshot tells the sums over all sinks that were ever subscribed. -/
def Conserves (self : Telemetry) : Prop :=
  (∀ sink ∈ self.sinks, Accounts self.capacity sink) ∧
    self.snapshot.totals = {
      delivered := (self.sinks.map (·.totals.delivered)).sum
      dropped := (self.sinks.map (·.totals.dropped)).sum
      errors := (self.sinks.map (·.totals.errors)).sum }

theorem conserves_iff (hvalid : Valid self) : Conserves self ↔ Balanced self := by
  have hsum (count : Totals → Nat) :
      self.retiredSum count + ((self.sinks.filter (·.kept)).map fun sink => count sink.totals).sum =
        (self.sinks.map fun sink => count sink.totals).sum := by
    rw [Nat.add_comm]
    exact sum_filter_add _ _ _
  constructor
  · intro hconserves sink hsink
    exact (hconserves.1 sink hsink).places
  · refine fun hbalanced => ⟨fun sink hsink => (hvalid.sinks sink hsink).accounts (hbalanced sink hsink), ?_⟩
    rw [Telemetry.snapshot, hvalid.retired]
    simp only [Telemetry.retiredTotals]
    rw [hsum, hsum (·.dropped), hsum (·.errors)]

theorem valid_new {capacity : Option Number} (hnew : Telemetry.new capacity = some self) :
    Valid self ∧ Balanced self := by
  unfold Telemetry.new at hnew
  split at hnew
  · split at hnew
    · cases hnew
      exact ⟨⟨by simp, rfl⟩, by simp [Telemetry.Balanced]⟩
    · cases hnew
  · cases hnew

theorem telemetry_conserves_iff {capacity : Option Number} {first last : Telemetry}
    {edges : List (Trace.Edge Telemetry Telemetry.Move)} (hnew : Telemetry.new capacity = some first)
    (hrun : Trace.Run Interleaving first edges last) :
    (∀ before rest reached, edges = before ++ rest → Trace.Run Interleaving first before reached → Conserves reached) ↔
      ∀ edge ∈ edges, InTime edge.source edge.label := by
  obtain ⟨hvalid, hbalanced⟩ := valid_new hnew
  have hvalids (before : List (Trace.Edge Telemetry Telemetry.Move)) (reached : Telemetry)
      (hbefore : Trace.Run Interleaving first before reached) : Valid reached :=
    Trace.Run.preserves (P := Valid) (fun _ _ _ hstep hsource => (valid_step hsource hstep).1) hbefore hvalid
  constructor
  · intro hconserves edge hedge
    obtain ⟨before, rest, rfl⟩ := List.append_of_mem hedge
    obtain ⟨hbefore, hstep, _⟩ := hrun.split_edge
    have hsource := hvalids _ _ hbefore
    have hthrough : Trace.Run Interleaving first (before ++ [edge]) edge.target :=
      hbefore.append (.cons hstep (.nil _))
    have hfrom := (conserves_iff hsource).mp (hconserves before (edge :: rest) edge.source rfl hbefore)
    have hto := (conserves_iff (valid_step hsource hstep).1).mp
      (hconserves (before ++ [edge]) rest edge.target (by simp) hthrough)
    obtain ⟨source, label, target⟩ := edge
    cases label with
    | record input =>
      by_contra htime
      obtain rfl : source.record input = target := Option.some.inj hstep
      exact not_balanced_record hfrom htime hto
    | _ => trivial
  · rintro htime before rest reached rfl hbefore
    have hreached : Valid reached ∧ Balanced reached := by
      refine Trace.Run.preserves_along (P := fun telemetry => Valid telemetry ∧ Balanced telemetry) hbefore
        (fun edge hedge hsource => ?_) ⟨hvalid, hbalanced⟩
      obtain ⟨hnext, hkeeps⟩ := valid_step hsource.1 (hbefore.step_of_mem hedge)
      exact ⟨hnext, hkeeps (htime edge (List.mem_append_left _ hedge)) hsource.2⟩
    exact (conserves_iff hreached.1).mpr hreached.2

def input : Input where
  span := .finite 1
  phase := some .transport
  boundary := some .state
  origin := some .client
  atMs := .finite 2

/-- An exporter is told one event and refuses the next, and the third is still queued when it is unsubscribed. -/
theorem telemetry_conserves_settled : ∃ first edges last, Telemetry.new none = some first ∧
    Trace.Run Interleaving first edges last ∧ last.snapshot.exporters = 0 ∧ last.snapshot.totals = ⟨1, 1, 1⟩ ∧
      Conserves last := by
  obtain ⟨first, hnew, ⟨edges, last⟩, hexecute, htime, hexporters, htotals⟩ : ∃ first, Telemetry.new none = some first ∧
      ∃ executed, Trace.execute Telemetry.step first
        [.subscribe, .record input, .run 0 0, .run 0 0, .settle 0 0 true, .run 0 0, .record input, .run 0 0, .run 0 0,
          .settle 0 0 false, .run 0 0, .record input, .unsubscribe 0, .run 0 0] = some executed ∧
        (∀ edge ∈ executed.1, InTime edge.source edge.label) ∧ executed.2.snapshot.exporters = 0 ∧
          executed.2.snapshot.totals = ⟨1, 1, 1⟩ :=
    ⟨{ capacity := 64 }, by decide +kernel, Trace.exists_of_any (by decide +kernel)⟩
  have hrun := Trace.run_of_execute hexecute
  have hconserves := (telemetry_conserves_iff hnew hrun).mpr htime edges [] last (List.append_nil _).symm hrun
  exact ⟨first, edges, last, hnew, hrun, hexporters, htotals, hconserves⟩

/-- An event that is recorded after an exporter was unsubscribed, while its callback is outstanding, is queued for it. -/
theorem telemetry_queues_after_unsubscribe : ∃ first edges last, Telemetry.new none = some first ∧
    Trace.Run Interleaving first edges last ∧ (∀ sink ∈ last.sinks, sink.active = false) ∧ last.snapshot.queued = 1 ∧
      ¬ Conserves last := by
  obtain ⟨first, hnew, ⟨edges, last⟩, hexecute, hinactive, hqueued, sink, hsink, hlength⟩ :
      ∃ first, Telemetry.new none = some first ∧ ∃ executed, Trace.execute Telemetry.step first
        [.subscribe, .record input, .run 0 0, .run 0 0, .unsubscribe 0, .record input] = some executed ∧
        (∀ sink ∈ executed.2.sinks, sink.active = false) ∧ executed.2.snapshot.queued = 1 ∧
          ∃ sink ∈ executed.2.sinks, sink.places.length ≠ sink.history.due.length :=
    ⟨{ capacity := 64 }, by decide +kernel, Trace.exists_of_any (by decide +kernel)⟩
  refine ⟨first, edges, last, hnew, Trace.run_of_execute hexecute, hinactive, hqueued, fun hconserves => ?_⟩
  exact hlength (hconserves.1 sink hsink).places.length_eq

end react_native_surrealdb.sync_telemetry
