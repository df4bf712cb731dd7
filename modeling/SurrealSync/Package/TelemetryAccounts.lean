import SurrealSync.Package.Telemetry

namespace react_native_surrealdb.sync_telemetry

variable {sink : Sink} {capacity sequence : Nat} {event : SyncTelemetryEvent} {task : Task}

def Before (first second : SyncTelemetryEvent) : Prop := first.sequence < second.sequence

def Task.unsettled : Task → Bool
  | .sending _ => true
  | .timer | .send _ | .settled => false

/-- The event that the exporter is about to be called with. -/
def Task.unsent : Task → List SyncTelemetryEvent
  | .send event => event.toList
  | .timer | .sending _ | .settled => []

/-- A timer finds an event in the queue of an active sink, and a callback has one. -/
def Task.Ready (sink : Sink) : Task → Prop
  | .timer => sink.active → sink.queue ≠ []
  | .send event | .sending event => event.isSome
  | .settled => True

namespace Sink

/-- The event that was taken from the queue and whose callback has not settled. -/
def executing (sink : Sink) : List SyncTelemetryEvent := sink.tasks.flatMap fun task => task.event.toList

/-- The five places of an event. -/
def places (sink : Sink) : List SyncTelemetryEvent :=
  sink.history.delivered ++ sink.history.errors ++ sink.history.dropped ++ sink.queue ++ sink.executing

/-- The account of a sink: its counters count events, each event that was recorded while it was subscribed is in exactly
one place and no other event is, and its exporter is called one event at a time, in order. -/
structure Accounts (capacity : Nat) (sink : Sink) : Prop where
  delivered : sink.totals.delivered = sink.history.delivered.length
  errors : sink.totals.errors = sink.history.errors.length
  dropped : sink.totals.dropped = sink.history.dropped.length
  places : sink.places.Perm sink.history.due
  distinct : sink.history.due.Pairwise Before
  called : ∃ called : List SyncTelemetryEvent, sink.history.called = called.map some ∧ called.Pairwise Before
  unsettled : sink.tasks.countP Task.unsettled ≤ 1
  bound : sink.queue.length ≤ capacity

/-- Events in the order of their recording, up to a sequence. -/
def Ordered (sequence : Nat) (events : List SyncTelemetryEvent) : Prop :=
  events.Pairwise Before ∧ ∀ event ∈ events, event.sequence ≤ sequence

/-- What holds of a sink whether or not it lingers after its `unsubscribe`. -/
structure Steady (capacity sequence : Nat) (sink : Sink) : Prop where
  delivered : sink.totals.delivered = sink.history.delivered.length
  errors : sink.totals.errors = sink.history.errors.length
  dropped : sink.totals.dropped = sink.history.dropped.length
  tasks : sink.tasks = [] ∧ sink.busy = false ∨ ∃ task, sink.tasks = [task] ∧ sink.busy = true ∧ task.Ready sink
  retired : sink.kept = false → sink.active = false ∧ sink.tasks = []
  due : Ordered sequence sink.history.due
  line : ∃ called : List SyncTelemetryEvent, sink.history.called = called.map some ∧
    Ordered sequence (called ++ sink.tasks.flatMap Task.unsent ++ sink.queue)
  bound : sink.queue.length ≤ capacity

theorem Ordered.push {events : List SyncTelemetryEvent} (hordered : Ordered sequence events)
    (hevent : event.sequence = sequence + 1) : Ordered (sequence + 1) (events ++ [event]) := by
  obtain ⟨hpairwise, hbound⟩ := hordered
  refine ⟨List.pairwise_append.mpr ⟨hpairwise, List.pairwise_singleton _ _, ?_⟩, ?_⟩
  · intro first hfirst second hsecond
    have hle := hbound first hfirst
    rw [List.mem_singleton.mp hsecond, Before]
    omega
  · intro other hother
    rcases List.mem_append.mp hother with hmem | hmem
    · have hle := hbound other hmem
      omega
    · rw [List.mem_singleton.mp hmem, hevent]

theorem Ordered.mono {events : List SyncTelemetryEvent} (hordered : Ordered sequence events) :
    Ordered (sequence + 1) events :=
  ⟨hordered.1, fun event hevent => Nat.le_succ_of_le (hordered.2 event hevent)⟩

theorem Ordered.sublist {events fewer : List SyncTelemetryEvent} (hordered : Ordered sequence events)
    (hfewer : fewer.Sublist events) : Ordered sequence fewer :=
  ⟨hordered.1.sublist hfewer, fun event hevent => hordered.2 event (hfewer.subset hevent)⟩

theorem steady_new : Steady capacity sequence {} where
  delivered := rfl
  errors := rfl
  dropped := rfl
  tasks := .inl ⟨rfl, rfl⟩
  retired hkept := by cases hkept
  due := ⟨.nil, by simp⟩
  line := ⟨[], rfl, .nil, by simp⟩
  bound := Nat.zero_le _

/-! ### The steps of a sink -/

theorem Steady.pump (hsteady : Steady capacity sequence sink) : Steady capacity sequence sink.pump := by
  unfold Sink.pump
  split
  · exact hsteady
  · rename_i hpumps
    obtain ⟨hbusy, hactive, hqueue⟩ : sink.busy = false ∧ sink.active = true ∧ sink.queue ≠ [] := by simpa using hpumps
    have htasks : sink.tasks = [] := by
      rcases hsteady.tasks with ⟨hnone, _⟩ | ⟨_, _, hsome, _⟩
      · exact hnone
      · rw [hbusy] at hsome
        cases hsome
    refine { hsteady with tasks := .inr ⟨.timer, ?_, rfl, fun _ => hqueue⟩, retired := fun hkept => ?_, line := ?_ }
    · rw [htasks, List.nil_append]
    · obtain ⟨hinactive, _⟩ := hsteady.retired hkept
      rw [hactive] at hinactive
      cases hinactive
    · simpa [Task.unsent, List.flatMap_append] using hsteady.line

theorem Steady.mono (hsteady : Steady capacity sequence sink) : Steady capacity (sequence + 1) sink where
  __ := hsteady
  due := hsteady.due.mono
  line := by
    obtain ⟨called, hcalled, hordered⟩ := hsteady.line
    exact ⟨called, hcalled, hordered.mono⟩

theorem Steady.expect (hsteady : Steady capacity sequence sink) (hevent : event.sequence = sequence + 1) :
    Steady capacity (sequence + 1) (sink.expect event) where
  __ := hsteady.mono
  due := by
    unfold Sink.expect
    split
    · exact hsteady.due.push hevent
    · exact hsteady.due.mono

theorem Steady.record (hsteady : Steady capacity sequence sink) (hevent : event.sequence = sequence + 1) :
    Steady capacity (sequence + 1) ((sink.expect event).record capacity event) := by
  have hexpects := hsteady.expect hevent
  unfold Sink.record
  split
  · refine { hexpects with dropped := ?_ }
    rw [List.length_append]
    exact congrArg (· + 1) hexpects.dropped
  · rename_i hroom
    refine pump { hexpects with tasks := ?_, line := ?_, bound := ?_ }
    · rcases hsteady.tasks with hnone | ⟨task, htask, hbusy, hready⟩
      · exact .inl hnone
      · refine .inr ⟨task, htask, hbusy, ?_⟩
        cases task with
        | timer => exact fun _ => by simp
        | send event => exact hready
        | sending event => exact hready
        | settled => trivial
    · obtain ⟨called, hcalled, hordered⟩ := hsteady.line
      refine ⟨called, hcalled, ?_⟩
      rw [← List.append_assoc]
      exact hordered.push hevent
    · rw [List.length_append]
      exact Nat.lt_of_not_le hroom

theorem Steady.deactivate (hsteady : Steady capacity sequence sink) : Steady capacity sequence sink.deactivate where
  __ := hsteady
  dropped := by
    rw [Sink.deactivate, List.length_append, hsteady.dropped]
  tasks := by
    rcases hsteady.tasks with hnone | ⟨task, htask, hbusy, hready⟩
    · exact .inl hnone
    · refine .inr ⟨task, htask, hbusy, ?_⟩
      cases task with
      | timer => exact fun hactive => by cases hactive
      | send event => exact hready
      | sending event => exact hready
      | settled => trivial
  retired hkept := ⟨rfl, (hsteady.retired hkept).2⟩
  line := by
    obtain ⟨called, hcalled, hordered⟩ := hsteady.line
    refine ⟨called, hcalled, hordered.sublist ?_⟩
    simp [Sink.deactivate]
  bound := Nat.zero_le _

/-- A task that runs is the only one of its sink. -/
theorem Steady.running (hsteady : Steady capacity sequence sink) {index : Nat} (htask : sink.tasks[index]? = some task) :
    sink.tasks = [task] ∧ sink.tasks.eraseIdx index = [] ∧ sink.kept ∧ sink.busy ∧ task.Ready sink := by
  rcases hsteady.tasks with ⟨hnone, _⟩ | ⟨only, honly, hbusy, hready⟩
  · rw [hnone] at htask
    cases htask
  · rw [honly] at htask
    obtain ⟨hindex, heq⟩ := List.getElem?_eq_some_iff.mp htask
    obtain rfl : index = 0 := by simpa using hindex
    obtain rfl : only = task := heq
    refine ⟨honly, by rw [honly]; rfl, ?_, hbusy, hready⟩
    by_contra hkept
    rw [(hsteady.retired (by simpa using hkept)).2] at honly
    cases honly

theorem Steady.rest (hsteady : Steady capacity sequence sink) (htasks : sink.tasks = [task])
    (hunsent : task.unsent = []) : Steady capacity sequence { sink with busy := false, tasks := [] } where
  __ := hsteady
  tasks := .inl ⟨rfl, rfl⟩
  retired hkept := ⟨(hsteady.retired hkept).1, rfl⟩
  line := by
    obtain ⟨called, hcalled, hordered⟩ := hsteady.line
    rw [htasks] at hordered
    refine ⟨called, hcalled, ?_⟩
    simpa [hunsent] using hordered

theorem Steady.retire (hsteady : Steady capacity sequence sink) (hinactive : sink.active = false)
    (htasks : sink.tasks = []) : Steady capacity sequence { sink with kept := false } where
  __ := hsteady
  retired _ := ⟨hinactive, htasks⟩

theorem Steady.take (hsteady : Steady capacity sequence sink) (htasks : sink.tasks = [.timer]) (hkept : sink.kept)
    (hbusy : sink.busy) (hqueue : sink.queue ≠ []) :
    Steady capacity sequence { sink with queue := sink.queue.tail, tasks := [.send sink.queue.head?] } where
  __ := hsteady
  tasks := .inr ⟨_, rfl, hbusy, by simpa [Task.Ready] using hqueue⟩
  retired hgone := by
    rw [hkept] at hgone
    cases hgone
  line := by
    obtain ⟨called, hcalled, hordered⟩ := hsteady.line
    obtain ⟨first, rest, hfirst⟩ := List.exists_cons_of_ne_nil hqueue
    rw [htasks, hfirst] at hordered
    refine ⟨called, hcalled, ?_⟩
    simpa [hfirst, Task.unsent] using hordered
  bound := by
    have hbound := hsteady.bound
    rw [List.length_tail]
    omega

theorem Steady.send (hsteady : Steady capacity sequence sink) {found : Option SyncTelemetryEvent}
    (htasks : sink.tasks = [.send found]) (hkept : sink.kept) (hbusy : sink.busy) (hready : found.isSome) :
    Steady capacity sequence { sink with
      tasks := [.sending found], history := { sink.history with called := sink.history.called ++ [found] } } where
  __ := hsteady
  tasks := .inr ⟨_, rfl, hbusy, hready⟩
  retired hgone := by
    rw [hkept] at hgone
    cases hgone
  line := by
    obtain ⟨called, hcalled, hordered⟩ := hsteady.line
    obtain ⟨event, rfl⟩ := Option.isSome_iff_exists.mp hready
    rw [htasks] at hordered
    refine ⟨called ++ [event], by simp [hcalled], ?_⟩
    simpa [Task.unsent] using hordered

theorem Steady.settle (hsteady : Steady capacity sequence sink) {found : Option SyncTelemetryEvent}
    (htasks : sink.tasks = [.sending found]) (hkept : sink.kept) (hbusy : sink.busy) (hready : found.isSome)
    (resolved : Bool) : Steady capacity sequence { sink.settle found resolved with tasks := [.settled] } := by
  obtain ⟨event, rfl⟩ := Option.isSome_iff_exists.mp hready
  have hline := hsteady.line
  rw [htasks] at hline
  have hgone : sink.kept = false → sink.active = false ∧ [Task.settled] = [] := fun hgone => by
    rw [hkept] at hgone
    cases hgone
  cases resolved with
  | true => exact {
      hsteady with
      delivered := by simp [Sink.settle, hsteady.delivered]
      tasks := .inr ⟨_, rfl, hbusy, trivial⟩
      retired := hgone
      line := hline }
  | false => exact {
      hsteady with
      errors := by simp [Sink.settle, hsteady.errors]
      tasks := .inr ⟨_, rfl, hbusy, trivial⟩
      retired := hgone
      line := hline }

/-! ### The places of the events -/

theorem places_pump : sink.pump.places = sink.places ∧ sink.pump.history = sink.history := by
  unfold Sink.pump
  split
  · exact ⟨rfl, rfl⟩
  · simp [places, executing, Task.event]

theorem kept_pump : sink.pump.kept = sink.kept := by
  unfold Sink.pump
  split <;> rfl

theorem places_record : (sink.record capacity event).places.Perm (event :: sink.places) := by
  refine List.perm_iff_count.mpr fun other => ?_
  unfold Sink.record
  split
  · simp only [places, executing, List.count_append, List.count_cons, List.count_nil]
    omega
  · rw [places_pump.1]
    simp only [places, executing, List.count_append, List.count_cons, List.count_nil]
    omega

theorem history_record : (sink.record capacity event).history.due = sink.history.due := by
  unfold Sink.record
  split
  · rfl
  · rw [places_pump.2]

theorem places_deactivate : sink.deactivate.places.Perm sink.places := by
  refine List.perm_iff_count.mpr fun other => ?_
  simp only [Sink.deactivate, places, executing, List.count_append, List.count_nil]
  omega

theorem places_take (htasks : sink.tasks = [.timer]) (hqueue : sink.queue ≠ []) :
    Sink.places { sink with queue := sink.queue.tail, tasks := [.send sink.queue.head?] } |>.Perm sink.places := by
  obtain ⟨first, rest, hfirst⟩ := List.exists_cons_of_ne_nil hqueue
  refine List.perm_iff_count.mpr fun other => ?_
  simp [places, executing, htasks, hfirst, Task.event, List.count_append, List.count_cons]

theorem places_settle {found : Option SyncTelemetryEvent} (htasks : sink.tasks = [.sending found]) (resolved : Bool) :
    Sink.places { sink.settle found resolved with tasks := [.settled] } |>.Perm sink.places := by
  refine List.perm_iff_count.mpr fun other => ?_
  cases resolved <;> simp [places, executing, Sink.settle, htasks, Task.event, List.count_append] <;> omega

theorem history_settle {found : Option SyncTelemetryEvent} (resolved : Bool) :
    (sink.settle found resolved).history.due = sink.history.due := by
  cases resolved <;> rfl

theorem Steady.accounts (hsteady : Steady capacity sequence sink) (hplaces : sink.places.Perm sink.history.due) :
    Accounts capacity sink where
  delivered := hsteady.delivered
  errors := hsteady.errors
  dropped := hsteady.dropped
  places := hplaces
  distinct := hsteady.due.1
  called := by
    obtain ⟨called, hcalled, hordered⟩ := hsteady.line
    exact ⟨called, hcalled, (List.pairwise_append.mp (List.pairwise_append.mp hordered.1).1).1⟩
  unsettled := by
    rcases hsteady.tasks with ⟨hnone, _⟩ | ⟨task, htask, _⟩
    · simp [hnone]
    · rw [htask]
      exact List.countP_le_length
  bound := hsteady.bound

end Sink

end react_native_surrealdb.sync_telemetry
