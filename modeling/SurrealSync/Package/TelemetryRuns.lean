import SurrealSync.Package.TelemetryAccounts

namespace react_native_surrealdb.sync_telemetry

open Sink (Steady Accounts)

variable {self next : Telemetry} {sink other : Sink} {index : Nat}

/-! ### Sums over sinks -/

theorem sum_map_set {α : Type} {values : List α} {value replacement : α} {added : Nat} (f : α → Nat)
    (hvalue : values[index]? = some value) (hf : f replacement = f value + added) :
    ((values.set index replacement).map f).sum = (values.map f).sum + added := by
  induction values generalizing index with
  | nil => cases hvalue
  | cons head values ih =>
    cases index with
    | zero =>
      obtain rfl : head = value := by simpa using hvalue
      simp only [List.set_cons_zero, List.map_cons, List.sum_cons, hf]
      omega
    | succ index =>
      have hrest := ih (by simpa using hvalue)
      simp only [List.set_cons_succ, List.map_cons, List.sum_cons, hrest]
      omega

theorem sum_filter_add {α : Type} (values : List α) (p : α → Bool) (f : α → Nat) :
    ((values.filter p).map f).sum + (values.map fun value => if p value then 0 else f value).sum =
      (values.map f).sum := by
  induction values with
  | nil => rfl
  | cons head values ih =>
    cases hp : p head <;> simp only [List.filter_cons, hp, List.map_cons, List.sum_cons, if_true] <;> simp <;> omega

namespace Telemetry

/-- What the sinks that are not in `#sinks` have counted. -/
def retiredSum (self : Telemetry) (count : Totals → Nat) : Nat :=
  (self.sinks.map fun sink => if sink.kept then 0 else count sink.totals).sum

def retiredTotals (self : Telemetry) : Totals where
  delivered := self.retiredSum (·.delivered)
  dropped := self.retiredSum (·.dropped)
  errors := self.retiredSum (·.errors)

/-- What holds of every telemetry that is reached. -/
structure Valid (telemetry : Telemetry) : Prop where
  sinks : ∀ sink ∈ telemetry.sinks, Steady telemetry.capacity telemetry.sequence sink
  retired : telemetry.retired = telemetry.retiredTotals

/-- Every sink has the events that were recorded while it was subscribed, and no others. -/
def Balanced (self : Telemetry) : Prop := ∀ sink ∈ self.sinks, sink.places.Perm sink.history.due

end Telemetry

open Telemetry (Valid Balanced)

/-! ### Steps that record no event -/

structure Follows (source target : Telemetry) : Prop where
  valid : Valid target
  balanced : Balanced source → Balanced target

theorem Follows.of_same (hvalid : Valid self) (hsinks : next.sinks = self.sinks) (hcapacity : next.capacity = self.capacity)
    (hsequence : next.sequence = self.sequence) (hretired : next.retired = self.retired) : Follows self next where
  valid := {
    sinks := by
      rw [hsinks, hcapacity, hsequence]
      exact hvalid.sinks
    retired := by
      simp only [hretired, hvalid.retired, Telemetry.retiredTotals, Telemetry.retiredSum, hsinks] }
  balanced hbalanced := by
    rw [Telemetry.Balanced, hsinks]
    exact hbalanced

/-- What a sink becomes when no event is recorded: its events stay in its places. -/
structure Goes (before after : Sink) : Prop where
  kept : after.kept = before.kept
  totals : before.kept = false → after.totals = before.totals
  places : after.places.Perm before.places
  due : after.history.due = before.history.due

theorem Goes.balanced (hgoes : Goes sink other) (hbalanced : sink.places.Perm sink.history.due) :
    other.places.Perm other.history.due := by
  rw [hgoes.due]
  exact hgoes.places.trans hbalanced

theorem balanced_set {sinks : List Sink} (hsink : sinks[index]? = some sink)
    (hbalanced : ∀ sink ∈ sinks, sink.places.Perm sink.history.due)
    (hother : sink.places.Perm sink.history.due → other.places.Perm other.history.due) :
    ∀ sink ∈ sinks.set index other, sink.places.Perm sink.history.due := by
  intro found hfound
  rcases List.mem_or_eq_of_mem_set hfound with hmem | rfl
  · exact hbalanced found hmem
  · exact hother (hbalanced sink (List.mem_of_getElem? hsink))

theorem steady_set {capacity sequence : Nat} {sinks : List Sink}
    (hsteady : ∀ sink ∈ sinks, Steady capacity sequence sink) (hother : Steady capacity sequence other) :
    ∀ sink ∈ sinks.set index other, Steady capacity sequence sink := by
  intro found hfound
  rcases List.mem_or_eq_of_mem_set hfound with hmem | rfl
  · exact hsteady found hmem
  · exact hother

theorem follows_update (hvalid : Valid self) (hsink : self.sinks[index]? = some sink) (hgoes : Goes sink other)
    (hsteady : Steady self.capacity self.sequence other) : Follows self (self.update index other) where
  valid := {
    sinks := steady_set hvalid.sinks hsteady
    retired := by
      have hsame (count : Totals → Nat) : (self.update index other).retiredSum count = self.retiredSum count := by
        have hcounted : (if other.kept then 0 else count other.totals) =
            (if sink.kept then 0 else count sink.totals) + 0 := by
          rw [hgoes.kept]
          split
          · rfl
          · rename_i hkept
            rw [hgoes.totals (by simpa using hkept)]
            rfl
        exact sum_map_set (fun sink => if sink.kept then 0 else count sink.totals) hsink hcounted
      rw [Telemetry.retiredTotals, hsame, hsame, hsame]
      exact hvalid.retired }
  balanced hbalanced := balanced_set hsink hbalanced hgoes.balanced

theorem follows_retire (hvalid : Valid self) (hsink : self.sinks[index]? = some sink) (hgoes : Goes sink other)
    (hsteady : Steady self.capacity self.sequence other) (hinactive : other.active = false) (htasks : other.tasks = []) :
    Follows self (self.retire index other) := by
  unfold Telemetry.retire
  split
  · rename_i hkept
    rw [hgoes.kept] at hkept
    refine ⟨⟨steady_set hvalid.sinks (hsteady.retire hinactive htasks), ?_⟩, fun hbalanced =>
      balanced_set hsink hbalanced hgoes.balanced⟩
    have hsum (count : Totals → Nat) :
        ((self.sinks.set index { other with kept := false }).map
          fun sink => if sink.kept then 0 else count sink.totals).sum =
            self.retiredSum count + count other.totals :=
      sum_map_set _ hsink (by simp [hkept])
    simp only [Telemetry.retiredTotals, Telemetry.retiredSum] at hsum ⊢
    rw [hsum, hsum, hsum, hvalid.retired]
    rfl
  · exact follows_update hvalid hsink hgoes hsteady

theorem goes_deactivate (hsteady : Steady self.capacity self.sequence sink) (hactive : sink.active) :
    Goes sink sink.deactivate where
  kept := rfl
  totals hkept := by
    rw [(hsteady.retired hkept).1] at hactive
    cases hactive
  places := Sink.places_deactivate
  due := rfl

theorem follows_unsubscribe (hvalid : Valid self) (hstep : self.unsubscribe index = some next) : Follows self next := by
  obtain ⟨sink, hsink, hstep⟩ := Option.bind_eq_some_iff.mp hstep
  have hsteady := hvalid.sinks sink (List.mem_of_getElem? hsink)
  split at hstep
  · cases hstep
    exact ⟨hvalid, id⟩
  · rename_i hactive
    have hgoes := goes_deactivate hsteady (by simpa using hactive)
    split at hstep
    · cases hstep
      exact follows_update hvalid hsink hgoes hsteady.deactivate
    · rename_i hbusy
      cases hstep
      refine follows_retire hvalid hsink hgoes hsteady.deactivate rfl ?_
      rcases hsteady.tasks with ⟨hnone, _⟩ | ⟨_, _, hsome, _⟩
      · exact hnone
      · exact absurd hsome hbusy

theorem goes_of_kept (hkept : sink.kept) (hsame : other.kept = sink.kept) (hplaces : other.places.Perm sink.places)
    (hdue : other.history.due = sink.history.due) : Goes sink other where
  kept := hsame
  totals hgone := by
    rw [hkept] at hgone
    cases hgone
  places := hplaces
  due := hdue

theorem follows_run {task : Nat} (hvalid : Valid self) (hstep : self.run index task = some next) :
    Follows self next := by
  obtain ⟨sink, hsink, hstep⟩ := Option.bind_eq_some_iff.mp hstep
  obtain ⟨running, htask, hstep⟩ := Option.bind_eq_some_iff.mp hstep
  have hsteady := hvalid.sinks sink (List.mem_of_getElem? hsink)
  obtain ⟨htasks, hrest, hkept, hbusy, hready⟩ := hsteady.running htask
  rw [hrest] at hstep
  cases running with
  | timer =>
    simp only at hstep
    have hresting := hsteady.rest htasks rfl
    split at hstep
    · rename_i hinactive
      cases hstep
      refine follows_retire hvalid hsink (goes_of_kept hkept rfl ?_ rfl) hresting (by simpa using hinactive) rfl
      simp [Sink.places, Sink.executing, htasks, Task.event]
    · rename_i hactive
      have hqueue := hready (by simpa using hactive)
      cases hstep
      exact follows_update hvalid hsink (goes_of_kept hkept rfl (Sink.places_take htasks hqueue) rfl)
        (hsteady.take htasks hkept hbusy hqueue)
  | send found =>
    cases hstep
    refine follows_update hvalid hsink (goes_of_kept hkept rfl ?_ rfl) (hsteady.send htasks hkept hbusy hready)
    simp [Sink.places, Sink.executing, htasks, Task.event]
  | sending found => cases hstep
  | settled =>
    simp only at hstep
    have hresting := hsteady.rest htasks rfl
    have hplaces : Sink.places { sink with busy := false, tasks := [] } = sink.places := by
      simp [Sink.places, Sink.executing, htasks, Task.event]
    split at hstep
    · cases hstep
      refine follows_update hvalid hsink (goes_of_kept hkept ?_ ?_ ?_) hresting.pump
      · rw [Sink.kept_pump]
      · rw [Sink.places_pump.1, hplaces]
      · rw [Sink.places_pump.2]
    · rename_i hinactive
      cases hstep
      exact follows_retire hvalid hsink (goes_of_kept hkept rfl (.of_eq hplaces) rfl) hresting (by simpa using hinactive)
        rfl

theorem follows_settle {task : Nat} {resolved : Bool} (hvalid : Valid self)
    (hstep : self.settle index task resolved = some next) : Follows self next := by
  obtain ⟨sink, hsink, hstep⟩ := Option.bind_eq_some_iff.mp hstep
  obtain ⟨running, htask, hstep⟩ := Option.bind_eq_some_iff.mp hstep
  have hsteady := hvalid.sinks sink (List.mem_of_getElem? hsink)
  obtain ⟨htasks, _, hkept, hbusy, hready⟩ := hsteady.running htask
  cases running with
  | timer => cases hstep
  | send found => cases hstep
  | sending found =>
    have hset : sink.tasks.set task .settled = [.settled] := by
      rw [htasks] at htask ⊢
      obtain ⟨hindex, _⟩ := List.getElem?_eq_some_iff.mp htask
      obtain rfl : task = 0 := by simpa using hindex
      rfl
    simp only [hset] at hstep
    cases hstep
    refine follows_update hvalid hsink (goes_of_kept hkept ?_ (Sink.places_settle htasks resolved) ?_)
      (hsteady.settle htasks hkept hbusy hready resolved)
    · cases resolved <;> rfl
    · exact Sink.history_settle resolved
  | settled => cases hstep

end react_native_surrealdb.sync_telemetry
