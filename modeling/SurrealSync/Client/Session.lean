import SurrealSync.Client.Effect
import SurrealSync.Client.Read
import SurrealSync.Client.Renaming

open Std
open surrealdb_sync_protocol surrealdb_sync_protocol.subscription

namespace surrealdb_sync_client

variable {V : Type} [DecidableEq V]

/-- A prepared transition in the application's hands. Only `prepared` exists in
the source; the other fields record where it came from. -/
structure Held (V : Type) [DecidableEq V] where
  origin : ClientRuntime V
  transition : Transition V
  prepared : PreparedTransition V
  prepared_from : origin.prepare_transition transition = .ok prepared

/-- One runtime, and the prepared transitions still held against it. -/
structure Session (V : Type) [DecidableEq V] where
  runtime : ClientRuntime V
  held : List (Held V)

/-- What an application can do with a runtime and its prepared transitions. -/
inductive Call (V : Type) where
  | Prepare (transition : Transition V)
  | Clone (index : Nat)
  | Drop (index : Nat)
  | Install (index : Nat)
  | InstallWithReadBatch (index : Nat)
deriving DecidableEq

/-- The held transition a call installs and the runtime it leaves, if the call
is an install and succeeds. -/
def Session.installed (session : Session V) : Call V → Option (Held V × ClientRuntime V)
  | .Prepare _ => none
  | .Clone _ => none
  | .Drop _ => none
  | .Install index => do
    let held ← session.held[index]?
    let runtime ← (session.runtime.install held.prepared).toOption
    some (held, runtime)
  | .InstallWithReadBatch index => do
    let held ← session.held[index]?
    let (_, runtime) ← (session.runtime.install_with_read_batch held.prepared).toOption
    some (held, runtime)

/-- One call. Both installs consume the prepared transition, also when they
refuse it. -/
def Session.call (session : Session V) (call : Call V) : Session V :=
  let runtime := (session.installed call).elim session.runtime Prod.snd
  match call with
  | .Prepare transition =>
    match hprepare : session.runtime.prepare_transition transition with
    | .ok prepared =>
      { session with held := session.held ++ [⟨session.runtime, transition, prepared, hprepare⟩] }
    | .error _ => session
  | .Clone index => { session with held := session.held ++ session.held[index]?.toList }
  | .Drop index => { session with held := session.held.eraseIdx index }
  | .Install index => { runtime, held := session.held.eraseIdx index }
  | .InstallWithReadBatch index => { runtime, held := session.held.eraseIdx index }

/-- An interleaving of calls. -/
abbrev Session.Run (first : Session V) (edges : List (Trace.Edge (Session V) (Call V)))
    (last : Session V) : Prop :=
  Trace.Run (fun session call next => next = session.call call) first edges last

theorem Session.call_runtime (session : Session V) (call : Call V) :
    (session.call call).runtime = (session.installed call).elim session.runtime Prod.snd := by
  cases call with
  | Prepare transition =>
    simp only [Session.call]
    split
    · rfl
    · rfl
  | Clone index => rfl
  | Drop index => rfl
  | Install index => rfl
  | InstallWithReadBatch index => rfl

/-- After a call, the application holds what it held before or what it has just
prepared. -/
theorem Session.mem_held_call {session : Session V} {call : Call V} {held : Held V}
    (hmem : held ∈ (session.call call).held) : held ∈ session.held ∨ held.origin = session.runtime := by
  cases call with
  | Prepare transition =>
    simp only [Session.call] at hmem
    split at hmem
    · rcases List.mem_append.mp hmem with hmem | hmem
      · exact .inl hmem
      · rw [List.mem_singleton.mp hmem]
        exact .inr rfl
    · exact .inl hmem
  | Clone index =>
    rcases List.mem_append.mp hmem with hmem | hmem
    · exact .inl hmem
    · exact .inl (List.mem_of_getElem? (Option.mem_toList.mp hmem))
  | Drop index => exact .inl (List.mem_of_mem_eraseIdx hmem)
  | Install index => exact .inl (List.mem_of_mem_eraseIdx hmem)
  | InstallWithReadBatch index => exact .inl (List.mem_of_mem_eraseIdx hmem)

theorem ClientRuntime.install_with_read_batch_eq_ok_iff {self installed : ClientRuntime V}
    {prepared : PreparedTransition V} {batch : Option (CommittedReadBatchV1 V)} :
    self.install_with_read_batch prepared = .ok (batch, installed) ↔
      self.install prepared = .ok installed ∧ batch = committed_batch self.state installed.state := by
  unfold ClientRuntime.install_with_read_batch ClientRuntime.install
  simp only [Except.bind_eq_ok_iff, Except.refuse_eq_ok_iff, ne_eq, not_not]
  constructor
  · rintro ⟨_, hbase, hinstalled⟩
    cases hinstalled
    exact ⟨⟨(), hbase, rfl⟩, rfl⟩
  · rintro ⟨⟨_, hbase, hinstalled⟩, rfl⟩
    cases hinstalled
    exact ⟨(), hbase, rfl⟩

/-- Both installs have the one guard on the revision. -/
theorem Session.install_of_installed {session : Session V} {call : Call V} {held : Held V}
    {after : ClientRuntime V} (hinstalled : session.installed call = some (held, after)) :
    held ∈ session.held ∧ session.runtime.install held.prepared = .ok after := by
  cases call with
  | Prepare transition => cases hinstalled
  | Clone index => cases hinstalled
  | Drop index => cases hinstalled
  | Install index =>
    simp only [Session.installed, Option.bind_eq_bind, Option.bind_eq_some_iff,
      Except.toOption_eq_some_iff] at hinstalled
    obtain ⟨held, hheld, runtime, hinstall, heq⟩ := hinstalled
    cases heq
    exact ⟨List.mem_of_getElem? hheld, hinstall⟩
  | InstallWithReadBatch index =>
    simp only [Session.installed, Option.bind_eq_bind, Option.bind_eq_some_iff,
      Except.toOption_eq_some_iff] at hinstalled
    obtain ⟨held, hheld, ⟨batch, runtime⟩, hinstall, heq⟩ := hinstalled
    cases heq
    exact ⟨List.mem_of_getElem? hheld, (ClientRuntime.install_with_read_batch_eq_ok_iff.mp hinstall).1⟩

/-- The states a held transition may have been prepared from: none is ahead of
the runtime, and one at the runtime's revision is the runtime's state. -/
def Session.Ordered (session : Session V) : Prop :=
  ∀ held ∈ session.held, held.origin.state.revision ≤ session.runtime.state.revision ∧
    (held.origin.state.revision = session.runtime.state.revision →
      held.origin.state = session.runtime.state)

theorem ClientRuntime.ext_state {self other : ClientRuntime V} (hstate : self.state = other.state) :
    self = other := by
  obtain ⟨state, valid⟩ := self
  cases hstate
  rfl

/-- An install that passes the revision check is a step of the current runtime,
because the transition was prepared from the very state it replaces. -/
theorem Session.Ordered.step {session : Session V} (hordered : session.Ordered) {call : Call V}
    {held : Held V} {after : ClientRuntime V} (hinstalled : session.installed call = some (held, after)) :
    held.origin = session.runtime ∧ surrealdb_sync_client.Step session.runtime held.transition after := by
  obtain ⟨hmem, hinstall⟩ := Session.install_of_installed hinstalled
  obtain ⟨hbase, _⟩ := ClientRuntime.install_eq_ok_iff.mp hinstall
  obtain ⟨_, _, hprepare⟩ := effect_of_prepare held.prepared_from
  obtain ⟨horigin, _⟩ := ClientRuntime.prepare_eq_ok_iff.mp hprepare
  have hsame : held.origin = session.runtime :=
    ClientRuntime.ext_state ((hordered held hmem).2 (horigin.symm.trans hbase))
  exact ⟨hsame, held.prepared, hsame ▸ held.prepared_from, hinstall⟩

theorem Step.revision_le {before after : ClientRuntime V} {transition : Transition V}
    (hstep : Step before transition after) : before.state.revision ≤ after.state.revision := by
  obtain ⟨_, _, hstamped⟩ := hstep.effect
  exact hstamped.revision_le

theorem Step.eq_of_revision_eq {before after : ClientRuntime V} {transition : Transition V}
    (hstep : Step before transition after) (hrevision : after.state.revision = before.state.revision) :
    after = before := by
  obtain ⟨_, _, hstamped⟩ := hstep.effect
  exact ClientRuntime.ext_state (hstamped.eq_iff_revision_eq.mpr hrevision)

/-- A run that ends at the revision it started from ends in the state it started from. -/
theorem eq_of_run_of_revision_eq {first last : ClientRuntime V}
    {edges : List (Trace.Edge (ClientRuntime V) (Transition V))} (hrun : Run first edges last)
    (hrevision : last.state.revision = first.state.revision) : last = first := by
  have hordered : first.state.revision ≤ last.state.revision ∧
      (last.state.revision = first.state.revision → last = first) := by
    refine @Trace.Run.relates _ _ _ (fun s t => s.state.revision ≤ t.state.revision ∧
      (t.state.revision = s.state.revision → t = s)) (fun s => ⟨UInt64.le_refl _, fun _ => rfl⟩) ?_ ?_ _ _ _ hrun
    · intro s t u hst htu
      refine ⟨UInt64.le_trans hst.1 htu.1, fun hsame => ?_⟩
      have hmiddle : t.state.revision = s.state.revision := UInt64.le_antisymm (hsame ▸ htu.1) hst.1
      rw [htu.2 (hsame.trans hmiddle.symm), hst.2 hmiddle]
    · intro s transition t hstep
      exact ⟨hstep.revision_le, hstep.eq_of_revision_eq⟩
  exact hordered.2 hrevision

theorem Session.Ordered.call {session : Session V} (hordered : session.Ordered) (call : Call V) :
    (session.call call).Ordered := by
  intro held hmem
  rw [Session.call_runtime]
  have hheld : held.origin.state.revision ≤ session.runtime.state.revision ∧
      (held.origin.state.revision = session.runtime.state.revision →
        held.origin.state = session.runtime.state) := by
    rcases Session.mem_held_call hmem with hmem | horigin
    · exact hordered held hmem
    · rw [horigin]
      exact ⟨UInt64.le_refl _, fun _ => rfl⟩
  cases hinstalled : session.installed call with
  | none => exact hheld
  | some result =>
    obtain ⟨installed, after⟩ := result
    obtain ⟨_, hstep⟩ := hordered.step hinstalled
    refine ⟨UInt64.le_trans hheld.1 hstep.revision_le, fun hrevision => ?_⟩
    -- the install left the revision alone, so it left the state alone
    have hsame : after.state.revision = session.runtime.state.revision :=
      UInt64.le_antisymm (hrevision ▸ hheld.1) hstep.revision_le
    rw [Option.elim_some, hstep.eq_of_revision_eq hsame]
    exact hheld.2 (hrevision.trans hsame)

/-- No effect touches the revision; only the stamp does. -/
theorem Effect.revision_eq {state next : DurableClientState V} {transition : Transition V}
    (heffect : Effect state transition next) : next.revision = state.revision := by
  cases heffect with
  | recorded _ hrecord =>
    obtain ⟨renamed, _, hrenamed, rfl⟩ := record_outcome_eq_ok hrecord
    rw [hrenamed.frame]
  | decided _ _ _ hdecide =>
    obtain ⟨rfl, _⟩ := decide_conflict_eq_ok hdecide
    rfl
  | reset hreplaces =>
    obtain ⟨_, _, _, rfl⟩ := hreplaces.replaced
    rfl
  | bootstrapped _ _ hreplaces =>
    obtain ⟨_, _, _, rfl⟩ := hreplaces.replaced
    rfl
  | _ => rfl

/-- A step counts its change: one more when a field other than the revision
changes, else nothing at all. -/
theorem Step.revision_counts {before after : ClientRuntime V} {transition : Transition V}
    (hstep : Step before transition after) :
    after.state.revision.toNat = before.state.revision.toNat +
      if { after.state with revision := before.state.revision } = before.state then 0 else 1 := by
  obtain ⟨next, heffect, hstamped⟩ := hstep.effect
  have hnext : { after.state with revision := before.state.revision } = next := by
    obtain ⟨_, hafter⟩ := hstamped.exists_revision
    rw [hafter, ← heffect.revision_eq]
  rw [hnext]
  obtain ⟨hsame, hafter⟩ | ⟨hchanged, _, hrevision⟩ := hstamped
  · simp [hsame, hafter]
  · simp [hchanged, hrevision]

theorem Step.revision_next {before after : ClientRuntime V} {transition : Transition V}
    (hstep : Step before transition after) (hchanged : before.state.revision ≠ after.state.revision) :
    after.state.revision.toNat = before.state.revision.toNat + 1 := by
  have hcounts := hstep.revision_counts
  split at hcounts
  · exact absurd (UInt64.toNat_inj.mp hcounts).symm hchanged
  · exact hcounts

/-- The transitions a run of calls installed and the states they left, in order. -/
def Session.installs (edges : List (Trace.Edge (Session V) (Call V))) :
    List (Transition V × ClientRuntime V) :=
  edges.filterMap fun edge =>
    (edge.source.installed edge.label).map fun (held, after) => (held.transition, after)

/-- The calls between two states of a session lose no update. -/
structure NoLostUpdate (first : Session V) (edges : List (Trace.Edge (Session V) (Call V)))
    (last : Session V) : Prop where
  current : ∀ edge ∈ edges, ∀ held after, edge.source.installed edge.label = some (held, after) →
    held.origin.state = edge.source.runtime.state ∧ edge.target.runtime = after
  serial : ∃ steps, surrealdb_sync_client.Run first.runtime steps last.runtime ∧
    steps.map (fun step => (step.label, step.target)) = Session.installs edges
  monotone : ∀ edge ∈ edges, edge.source.runtime.state.revision ≤ edge.target.runtime.state.revision
  counts : ∀ edge ∈ edges, ∀ held after, edge.source.installed edge.label = some (held, after) →
    after.state.revision.toNat = edge.source.runtime.state.revision.toNat +
      if { after.state with revision := edge.source.runtime.state.revision } = edge.source.runtime.state
      then 0 else 1
  failed : ∀ edge ∈ edges, edge.source.installed edge.label = none →
    edge.target.runtime.state = edge.source.runtime.state

theorem Session.Run.ordered {first last : Session V} {edges : List (Trace.Edge (Session V) (Call V))}
    (hrun : Session.Run first edges last) (hfirst : first.Ordered) :
    ∀ edge ∈ edges, edge.source.Ordered := by
  intro edge hedge
  obtain ⟨before, after, rfl⟩ := List.append_of_mem hedge
  refine hrun.split_edge.1.preserves (P := Session.Ordered) ?_ hfirst
  rintro session call _ rfl hordered
  exact hordered.call call

theorem Session.Run.serial {first last : Session V} {edges : List (Trace.Edge (Session V) (Call V))}
    (hrun : Session.Run first edges last) (hfirst : first.Ordered) :
    ∃ steps, surrealdb_sync_client.Run first.runtime steps last.runtime ∧
      steps.map (fun step => (step.label, step.target)) = Session.installs edges := by
  induction hrun with
  | nil session => exact ⟨[], .nil _, rfl⟩
  | @cons session _ last call edges hcall _ ih =>
    subst hcall
    obtain ⟨steps, hsteps, hinstalls⟩ := ih (hfirst.call call)
    rw [Session.call_runtime] at hsteps
    cases hinstalled : session.installed call with
    | none =>
      rw [hinstalled] at hsteps
      refine ⟨steps, hsteps, ?_⟩
      simpa [Session.installs, hinstalled] using hinstalls
    | some result =>
      obtain ⟨held, after⟩ := result
      rw [hinstalled] at hsteps
      refine ⟨_, .cons (hfirst.step hinstalled).2 hsteps, ?_⟩
      simpa [Session.installs, hinstalled] using hinstalls

/-- However prepared transitions are held, cloned and dropped, the installs that
succeed are a serial execution of their transitions. -/
theorem no_lost_update {runtime : ClientRuntime V} {last : Session V}
    {edges : List (Trace.Edge (Session V) (Call V))} (hrun : Session.Run ⟨runtime, []⟩ edges last) :
    NoLostUpdate ⟨runtime, []⟩ edges last := by
  have hfirst : (⟨runtime, []⟩ : Session V).Ordered := by simp [Session.Ordered]
  have hordered := Session.Run.ordered hrun hfirst
  have htarget : ∀ edge ∈ edges, edge.target.runtime =
      (edge.source.installed edge.label).elim edge.source.runtime Prod.snd := by
    intro edge hedge
    rw [hrun.step_of_mem hedge, Session.call_runtime]
  constructor
  · intro edge hedge held after hinstalled
    obtain ⟨horigin, _⟩ := (hordered edge hedge).step hinstalled
    exact ⟨congrArg _ horigin, by rw [htarget edge hedge, hinstalled, Option.elim_some]⟩
  · exact Session.Run.serial hrun hfirst
  · intro edge hedge
    rw [htarget edge hedge]
    cases hinstalled : edge.source.installed edge.label with
    | none => exact UInt64.le_refl _
    | some result => exact ((hordered edge hedge).step hinstalled).2.revision_le
  · intro edge hedge held after hinstalled
    exact ((hordered edge hedge).step hinstalled).2.revision_counts
  · intro edge hedge hinstalled
    rw [htarget edge hedge, hinstalled, Option.elim_none]

namespace transitions

/-- Two transitions prepared from one state: the first is installed, the second
is refused, and a third one prepared afterwards is installed. -/
theorem no_lost_update_of_stale_transition :
    ∃ (edges : List (Trace.Edge (Session String) (Call String))) (last : Session String),
      last.runtime.state.revision = 2 ∧
      last.runtime.state.outbox = [commit "one" [upsert "a" "x" none], commit "three" [upsert "c" "z" none]] ∧
      NoLostUpdate ⟨opened, []⟩ edges last := by
  obtain ⟨edges, hrun, _⟩ := Trace.Run.exists_of_function Session.call ⟨opened, []⟩ [
    .Prepare (.Enqueue (commit "one" [upsert "a" "x" none])),
    .Prepare (.Enqueue (commit "two" [upsert "b" "y" none])),
    .Clone 1,
    .InstallWithReadBatch 0,
    .Install 0,
    .Prepare (.Enqueue (commit "three" [upsert "c" "z" none])),
    .Install 1,
    .Drop 0]
  exact ⟨edges, _, by decide, by decide, no_lost_update hrun⟩

end transitions

end surrealdb_sync_client
