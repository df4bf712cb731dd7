import SurrealSync.Client.Step

open Std
open surrealdb_sync_protocol surrealdb_sync_protocol.subscription

namespace surrealdb_sync_client

variable {V : Type}

/-- The two outcomes of stamping a candidate: an unchanged state keeps its
revision, any change takes exactly the next one. -/
def Stamped (current next stamped : DurableClientState V) : Prop :=
  (next = current ∧ stamped = current) ∨
    (next ≠ current ∧ stamped = { next with revision := stamped.revision } ∧
      stamped.revision.toNat = current.revision.toNat + 1)

/-- Every field other than the revision is the candidate's. -/
theorem Stamped.exists_revision {current next stamped : DurableClientState V}
    (hstamped : Stamped current next stamped) : ∃ revision, stamped = { next with revision } := by
  obtain ⟨rfl, rfl⟩ | ⟨_, hnext, _⟩ := hstamped
  · exact ⟨_, rfl⟩
  · exact ⟨_, hnext⟩

theorem Stamped.revision_le {current next stamped : DurableClientState V}
    (hstamped : Stamped current next stamped) : current.revision ≤ stamped.revision := by
  rw [UInt64.le_iff_toNat_le]
  obtain ⟨_, rfl⟩ | ⟨_, _, hrevision⟩ := hstamped
  · exact le_rfl
  · omega

/-- The revision tells exactly whether the stamped state differs. -/
theorem Stamped.eq_iff_revision_eq {current next stamped : DurableClientState V}
    (hstamped : Stamped current next stamped) :
    stamped = current ↔ stamped.revision = current.revision := by
  constructor
  · rintro rfl
    rfl
  · intro hrevision
    obtain ⟨_, hsame⟩ | ⟨_, _, hnext⟩ := hstamped
    · exact hsame
    · rw [hrevision] at hnext
      omega

/-- Below the last revision there is a next one. -/
theorem exists_next_revision {revision : UInt64} (hroom : revision.toNat + 1 < 2 ^ 64) :
    ∃ next : UInt64, next.toNat = revision.toNat + 1 :=
  ⟨UInt64.ofNat (revision.toNat + 1), UInt64.toNat_ofNat_of_lt' hroom⟩

variable [DecidableEq V]

theorem ClientRuntime.stamp_eq_ok_iff {self : ClientRuntime V} {next stamped : DurableClientState V} :
    self.stamp next = .ok stamped ↔ Stamped self.state next stamped := by
  unfold ClientRuntime.stamp Stamped
  by_cases hsame : next = self.state
  · simp [hsame, eq_comm]
  · simp only [hsame, ne_eq, not_false_eq_true, if_true, Except.bind_eq_ok_iff,
      Except.okOr_eq_ok_iff, UInt64.checked_add_eq_some_iff, false_and, true_and, false_or]
    constructor
    · rintro ⟨revision, hrevision, hstamped⟩
      cases hstamped
      exact ⟨rfl, by simpa using hrevision⟩
    · rintro ⟨hstamped, hrevision⟩
      exact ⟨stamped.revision, by simpa using hrevision, congrArg Except.ok hstamped.symm⟩

/-- `prepare` stamps and validates, and remembers the revision it started from. -/
theorem ClientRuntime.prepare_eq_ok_iff {self : ClientRuntime V} {next : DurableClientState V}
    {prepared : PreparedTransition V} :
    self.prepare next = .ok prepared ↔
      prepared.base_revision = self.state.revision ∧ Stamped self.state next prepared.state := by
  unfold ClientRuntime.prepare
  simp only [Except.bind_eq_ok_iff, ClientRuntime.stamp_eq_ok_iff]
  constructor
  · rintro ⟨stamped, hstamped, hprepared⟩
    split at hprepared
    · cases hprepared
      exact ⟨rfl, hstamped⟩
    · cases hprepared
  · rintro ⟨hbase, hstamped⟩
    refine ⟨prepared.state, hstamped, ?_⟩
    split
    · obtain ⟨base, state, valid⟩ := prepared
      cases hbase
      rfl
    · rename_i error hinvalid
      rw [prepared.valid] at hinvalid
      cases hinvalid

/-- A valid state prepares to itself, at the same revision. -/
theorem ClientRuntime.prepare_self (self : ClientRuntime V) :
    self.prepare self.state = .ok ⟨self.state.revision, self.state, self.valid⟩ :=
  ClientRuntime.prepare_eq_ok_iff.mpr ⟨rfl, .inl ⟨rfl, rfl⟩⟩

/-- Success of `prepare` is validity of the stamped candidate. -/
theorem ClientRuntime.prepare_succeeds {self : ClientRuntime V} {next stamped : DurableClientState V}
    (hstamped : Stamped self.state next stamped) (hvalid : stamped.validate = .ok ()) :
    self.prepare next = .ok ⟨self.state.revision, stamped, hvalid⟩ :=
  ClientRuntime.prepare_eq_ok_iff.mpr ⟨rfl, hstamped⟩

theorem ClientRuntime.install_eq_ok_iff {self installed : ClientRuntime V}
    {prepared : PreparedTransition V} :
    self.install prepared = .ok installed ↔
      prepared.base_revision = self.state.revision ∧ installed.state = prepared.state := by
  unfold ClientRuntime.install
  simp only [Except.bind_eq_ok_iff, Except.refuse_eq_ok_iff, ne_eq, not_not]
  constructor
  · rintro ⟨_, hbase, hinstalled⟩
    cases hinstalled
    exact ⟨hbase, rfl⟩
  · rintro ⟨hbase, hstate⟩
    refine ⟨(), hbase, ?_⟩
    obtain ⟨state, valid⟩ := installed
    cases hstate
    rfl

theorem ClientRuntime.open_eq_ok_iff {state : DurableClientState V} {runtime : ClientRuntime V} :
    ClientRuntime.open state = .ok runtime ↔ runtime.state = state := by
  unfold ClientRuntime.open
  constructor
  · intro hopen
    split at hopen
    · cases hopen
      rfl
    · cases hopen
  · rintro rfl
    split
    · rfl
    · rename_i error hinvalid
      rw [runtime.valid] at hinvalid
      cases hinvalid

/-- Every runtime is what `open` returns for its state, so a run from an
arbitrary runtime is a run from an opened one. -/
theorem ClientRuntime.open_state (self : ClientRuntime V) : ClientRuntime.open self.state = .ok self :=
  ClientRuntime.open_eq_ok_iff.mpr rfl

end surrealdb_sync_client
