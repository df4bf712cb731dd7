import SurrealSync.Native.OwnerCalls

open Std Except
open surrealdb_sync_protocol surrealdb_sync_protocol.subscription surrealdb_sync_protocol.bootstrap_codec
open surrealdb_sync_client
open surrealdb_rn_core.sync_state surrealdb_rn_core.sync_bootstrap_store

namespace surrealdb_rn_core.sync_client

open sync_codec sync_subscription

variable {F V C : Type} [DecidableEq V] {store : Store F V C} {key : SyncStateKey} {bound : Binding} {guard later : RuntimeGuard V}
  {ledger : Ledger V key bound} {first content : Content V} {ε α : Type} {options : NativeSyncOpenOptions}

/-! ### Guards without a client -/

/-- A guard whose cell shows no client yet. -/
structure Opening (content : Content V) (guard : RuntimeGuard V) (ledger : Ledger V key bound) : Prop where
  runtime : guard.cell.runtime = none
  content : ledger.content = content
  raised : ledger.flags.Raised guard.poison_all guard.local_closed guard.session_ended
  rebinds : Rebinds bound guard.cell.binding

theorem agrees_of_none (hnone : guard.cell.runtime = none) (content : Content V) : guard.Agrees content := by
  intro runtime hruntime
  rw [hnone] at hruntime
  cases hruntime

theorem Flags.Raised.settled {flags : Flags} {poison_all local_closed session_ended : Bool}
    (hraised : flags.Raised poison_all local_closed session_ended) (unsettled : Bool) :
    flags.Raised (poison_all || unsettled) local_closed session_ended :=
  ⟨fun hset => Bool.or_eq_true_iff.mpr (.inl (hraised.poison_all hset)), hraised.local_closed, hraised.session_ended⟩

theorem Opening.sound (hopening : Opening content guard ledger) : guard.Sound ledger :=
  ⟨fun _ => agrees_of_none hopening.runtime _, hopening.raised, hopening.rebinds⟩

theorem Opening.of_sound (hsound : guard.Sound ledger) (hruntime : guard.cell.runtime = none)
    (hcontent : ledger.content = content) : Opening content guard ledger :=
  ⟨hruntime, hcontent, hsound.raised, hsound.rebinds⟩

theorem Opening.after_reading {next : Ledger V key bound} (hopening : Opening content guard ledger)
    (hinterferes : guard.Interferes later) (hsame : next.content = ledger.content)
    (hflags : next.flags = later.flags false) : Opening content later next :=
  .of_sound (hopening.sound.after_reading hinterferes hsame hflags) (hinterferes.cell ▸ hopening.runtime)
    (hsame.trans hopening.content)

/-- A guard whose cell shows the client of the journal. -/
structure Attached (runtime : ClientRuntime V) (guard : RuntimeGuard V) (ledger : Ledger V key bound) : Prop where
  sound : guard.Sound ledger
  shown : guard.cell.runtime = some runtime
  stored : ledger.content = some runtime

/-- What an opening does to the content: a journal that is there stays, and a missing one begins. -/
structure Opens (options : NativeSyncOpenOptions) (first : Content V) (runtime : ClientRuntime V) : Prop where
  kept : ∀ before, first = some before → runtime = before
  begun : first = none → runtime.state = options.initial

theorem Opens.of_some (options : NativeSyncOpenOptions) (runtime : ClientRuntime V) :
    Opens options (some runtime) runtime := by
  refine ⟨?_, nofun⟩
  rintro _ ⟨⟩
  rfl

/-! ### Beginning a journal -/

theorem unsettled_map {α β : Type} (f : α → β) (result : SyncResult α) :
    unsettled (result.map f) = unsettled result := by
  cases result with
  | ok a => rfl
  | error failed => cases failed <;> rfl

/-- What a first write leaves, before its outcome is marked. -/
structure Saved (state : DurableClientState V) (saved : SyncResult Unit) (guard : RuntimeGuard V)
    (ledger : Ledger V key bound) : Prop where
  runtime : guard.cell.runtime = none
  raised : ledger.flags.Raised (guard.poison_all || unsettled saved) guard.local_closed guard.session_ended
  rebinds : Rebinds bound guard.cell.binding
  written : ∀ u, saved = .ok u → ∃ runtime : ClientRuntime V, runtime.state = state ∧ ledger.content = some runtime
  refused : (∃ failed, saved = .error failed) → unsettled saved = false → ledger.content = none

theorem safe_save_atomic (hopening : Opening none guard ledger) (hinflight : guard.mutation_phase = .InFlight)
    (hkey : options.key = key) :
    Async.Safe (context key bound)
      (fun result guard ledger => ∃ saved, result = .ok saved ∧ Saved options.initial saved guard ledger)
      (NativeSyncClient.save_atomic store options.initial) guard ledger := by
  have hrefused : ∀ failed {guard : RuntimeGuard V} {ledger : Ledger V key bound}, Opening none guard ledger →
      ∃ saved : SyncResult Unit, (Except.ok (.error failed) : NativeResult (SyncResult Unit)) = .ok saved ∧
        Saved options.initial saved guard ledger := by
    intro failed guard ledger hopening
    exact ⟨_, rfl, hopening.runtime, hopening.raised.settled _, hopening.rebinds, nofun,
      fun _ _ => hopening.content⟩
  unfold NativeSyncClient.save_atomic
  split
  · exact hrefused _ hopening
  · refine Async.safe_bind.mpr ⟨.of_reading hopening.sound (fun asked hasked => ?_) (by simp), ?_⟩
    · exact (Option.some.inj hasked).symm.trans hkey
    · rintro reply later next ⟨heffect, hflags⟩ hinterferes
      have hlater := hopening.after_reading hinterferes heffect.1 hflags
      cases reply with
      | error failed => exact hrefused failed hlater
      | ok loaded =>
        refine Async.safe_bind.mpr ⟨⟨hlater.sound, fun asked hasked => ?_, fun _ _ => ?_, ?_⟩, ?_⟩
        · exact (Option.some.inj hasked).symm.trans hkey
        · exact hinterferes.mutation_phase.trans hinflight
        · rintro reply content (⟨rfl, _⟩ | ⟨told, hdone, _⟩)
          · exact .refl
          · rw [hlater.content]
            cases told with
            | done =>
              obtain ⟨runtime, hinitial, rfl⟩ := hdone
              subst hkey
              exact .single (.created hinitial)
            | begun _ => exact hdone.elim
            | completed _ => exact hdone.elim
        · intro (reply : SyncResult (sync_bootstrap_store.Reply V)) last final hserves hinterferes
          obtain ⟨heffect, hflags⟩ : ActEffect (.save none options.initial) reply next.content final.content ∧
            final.flags = last.flags (unsettled reply) := hserves
          refine ⟨_, rfl, hinterferes.cell ▸ hlater.runtime, ?_, hinterferes.cell ▸ hlater.rebinds,
            fun u hsaved => ?_, ?_⟩
          · rw [hflags, unsettled_map]
            exact ⟨id, id, id⟩
          · rcases heffect with ⟨_, failed, rfl⟩ | ⟨told, hdone, rfl | hunknown⟩
            · cases hsaved
            · cases told with
              | done => exact hdone
              | begun _ => exact hdone.elim
              | completed _ => exact hdone.elim
            · cases reply with
              | ok told => cases hunknown
              | error failed => cases hsaved
          · rintro ⟨failed, hsaved⟩ hsettled
            rw [unsettled_map] at hsettled
            rcases heffect with ⟨hsame, _⟩ | ⟨told, _, rfl | hunknown⟩
            · exact hsame.trans hlater.content
            · cases hsaved
            · rw [hsettled] at hunknown
              cases hunknown

/-- The content after a journal is found or begun. -/
structure Loaded (options : NativeSyncOpenOptions) (first : Content V) (state : DurableClientState V)
    (guard : RuntimeGuard V) (ledger : Ledger V key bound) : Prop where
  opening : ∃ runtime, runtime.state = state ∧ Opens options first runtime ∧ Opening (some runtime) guard ledger

theorem runs_begin_journal (hopening : Opening none guard ledger) (hkey : options.key = key) :
    Runs (Loaded options none) (fun _ _ => True) (NativeSyncClient.begin_journal store options) guard ledger := by
  have harmed : Opening none guard.arm_mutation ledger :=
    ⟨hopening.runtime, hopening.content, hopening.raised, hopening.rebinds⟩
  refine runs_modify_bind (Async.safe_bind.mpr (Async.Safe.imp (safe_save_atomic harmed rfl hkey) ?_))
  rintro _ guard ledger ⟨saved, rfl, hsaved⟩
  rw [Async.continued_ok]
  have hsound : (guard.settled_mutation saved).Sound ledger := ⟨nofun, hsaved.raised, hsaved.rebinds⟩
  refine runs_modify_bind (runs_get_bind ?_)
  split
  · exact runs_throw hsound trivial
  · rename_i hclear
    have hsettled : unsettled saved = false := by
      rw [Bool.not_eq_true] at hclear
      exact (Bool.or_eq_false_iff.mp hclear).2
    split
    · rename_i u
      obtain ⟨runtime, hinitial, hcontent⟩ := hsaved.written u rfl
      refine runs_pure hsound ⟨runtime, hinitial, ⟨nofun, fun _ => hinitial⟩, ?_⟩
      exact .of_sound hsound hsaved.runtime hcontent
    · have hnone : Opening none (guard.settled_mutation (.error .RevisionConflict : SyncResult Unit)) ledger :=
        .of_sound hsound hsaved.runtime (hsaved.refused ⟨_, rfl⟩ hsettled)
      refine runs_call_bind (.of_reading hnone.sound (fun asked hasked => ?_) (by simp)) ?_
      · exact (Option.some.inj hasked).symm.trans hkey
      · intro reply later next hinterferes heffect hflags
        have hlater := hnone.after_reading hinterferes heffect.1 hflags
        refine runs_lift_bind hlater.sound (fun loaded hloaded => ?_) fun _ _ => trivial
        refine runs_lift hlater.sound (fun state hstate => ?_) fun _ _ => trivial
        have hfound := heffect.2 loaded (map_err_eq_ok_iff.mp hloaded)
        rw [hnone.content] at hfound
        subst hfound
        cases hstate
    · exact runs_throw hsound trivial

theorem runs_load_or_begin (hopening : Opening first guard ledger) (hkey : options.key = key) :
    Runs (Loaded options first) (fun _ _ => True) (NativeSyncClient.load_or_begin store options) guard ledger := by
  refine runs_call_bind (.of_reading hopening.sound (fun asked hasked => ?_) (by simp)) ?_
  · exact (Option.some.inj hasked).symm.trans hkey
  · intro reply later next hinterferes heffect hflags
    have hlater := hopening.after_reading hinterferes heffect.1 hflags
    refine runs_lift_bind hlater.sound (fun loaded hloaded => ?_) fun _ _ => trivial
    have hfound := heffect.2 loaded (map_err_eq_ok_iff.mp hloaded)
    rw [hopening.content] at hfound
    subst hfound
    cases first with
    | none => exact runs_begin_journal hlater hkey
    | some runtime => exact runs_pure hlater.sound ⟨runtime, rfl, .of_some options runtime, hlater⟩

theorem runs_install_schema (hopening : Opening first guard ledger) :
    Runs (fun _ guard ledger => Opening first guard ledger) (fun _ _ => True)
      NativeSyncClient.install_schema guard ledger := by
  have harmed : Opening first guard.arm_mutation ledger := ⟨hopening.runtime, hopening.content, hopening.raised, hopening.rebinds⟩
  refine runs_modify_bind (runs_call_bind (.of_reading harmed.sound nofun (by simp)) ?_)
  intro (defined : SyncResult Unit) later next hinterferes hsame hflags
  have hlater := harmed.after_reading hinterferes hsame hflags
  generalize hupdated : (if defined = .error .Database then later.poison else later).settled_mutation defined = updated
  have hcell : updated.cell = later.cell := by
    subst hupdated
    split <;> rfl
  have hraised : next.flags.Raised updated.poison_all updated.local_closed updated.session_ended := by
    subst hupdated
    have hlater := hlater.raised.settled (unsettled defined)
    split
    · exact ⟨fun _ => rfl, hlater.local_closed, hlater.session_ended⟩
    · exact hlater
  have hupdates : Opening first updated next :=
    ⟨hcell ▸ hlater.runtime, hlater.content, hraised, hcell ▸ hlater.rebinds⟩
  refine runs_modify_bind ?_
  rw [hupdated]
  split
  · exact runs_throw hupdates.sound trivial
  · exact runs_lift hupdates.sound (fun _ _ => hupdates) fun _ _ => trivial

/-- The state that an opening hands on is the one in the journal, and the cell still shows no client. -/
structure Found (options : NativeSyncOpenOptions) (first : Content V)
    (opened : DurableClientState V × Option ScopeBlock) (guard : RuntimeGuard V) (ledger : Ledger V key bound) : Prop where
  sound : guard.Sound ledger
  found : ∃ runtime, runtime.state = opened.1 ∧ Opens options first runtime ∧ ledger.content = some runtime

theorem runs_open_journal (hopening : Opening first guard ledger) (hkey : options.key = key) :
    Runs (Found options first) (fun _ _ => True) (NativeSyncClient.open_journal store options) guard ledger := by
  refine runs_bind (runs_install_schema hopening) fun _ guard ledger _ hopening => ?_
  refine runs_bind (runs_load_or_begin hopening hkey) fun state guard ledger _ hloaded => ?_
  obtain ⟨runtime, hstate, hopens, hopening⟩ := hloaded.opening
  refine runs_lift_bind hopening.sound (fun _ _ => ?_) fun _ _ => trivial
  refine runs_lift_bind hopening.sound (fun _ _ => ?_) fun _ _ => trivial
  refine runs_call_bind (.of_reading hopening.sound (fun asked hasked => ?_) (by simp)) ?_
  · exact (Option.some.inj hasked).symm.trans hkey
  · intro reply later next hinterferes hsame hflags
    have hlater := hopening.after_reading hinterferes hsame hflags
    refine runs_lift_bind hlater.sound (fun barrier _ => ?_) fun _ _ => trivial
    exact runs_pure hlater.sound ⟨hlater.sound, runtime, hstate, hopens, hlater.content⟩

/-! ### Taking a journal over -/

theorem runs_adopt {opened : DurableClientState V × Option ScopeBlock} (hfound : Found options first opened guard ledger)
    (rotates : Bool) :
    Runs (fun _ guard ledger => ∃ runtime, Opens options first runtime ∧ Attached runtime guard ledger)
      (fun _ (_ : Ledger V key bound) => True) (NativeSyncClient.adopt rotates opened) guard ledger := by
  obtain ⟨runtime, hstate, hopens, hcontent⟩ := hfound.found
  refine runs_lift_bind hfound.sound (fun adopted hadopted => runs_get_bind ?_) fun _ _ => trivial
  have hsame : adopted = runtime := by
    have hopened := ClientRuntime.open_eq_ok_iff.mp (map_err_eq_ok_iff.mp hadopted)
    exact ClientRuntime.eq_of_state (hopened.trans hstate.symm)
  subst hsame
  split
  · exact runs_abandon hfound.sound trivial
  · have hsound : (guard.with_slot fun _ => ⟨some adopted, false, opened.2⟩).Sound ledger := by
      refine ⟨fun _ => ?_, hfound.sound.raised, hfound.sound.rebinds⟩
      rintro _ ⟨⟩
      exact hcontent
    exact ⟨hsound, fun _ _ => ⟨adopted, hopens, hsound, rfl, hcontent⟩, nofun⟩

theorem runs_inspect_existing (hintact : Intact first guard ledger) (hkey : options.key = key) :
    Runs (fun opened guard ledger => Intact first guard ledger ∧ Found options first opened guard ledger)
      (fun _ (_ : Ledger V key bound) => True) (NativeSyncClient.inspect_existing store options) guard ledger := by
  refine runs_call_bind (.of_reading hintact.sound (fun asked hasked => ?_) (by simp)) ?_
  · exact (Option.some.inj hasked).symm.trans hkey
  · intro reply later next hinterferes heffect hflags
    have hlater := hintact.after_reading hinterferes heffect.1 hflags
    refine runs_lift_bind hlater.sound (fun inspected hinspected => ?_) fun _ _ => trivial
    obtain ⟨state, barrier⟩ := inspected
    have hstate := heffect.2 state barrier (map_err_eq_ok_iff.mp hinspected)
    refine runs_lift_bind hlater.sound (fun found hfound => ?_) fun _ _ => trivial
    rw [okOr_eq_ok_iff] at hfound
    rw [hfound, hintact.content] at hstate
    obtain ⟨runtime, rfl, rfl⟩ := Option.map_eq_some_iff.mp hstate.symm
    refine runs_lift_bind hlater.sound (fun _ _ => ?_) fun _ _ => trivial
    refine runs_lift_bind hlater.sound (fun _ _ => runs_get_bind ?_) fun _ _ => trivial
    refine runs_lift_bind hlater.sound (fun _ _ => ?_) fun _ _ => trivial
    refine runs_pure hlater.sound ⟨hlater, hlater.sound, runtime, rfl, .of_some options runtime, hlater.content⟩

theorem runs_attach (hintact : Intact first guard ledger) (hkey : options.key = key) (rotates : Bool)
    (existing : Option (DurableClientState V × Option ScopeBlock))
    (hexisting : ∀ opened ∈ existing, Found options first opened guard ledger) :
    Runs (fun _ guard ledger => ∃ runtime, Opens options first runtime ∧ Attached runtime guard ledger)
      (fun _ (_ : Ledger V key bound) => True) (NativeSyncClient.attach store rotates options existing) guard ledger := by
  refine runs_get_bind ?_
  split
  · rename_i hsome
    obtain ⟨runtime, hruntime⟩ := Option.isSome_iff_exists.mp hsome
    obtain rfl := hintact.agrees runtime hruntime
    exact runs_pure hintact.sound ⟨runtime, .of_some options runtime, hintact.sound, hruntime, hintact.content⟩
  · rename_i hnone
    cases existing with
    | some opened => exact runs_adopt (hexisting opened rfl) rotates
    | none =>
      rw [Bool.not_eq_true, Option.isSome_eq_false_iff, Option.isNone_iff_eq_none] at hnone
      have hopening : Opening first guard ledger := ⟨hnone, hintact.content, hintact.raised, hintact.rebinds⟩
      exact runs_bind (runs_open_journal hopening hkey) fun opened guard ledger _ hfound => runs_adopt hfound rotates

/-- A client is open: it is the one in the journal, for the scope that was asked for. -/
structure Initialized (options : NativeSyncOpenOptions) (first : Content V) (guard : RuntimeGuard V)
    (ledger : Ledger V key bound) : Prop where
  clean : guard.mutation_phase = .Clean
  live : guard.Live
  client : ∃ runtime : ClientRuntime V, Opens options first runtime ∧ ledger.content = some runtime ∧
    guard.cell.runtime = some runtime ∧ runtime.state.requested_scope = options.requested_scope ∧
    runtime.state.subscription_revision = options.subscription_revision

theorem runs_finish_opening (hattached : ∃ runtime, Opens options first runtime ∧ Attached runtime guard ledger) :
    Runs (fun _ => Initialized options first) (fun _ (_ : Ledger V key bound) => True)
      (NativeSyncClient.finish_opening options) guard ledger := by
  obtain ⟨runtime, hopens, hattached⟩ := hattached
  refine runs_read_bind hattached.sound (fun current hclient => ?_) fun _ _ => trivial
  obtain ⟨hlive, hruntime⟩ := client_eq_ok_iff.mp hclient
  rw [hattached.shown, Option.some.injEq] at hruntime
  subst hruntime
  refine runs_lift_bind hattached.sound (fun _ hscope => runs_get_bind ?_) fun _ _ => trivial
  rw [refuse_eq_ok_iff, not_or, not_not, not_not] at hscope
  split
  · exact runs_abandon hattached.sound trivial
  · have hagrees : guard.Agrees ledger.content := by
      intro other hother
      rw [hattached.shown] at hother
      exact hattached.stored.trans hother
    refine ⟨hattached.sound.disarm hagrees, fun _ _ => ⟨rfl, ?_, runtime, hopens, hattached.stored,
      hattached.shown, hscope⟩, nofun⟩
    exact ⟨hlive.poison_all, hlive.local_closed, hlive.session_ended⟩

theorem runs_initialize_runtime (hintact : Intact first guard ledger) (hkey : options.key = key) (rotates : Bool)
    (mode : OpenMode) :
    Runs (fun _ => Initialized options first) (fun _ (_ : Ledger V key bound) => True)
      (NativeSyncClient.initialize_runtime store rotates options mode) guard ledger := by
  cases mode with
  | ExistingOnly =>
    refine runs_read_bind hintact.sound (fun _ _ => ?_) fun _ _ => trivial
    refine runs_bind (runs_inspect_existing hintact hkey) fun opened guard ledger _ hinspected => ?_
    refine runs_bind (runs_attach hinspected.1 hkey rotates (some opened) ?_) fun _ guard ledger _ => runs_finish_opening
    rintro _ ⟨⟩
    exact hinspected.2
  | CreateIfMissing =>
    refine runs_read_bind hintact.sound (fun _ _ => ?_) fun _ _ => trivial
    exact runs_bind (runs_attach hintact hkey rotates none nofun) fun _ guard ledger _ => runs_finish_opening

end surrealdb_rn_core.sync_client
