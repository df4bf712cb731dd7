import SurrealSync.Package.SyncHttp

open Async (Answered conversing Safe safe_bind safe_lift safe_get safe_modify safe_tryCatch safe_conversing_await
  continued_ok handled)
open Except (refuse)

namespace react_native_surrealdb.sync_http

variable {E S : Type} {options : ExperimentalSyncHttpOptions} {request : SyncRequest}

/-! ### Operations between their calls -/

/-- A caller's signal that is aborted stays so. -/
def Signals.Raised (before after : Signals) : Prop := before.aborted = true → after.aborted = true

/-- How many calls an operation can still make when no exchange is answered, this one included. -/
def Call.rank : Call → Nat
  | .pendingProtocolJson | .recordPushResponse .. => 3
  | .checkpointToken => 2
  | .race _ | .applyPullResponse _ => 1

theorem Call.rank_pos (call : Call) : 0 < call.rank := by
  cases call <;> simp [rank]

theorem Call.rank_le (call : Call) : call.rank ≤ 3 := by
  cases call <;> simp [rank]

/-- An exchange that is answered may be followed by any call, another call only by one of a lower rank. -/
def Descends (call : Call) (calls : List (Answered (Call.Reply E S))) : Prop :=
  ∀ before last, calls = before ++ [last] →
    (∃ request responseJson, last = ⟨.race request, .ok responseJson⟩) ∨ call.rank < last.request.rank

/-- An operation starts an exchange when nothing has been aborted and its timer has not fired. What it hands to the sync
client is the answer to the exchange before. -/
structure Permitted (options : ExperimentalSyncHttpOptions) (call : Call) (signals : Signals)
    (calls : List (Answered (Call.Reply E S))) : Prop where
  descends : Descends call calls
  race : ∀ request, call = .race request → signals.aborted = false ∧ signals.timedOut = false
  record : ∀ responseJson policy, call = .recordPushResponse responseJson policy → policy = options.conflictPolicy ∧
    ∃ before request, calls = before ++ [⟨.race (.push request), .ok responseJson⟩]
  applied : ∀ responseJson, call = .applyPullResponse responseJson →
    ∃ before request, calls = before ++ [⟨.race (.pull request), .ok responseJson⟩]

abbrev operating (E S : Type) (options : ExperimentalSyncHttpOptions) :
    Async.Context Signals (List (Answered (Call.Reply E S))) (Call.Reply E S) :=
  conversing (Permitted options) Signals.Raised

/-- A commit that was pushed, the response, and the status after it was recorded. -/
structure Pushed (S : Type) where
  commitJson : String
  responseJson : String
  status : S

def Pushed.calls (options : ExperimentalSyncHttpOptions) (self : Pushed S) : List (Answered (Call.Reply E S)) :=
  [⟨.race (pushRequest options self.commitJson), .ok self.responseJson⟩,
    ⟨.recordPushResponse self.responseJson options.conflictPolicy, .ok self.status⟩]

/-- The pending commits are pushed one after the other, each recorded before the next one. -/
def PushedAll (options : ExperimentalSyncHttpOptions) (commits : List String) (pushed : List (Pushed S))
    (calls : List (Answered (Call.Reply E S))) : Prop :=
  calls = ⟨.pendingProtocolJson, .ok commits⟩ :: pushed.flatMap (Pushed.calls options)

/-- A push that fails: after some of the commits were pushed, the next one fails, and nothing follows. -/
def PushStops (options : ExperimentalSyncHttpOptions) (calls : List (Answered (Call.Reply E S))) : Prop :=
  (∃ error, calls = [⟨.pendingProtocolJson, .error error⟩]) ∨
    ∃ commits pushed commitJson rest before tail, commits = pushed.map Pushed.commitJson ++ commitJson :: rest ∧
      PushedAll options commits pushed before ∧ calls = before ++ tail ∧
      (tail = [] ∨ (∃ error, tail = [⟨.race (pushRequest options commitJson), .error error⟩]) ∨
        ∃ responseJson error, tail = [⟨.race (pushRequest options commitJson), .ok responseJson⟩,
          ⟨.recordPushResponse responseJson options.conflictPolicy, .error error⟩])

def PushEnds (options : ExperimentalSyncHttpOptions) :
    Except (Thrown E) (List S) → List (Answered (Call.Reply E S)) → Prop
  | .ok statuses, calls => ∃ pushed, PushedAll options (pushed.map Pushed.commitJson) pushed calls ∧
    statuses = pushed.map Pushed.status
  | .error _, calls => PushStops options calls

/-- The response to a pull from the checkpoint is what is applied. -/
def PullEnds (options : ExperimentalSyncHttpOptions) (forceReset : Bool) :
    Except (Thrown E) S → List (Answered (Call.Reply E S)) → Prop
  | .ok status, calls => ∃ before checkpoint responseJson,
    before = (if forceReset then [] else [⟨.checkpointToken, .ok checkpoint⟩]) ∧
      (forceReset = true → checkpoint = none) ∧
      calls = before ++ [⟨.race (pullRequest options checkpoint), .ok responseJson⟩,
        ⟨.applyPullResponse responseJson, .ok status⟩]
  | .error _, calls => ∀ call ∈ calls, ∀ responseJson status, call ≠ ⟨.applyPullResponse responseJson, .ok status⟩

/-- What the calls of an operation were when it ends. -/
def Concludes (options : ExperimentalSyncHttpOptions) :
    Operation → Except (Thrown E) (Result S) → List (Answered (Call.Reply E S)) → Prop
  | .push, .ok (.push statuses), calls => PushEnds options (.ok statuses) calls
  | .push, .error error, calls => PushEnds options (.error error) calls
  | .pull, .ok (.pull status), calls => PullEnds options false (.ok status) calls
  | .pull, .error error, calls => PullEnds options false (.error error) calls
  | .bootstrapReadCoverage, .ok (.pull status), calls => PullEnds options true (.ok status) calls
  | .bootstrapReadCoverage, .error error, calls => PullEnds options true (.error error) calls
  | .syncOnce, .ok (.syncOnce statuses status), calls => ∃ first second, calls = first ++ second ∧
    PushEnds options (.ok statuses) first ∧ PullEnds options false (.ok status) second
  | .syncOnce, .error error, calls => PushStops options calls ∨ ∃ statuses first second, calls = first ++ second ∧
    PushEnds (E := E) (S := S) options (.ok statuses) first ∧ PullEnds options false (.error error) second
  | _, .ok _, _ => False

variable {signals : Signals} {calls : List (Answered (Call.Reply E S))} {α : Type}

theorem descends_nil {call : Call} : Descends call ([] : List (Answered (Call.Reply E S))) :=
  fun before last hcalls => absurd hcalls.symm (by simp)

theorem descends_of_last {call : Call} {last : Answered (Call.Reply E S)} {before : List (Answered (Call.Reply E S))}
    (hlast : (∃ request responseJson, last = ⟨.race request, .ok responseJson⟩) ∨ call.rank < last.request.rank) :
    Descends call (before ++ [last]) := by
  intro others other hcalls
  obtain ⟨_, hsame⟩ := List.append_inj' hcalls rfl
  rw [← List.singleton_inj.mp hsame]
  exact hlast

theorem permitted_race (hdescends : Descends (.race request) calls) (haborted : signals.aborted = false)
    (htimer : signals.timedOut = false) : Permitted options (.race request) signals calls :=
  ⟨hdescends, fun _ _ => ⟨haborted, htimer⟩, nofun, nofun⟩

/-- After all commits that were pushed comes a call of the sync client. -/
theorem descends_of_pushedAll {call : Call} {commits : List String} {pushed : List (Pushed S)}
    (hcalls : PushedAll options commits pushed calls) (hrank : call.rank < 3) : Descends call calls := by
  unfold PushedAll at hcalls
  rcases List.eq_nil_or_concat pushed with rfl | ⟨before, one, rfl⟩
  · have hfirst : calls = [] ++ [⟨.pendingProtocolJson, .ok commits⟩] := hcalls
    rw [hfirst]
    exact descends_of_last (.inr hrank)
  · rw [hcalls, List.concat_eq_append, List.flatMap_append, ← List.cons_append, List.flatMap_singleton, Pushed.calls,
      List.append_cons]
    exact descends_of_last (.inr hrank)

theorem safe_operating_call {call : Call} {post : Except (Thrown E) (call.Value S) → Signals →
      List (Answered (Call.Reply E S)) → Prop} :
    Safe (operating E S options) post (Operating.call call) signals calls ↔ Permitted options call signals calls ∧
      ∀ reply later, signals.Raised later → post reply later (calls ++ [⟨call, reply⟩]) :=
  safe_conversing_await

theorem safe_operating_check {post : Except (Thrown E) Unit → Signals → List (Answered (Call.Reply E S)) → Prop}
    {refused : Bool} {text : String} {kind : ExperimentalSyncHttpErrorKind}
    (herror : ∀ error, post (.error error) signals calls) (hok : refused = false → post (.ok ()) signals calls) :
    Safe (operating E S options) post (Operating.check refused text kind) signals calls := by
  unfold Operating.check
  rw [safe_lift, refuse]
  split
  · exact herror _
  · rename_i haccepted
    exact hok (Bool.not_eq_true _ ▸ haccepted)

/-- A race is run unless the caller's signal is aborted, and its answer is handed on as it is. -/
theorem safe_withDeadline {post : Except (Thrown E) String → Signals → List (Answered (Call.Reply E S)) → Prop}
    (hdescends : Descends (.race request) calls)
    (hrefused : ∀ error, post (.error error) signals calls)
    (hok : ∀ responseJson later, post (.ok responseJson) later (calls ++ [⟨.race request, .ok responseJson⟩]))
    (herror : ∀ raised error later, post (.error raised) later (calls ++ [⟨.race request, .error error⟩])) :
    Safe (operating E S options) post (withDeadline request) signals calls := by
  unfold withDeadline
  rw [safe_bind, safe_get, continued_ok, safe_bind]
  refine safe_operating_check hrefused fun haborted => ?_
  rw [continued_ok, safe_bind, safe_modify, continued_ok, safe_tryCatch]
  refine safe_operating_call.mpr ⟨permitted_race hdescends haborted rfl, fun reply later _ => ?_⟩
  cases reply with
  | ok responseJson => exact hok responseJson later
  | error error =>
    simp only [handled]
    rw [safe_bind, safe_get, continued_ok, safe_bind]
    refine safe_operating_check (fun raised => herror raised error later) fun _ => ?_
    rw [continued_ok, safe_bind]
    refine safe_operating_check (fun raised => herror raised error later) fun _ => ?_
    exact herror error error later

theorem safe_pushCommits {commits : List String} {pushed : List (Pushed S)}
    (hcalls : PushedAll options (pushed.map Pushed.commitJson ++ commits) pushed calls) :
    Safe (operating E S options) (fun result _ calls => PushEnds options result calls)
      (pushCommits options commits (pushed.map Pushed.status)) signals calls := by
  induction commits generalizing pushed calls signals with
  | nil =>
    rw [List.append_nil] at hcalls
    exact ⟨pushed, hcalls, rfl⟩
  | cons commitJson commits ih =>
    unfold pushCommits
    rw [safe_bind]
    have hdescends : Descends (.race (pushRequest options commitJson)) calls :=
      descends_of_pushedAll hcalls (by simp [Call.rank])
    refine safe_withDeadline hdescends (fun error => ?_) (fun responseJson later => ?_) fun raised error later => ?_
    · exact .inr ⟨_, pushed, commitJson, commits, _, [], rfl, hcalls, (List.append_nil _).symm, .inl rfl⟩
    · rw [continued_ok, safe_bind]
      have hpermitted : Permitted options (.recordPushResponse responseJson options.conflictPolicy) later
          (calls ++ [⟨.race (pushRequest options commitJson), .ok responseJson⟩]) := by
        refine ⟨descends_of_last (.inl ⟨_, _, rfl⟩), nofun, fun text policy hcall => ?_, nofun⟩
        cases hcall
        exact ⟨rfl, _, _, rfl⟩
      refine safe_operating_call.mpr ⟨hpermitted, fun reply last _ => ?_⟩
      cases reply with
      | error error =>
        refine .inr ⟨_, pushed, commitJson, commits, _, _, rfl, hcalls, ?_, .inr (.inr ⟨responseJson, error, rfl⟩)⟩
        rw [List.append_assoc]
        rfl
      | ok status =>
        rw [continued_ok]
        let next : Pushed S := ⟨commitJson, responseJson, status⟩
        have hnext : PushedAll options ((pushed ++ [next]).map Pushed.commitJson ++ commits) (pushed ++ [next])
            (calls ++ [⟨.race (pushRequest options commitJson), .ok responseJson⟩] ++
              [⟨.recordPushResponse responseJson options.conflictPolicy, .ok status⟩]) := by
          unfold PushedAll at hcalls ⊢
          simp [hcalls, Pushed.calls, next]
        have hstatuses : pushed.map Pushed.status ++ [status] = (pushed ++ [next]).map Pushed.status := by simp [next]
        rw [hstatuses]
        exact ih hnext
    · exact .inr ⟨_, pushed, commitJson, commits, _, _, rfl, hcalls, rfl, .inr (.inl ⟨error, rfl⟩)⟩

theorem safe_push : Safe (operating E S options) (fun result _ calls => PushEnds options result calls) (push options)
    signals [] := by
  unfold push
  rw [safe_bind]
  refine safe_operating_call.mpr ⟨⟨descends_nil, nofun, nofun, nofun⟩, fun reply later _ => ?_⟩
  cases reply with
  | error error => exact .inl ⟨error, rfl⟩
  | ok commits =>
    have hnone : PushedAll options (([] : List (Pushed S)).map Pushed.commitJson ++ commits) []
        ([⟨.pendingProtocolJson, .ok commits⟩] : List (Answered (Call.Reply E S))) := rfl
    exact safe_pushCommits hnone

theorem safe_pullFrom {forceReset : Bool} {before : List (Answered (Call.Reply E S))} {checkpoint : Option String}
    (hbefore : before = if forceReset then [] else [⟨.checkpointToken, .ok checkpoint⟩])
    (hcheckpoint : forceReset = true → checkpoint = none)
    (hcalls : ∀ call : Call, call.rank < 3 → Descends call calls) :
    Safe (operating E S options)
      (fun result _ after => ∃ later, after = calls ++ later ∧ PullEnds options forceReset result later)
      (pullFrom options checkpoint) signals (calls ++ before) := by
  have hquiet : ∀ call ∈ before, ∀ responseJson status, call ≠ ⟨.applyPullResponse responseJson, .ok status⟩ := by
    rw [hbefore]
    split <;> simp
  unfold pullFrom
  rw [safe_bind]
  have hdescends : Descends (.race (pullRequest options checkpoint)) (calls ++ before) := by
    rw [hbefore]
    split
    · rw [List.append_nil]
      exact hcalls _ (by simp [Call.rank])
    · exact descends_of_last (.inr (by simp [Call.rank]))
  refine safe_withDeadline hdescends (fun error => ?_) (fun responseJson later => ?_) fun raised error later => ?_
  · exact ⟨before, rfl, hquiet⟩
  · rw [continued_ok]
    have hpermitted : Permitted options (.applyPullResponse responseJson) later
        (calls ++ before ++ [⟨.race (pullRequest options checkpoint), .ok responseJson⟩]) := by
      refine ⟨descends_of_last (.inl ⟨_, _, rfl⟩), nofun, nofun, fun text hcall => ?_⟩
      cases hcall
      exact ⟨_, _, rfl⟩
    refine safe_operating_call.mpr ⟨hpermitted, fun reply last _ => ?_⟩
    refine ⟨before ++ [⟨.race (pullRequest options checkpoint), .ok responseJson⟩,
      ⟨.applyPullResponse responseJson, reply⟩], by simp, ?_⟩
    cases reply with
    | ok status => exact ⟨before, checkpoint, responseJson, hbefore, hcheckpoint, rfl⟩
    | error error =>
      intro call hcall
      rcases List.mem_append.mp hcall with hcall | hcall
      · exact hquiet call hcall
      · simp only [List.mem_cons, List.not_mem_nil, or_false] at hcall
        rcases hcall with rfl | rfl <;> simp
  · refine ⟨before ++ [⟨.race (pullRequest options checkpoint), .error error⟩], by simp, fun call hcall => ?_⟩
    rcases List.mem_append.mp hcall with hcall | hcall
    · exact hquiet call hcall
    · rw [List.mem_singleton.mp hcall]
      simp

theorem safe_pull {forceReset : Bool} (hcalls : ∀ call : Call, call.rank < 3 → Descends call calls) :
    Safe (operating E S options)
      (fun result _ after => ∃ later, after = calls ++ later ∧ PullEnds options forceReset result later)
      (pull options forceReset) signals calls := by
  unfold pull
  cases forceReset with
  | true =>
    have hsafe : Safe (operating E S options) (fun result _ after => ∃ later, after = calls ++ later ∧
        PullEnds options true result later) (pullFrom options none) signals (calls ++ []) :=
      safe_pullFrom rfl (fun _ => rfl) hcalls
    rw [List.append_nil] at hsafe
    exact hsafe
  | false =>
    dsimp only
    rw [safe_bind]
    refine safe_operating_call.mpr ⟨⟨hcalls _ (by decide), nofun, nofun, nofun⟩, fun reply later _ => ?_⟩
    cases reply with
    | error error => exact ⟨_, rfl, by simp [PullEnds]⟩
    | ok checkpoint => exact safe_pullFrom rfl (by simp) hcalls

theorem operation_safe (operation : Operation) :
    Safe (operating E S options) (fun result _ calls => Concludes options operation result calls)
      (operation.run options) signals [] := by
  cases operation with
  | push =>
    unfold Operation.run
    rw [safe_bind]
    refine safe_push.imp fun result signals calls hends => ?_
    cases result <;> exact hends
  | pull =>
    unfold Operation.run
    rw [safe_bind]
    refine (safe_pull fun _ _ => descends_nil).imp fun result signals calls hends => ?_
    obtain ⟨later, rfl, hends⟩ := hends
    cases result <;> exact hends
  | bootstrapReadCoverage =>
    unfold Operation.run
    rw [safe_bind]
    refine (safe_pull fun _ _ => descends_nil).imp fun result signals calls hends => ?_
    obtain ⟨later, rfl, hends⟩ := hends
    cases result <;> exact hends
  | syncOnce =>
    unfold Operation.run
    rw [safe_bind]
    refine safe_push.imp fun result signals first hpush => ?_
    cases result with
    | error error => exact .inl hpush
    | ok statuses =>
      rw [continued_ok, safe_bind]
      obtain ⟨pushed, hpushed, _⟩ := hpush
      refine (safe_pull fun _ hrank => descends_of_pushedAll hpushed hrank).imp fun result signals calls hends => ?_
      obtain ⟨later, rfl, hends⟩ := hends
      cases result with
      | error error => exact .inr ⟨statuses, first, later, rfl, ⟨pushed, hpushed, ‹_›⟩, hends⟩
      | ok status => exact ⟨first, later, rfl, ⟨pushed, hpushed, ‹_›⟩, hends⟩

end react_native_surrealdb.sync_http
