import SurrealSync.Package.SyncHttp

open Async (Answered conversing Safe safe_bind safe_lift safe_get safe_tryCatch safe_conversing_await continued_ok
  handled Suspended Stopped Reads)
open Except (refuse)

namespace react_native_surrealdb.sync_http

variable {E : Type} {options : ExperimentalSyncHttpOptions} {request : SyncRequest} {α : Type}

/-! ### What an exchange may do -/

/-- A signal that is aborted stays so. -/
def AbortSignal.Aborts (before after : AbortSignal) : Prop := before.aborted = true → after.aborted = true

/-- The codec has made a body within the limit, and there is a token to send it with. -/
structure Sendable (options : ExperimentalSyncHttpOptions) (request : SyncRequest) (body : ExperimentalSyncHttpBody)
    (token : String) (calls : List (Answered (ExchangeCall.Reply E))) : Prop where
  calls : calls = [⟨.encode request, .ok body⟩, ⟨.accessToken, .ok token⟩]
  token : trim token.toList ≠ []
  body : bodyBytes body ≤ options.limits.maxRequestBytes

/-- An exchange fetches once it has a body and a token, and not after its abort. -/
def Allowed (options : ExperimentalSyncHttpOptions) (request : SyncRequest) :
    ExchangeCall → AbortSignal → List (Answered (ExchangeCall.Reply E)) → Prop
  | .fetch sent, signal, calls => signal.aborted = false ∧
    ∃ body token, Sendable options request body token calls ∧ sent = message options request token body
  | .encode _, _, _ | .accessToken, _, _ | .read, _, _ | .cancel, _, _ | .arrayBuffer, _, _ | .decode .., _, _ => True

/-- The text is what the codec makes of the response to the one message that was sent. -/
def Answers (options : ExperimentalSyncHttpOptions) (request : SyncRequest)
    (calls : List (Answered (ExchangeCall.Reply E))) (text : String) : Prop :=
  ∃ sent body token response bytes reading, Sendable options request body token sent ∧
    calls = sent ++ [⟨.fetch (message options request token body), .ok response⟩, reading,
      ⟨.decode request bytes, .ok text⟩] ∧
    (reading = ⟨.arrayBuffer, .ok bytes⟩ ∨ ∃ chunks, reading = ⟨.read, .ok chunks⟩ ∧ chunks.flatten = bytes) ∧
    response.status = 200 ∧ response.mediaType = some options.mediaType.toList ∧
    bytes.length ≤ options.limits.maxResponseBytes

/-- What other code throws is passed on only before a message is sent. -/
def Ends (options : ExperimentalSyncHttpOptions) (request : SyncRequest) :
    Except (Thrown E) String → AbortSignal → List (Answered (ExchangeCall.Reply E)) → Prop
  | .ok text, _, calls => Answers options request calls text
  | .error (.other _), _, calls => ∀ call ∈ calls, call.request.fetches = []
  | .error (.http _), _, _ => True

abbrev exchanging (E : Type) (options : ExperimentalSyncHttpOptions) (request : SyncRequest) :
    Async.Context AbortSignal (List (Answered (ExchangeCall.Reply E))) (ExchangeCall.Reply E) :=
  conversing (Allowed options request) AbortSignal.Aborts

variable {signal : AbortSignal} {calls : List (Answered (ExchangeCall.Reply E))}

theorem ends_of_error {error : Thrown E} (hcalls : ∀ call ∈ calls, call.request.fetches = []) :
    Ends options request (.error error) signal calls := by
  cases error with
  | http error => trivial
  | other error => exact hcalls

theorem safe_call {call : ExchangeCall} {post : Except (Thrown E) call.Value → AbortSignal →
      List (Answered (ExchangeCall.Reply E)) → Prop} :
    Safe (exchanging E options request) post (Exchanging.call call) signal calls ↔
      Allowed options request call signal calls ∧
        ∀ reply later, signal.Aborts later → post reply later (calls ++ [⟨call, reply⟩]) :=
  safe_conversing_await

theorem safe_check {post : Except (Thrown E) Unit → AbortSignal → List (Answered (ExchangeCall.Reply E)) → Prop}
    {refused : Prop} [Decidable refused] {text : String} {kind : ExperimentalSyncHttpErrorKind} {status : Option Nat}
    (herror : post (.error (.http ⟨text, kind, status⟩)) signal calls) (hok : ¬ refused → post (.ok ()) signal calls) :
    Safe (exchanging E options request) post (Exchanging.check refused text kind status) signal calls := by
  unfold Exchanging.check
  rw [safe_lift, refuse]
  split
  · exact herror
  · rename_i haccepted
    exact hok haccepted

/-- A rescued part may fail with an error of the adapter only. -/
theorem safe_rescue {post : Except (Thrown E) α → AbortSignal → List (Answered (ExchangeCall.Reply E)) → Prop}
    {part : Exchanging E α} {text : String} {kind : ExperimentalSyncHttpErrorKind}
    (herror : ∀ error later more, post (.error (.http error)) later more)
    (hpart : Safe (exchanging E options request)
      (fun result later more => ∀ a, result = .ok a → post (.ok a) later more) part signal calls) :
    Safe (exchanging E options request) post (part.rescue text kind) signal calls := by
  unfold Exchanging.rescue
  rw [safe_tryCatch]
  refine hpart.imp fun result later more hresult => ?_
  cases result with
  | ok a => exact hresult a rfl
  | error error =>
    simp only [handled]
    rw [safe_bind, safe_get, continued_ok, safe_bind]
    refine safe_check (herror _ _ _) fun _ => ?_
    rw [continued_ok]
    cases error with
    | http error => exact herror _ _ _
    | other error => exact herror _ _ _

/-- What has been read of a response. -/
def Received (maximum : Nat) (before : List (Answered (ExchangeCall.Reply E))) :
    Except (Thrown E) (List UInt8) → AbortSignal → List (Answered (ExchangeCall.Reply E)) → Prop
  | .ok bytes, _, calls => bytes.length ≤ maximum ∧ ∃ reading, calls = before ++ [reading] ∧
    (reading = ⟨.arrayBuffer, .ok bytes⟩ ∨ ∃ chunks, reading = ⟨.read, .ok chunks⟩ ∧ chunks.flatten = bytes)
  | .error _, _, _ => True

theorem safe_readResponse {response : Response} {maximum : Nat} :
    Safe (exchanging E options request) (Received maximum calls) (readResponse response maximum) signal calls := by
  unfold readResponse
  cases response.readable with
  | true =>
    dsimp only
    rw [safe_bind, safe_call]
    refine ⟨trivial, fun reply later _ => ?_⟩
    cases reply with
    | error error => trivial
    | ok chunks =>
      rw [continued_ok]
      by_cases hlength : chunks.flatten.length > maximum
      · rw [if_pos hlength, safe_bind, safe_call]
        refine ⟨trivial, fun reply later _ => ?_⟩
        cases reply <;> trivial
      · rw [if_neg hlength]
        exact ⟨Nat.not_lt.mp hlength, _, rfl, .inr ⟨chunks, rfl, rfl⟩⟩
  | false =>
    dsimp only
    rw [safe_bind]
    refine safe_check trivial fun _ => ?_
    rw [continued_ok, safe_bind, safe_call]
    refine ⟨trivial, fun reply later _ => ?_⟩
    cases reply with
    | error error => trivial
    | ok bytes =>
      rw [continued_ok, safe_bind]
      exact safe_check trivial fun hlength => ⟨Nat.not_lt.mp hlength, _, rfl, .inl rfl⟩

theorem safe_boundedResponseBytes {response : Response} {maximum : Nat} :
    Safe (exchanging E options request) (Received maximum calls) (boundedResponseBytes response maximum) signal
      calls := by
  unfold boundedResponseBytes checkContentLength
  rw [safe_bind]
  cases response.contentLength with
  | none => exact safe_readResponse
  | some declared =>
    dsimp only
    cases Decimal.digits declared.toList with
    | none => trivial
    | some length => exact safe_check trivial fun _ => safe_readResponse

/-- From its first call on, an exchange keeps to what it may do, and ends as it should. -/
theorem exchange_safe :
    Safe (exchanging E options request) (Ends options request) (exchange options request) signal [] := by
  unfold exchange post receive
  rw [safe_bind, safe_call]
  refine ⟨trivial, fun reply later _ => ?_⟩
  cases reply with
  | error error => exact ends_of_error (by simp [ExchangeCall.fetches])
  | ok body =>
    rw [continued_ok, safe_bind, safe_call]
    refine ⟨trivial, fun reply later _ => ?_⟩
    cases reply with
    | error error => exact ends_of_error (by simp [ExchangeCall.fetches])
    | ok token =>
      rw [continued_ok, safe_bind]
      refine safe_check trivial fun htoken => ?_
      rw [continued_ok, safe_bind]
      refine safe_check trivial fun hbody => ?_
      rw [continued_ok, safe_bind, safe_get, continued_ok, safe_bind]
      refine safe_check trivial fun haborted => ?_
      rw [continued_ok, safe_bind]
      have hsendable : Sendable options request body token
          ([⟨.encode request, .ok body⟩, ⟨.accessToken, .ok token⟩] : List (Answered (ExchangeCall.Reply E))) :=
        ⟨rfl, htoken, Nat.not_lt.mp hbody⟩
      have hallowed : Allowed options request (.fetch (message options request token body)) _
          ([⟨.encode request, .ok body⟩, ⟨.accessToken, .ok token⟩] : List (Answered (ExchangeCall.Reply E))) :=
        ⟨Bool.not_eq_true _ ▸ haborted, body, token, hsendable, rfl⟩
      refine safe_rescue (fun _ _ _ => trivial) (safe_call.mpr ⟨hallowed, ?_⟩)
      rintro _ later _ response rfl
      rw [continued_ok]
      refine safe_rescue (fun _ _ _ => trivial) ?_
      rw [safe_bind]
      refine safe_check (by simp) fun hstatus => ?_
      rw [continued_ok, safe_bind]
      refine safe_check (by simp) fun hmedia => ?_
      rw [continued_ok, safe_bind]
      refine safe_boundedResponseBytes.imp fun result later more hresult => ?_
      cases result with
      | error error => simp
      | ok bytes =>
        obtain ⟨hlength, reading, rfl, hreading⟩ := hresult
        rw [continued_ok]
        refine safe_call.mpr ⟨trivial, ?_⟩
        rintro _ later _ text rfl
        exact ⟨_, body, token, response, bytes, reading, hsendable, rfl, hreading, not_not.mp hstatus,
          not_not.mp hmedia, hlength⟩

/-! ### The code of an exchange only reads its signal -/

theorem reads_call {call : ExchangeCall} : (Exchanging.call call : Exchanging E call.Value).Reads := fun _ => trivial

theorem reads_check {refused : Prop} [Decidable refused] {text : String} {kind : ExperimentalSyncHttpErrorKind}
    {status : Option Nat} : (Exchanging.check refused text kind status : Exchanging E Unit).Reads := trivial

theorem reads_get : (Async.get : Exchanging E AbortSignal).Reads := ⟨rfl, fun _ => trivial⟩

theorem reads_rescue {α : Type} {part : Exchanging E α} (hpart : part.Reads) {text : String}
    {kind : ExperimentalSyncHttpErrorKind} : (part.rescue text kind).Reads := by
  refine hpart.tryCatch fun error => reads_get.bind fun signal => reads_check.bind fun _ => ?_
  cases error <;> trivial

theorem reads_boundedResponseBytes {response : Response} {maximum : Nat} :
    (boundedResponseBytes response maximum : Exchanging E (List UInt8)).Reads := by
  unfold boundedResponseBytes checkContentLength readResponse
  refine Reads.bind ?_ fun _ => ?_
  · cases response.contentLength with
    | none => trivial
    | some declared =>
      dsimp only
      cases Decimal.digits declared.toList <;> trivial
  · cases response.readable with
    | true =>
      refine reads_call.bind fun chunks => ?_
      split
      · exact reads_call.bind fun _ => trivial
      · trivial
    | false => exact reads_check.bind fun _ => reads_call.bind fun _ => reads_check.bind fun _ => trivial

theorem reads_exchange : (exchange options request : Exchanging E String).Reads := by
  unfold exchange post receive
  refine reads_call.bind fun body => reads_call.bind fun token => reads_check.bind fun _ => reads_check.bind fun _ => ?_
  refine reads_get.bind fun signal => reads_check.bind fun _ => (reads_rescue reads_call).bind fun response => ?_
  refine reads_rescue (reads_check.bind fun _ => reads_check.bind fun _ => ?_)
  exact reads_boundedResponseBytes.bind fun bytes => reads_call

/-! ### Exchanges between their calls -/

namespace Exchange

/-- What an exchange has done so far is within what it may do, and so is the rest. -/
def Sound (options : ExperimentalSyncHttpOptions) (self : Exchange E) : Prop :=
  match self.point with
  | .returned result => Ends options self.request result self.signal self.calls
  | .waiting call resume =>
    Suspended (Allowed options self.request) AbortSignal.Aborts (Ends options self.request) call resume self.signal
      self.calls ∧ ∀ reply, (resume reply).Reads

theorem sound_of_stopped {request : SyncRequest} {signal : AbortSignal} {calls : List (Answered (ExchangeCall.Reply E))}
    {task : Exchanging E String} (hreads : task.Reads)
    (hstopped : Stopped (Allowed options request) AbortSignal.Aborts (Ends options request) (task.settle signal).1 calls
      (task.settle signal).2) : Sound options ⟨request, (task.settle signal).1, calls, (task.settle signal).2⟩ := by
  have hrest := (hreads.settle signal).2
  unfold Sound
  dsimp only
  cases hpoint : (task.settle signal).2 with
  | returned result =>
    rw [hpoint] at hstopped
    exact hstopped
  | waiting call resume =>
    rw [hpoint] at hstopped
    exact ⟨hstopped.2, hrest call resume hpoint⟩

theorem sound_opened : (opened options request : Exchange E).Sound options :=
  sound_of_stopped reads_exchange exchange_safe.stopped

variable {self : Exchange E}

theorem Sound.answered (hsound : self.Sound options) (environment : (call : ExchangeCall) → call.Reply E) :
    (self.answered environment).Sound options := by
  unfold Sound at hsound
  unfold Exchange.answered
  split
  · rename_i result hpoint
    rw [hpoint] at hsound
    unfold Sound
    rw [hpoint]
    exact hsound
  · rename_i call resume hpoint
    rw [hpoint] at hsound
    exact sound_of_stopped (hsound.2 _) (hsound.1 _ _ id).stopped

theorem Sound.aborted (hsound : self.Sound options) : self.aborted.Sound options := by
  unfold Sound at hsound ⊢
  unfold Exchange.aborted
  dsimp only at hsound ⊢
  cases hpoint : self.point with
  | returned result =>
    rw [hpoint] at hsound
    cases result with
    | ok text => exact hsound
    | error error => cases error <;> exact hsound
  | waiting call resume =>
    rw [hpoint] at hsound
    exact ⟨hsound.1.interfered (fun hfirst hsecond haborted => hsecond (hfirst haborted)) fun _ => rfl, hsound.2⟩

theorem signal_answered (hsound : self.Sound options) (environment : (call : ExchangeCall) → call.Reply E) :
    (self.answered environment).signal = self.signal ∧ (self.answered environment).request = self.request := by
  unfold Sound at hsound
  unfold Exchange.answered
  split
  · exact ⟨rfl, rfl⟩
  · rename_i call resume hpoint
    rw [hpoint] at hsound
    exact ⟨((hsound.2 _).settle _).1, rfl⟩

/-- An exchange that goes on fetches only what it may, and only when it is not aborted. -/
theorem Sound.fetches_answered (hsound : self.Sound options) (environment : (call : ExchangeCall) → call.Reply E) :
    pointFetches (self.answered environment).point = [] ∨ self.signal.aborted = false ∧ ∃ body token,
      Sendable options self.request body token (self.answered environment).calls ∧
        pointFetches (self.answered environment).point = [message options self.request token body] := by
  unfold Sound at hsound
  unfold Exchange.answered
  split
  · rename_i result hpoint
    rw [hpoint]
    exact .inl rfl
  · rename_i call resume hpoint
    rw [hpoint] at hsound
    obtain ⟨hsuspended, hreads⟩ := hsound
    have hstopped := (hsuspended (environment call) _ id).stopped
    obtain ⟨hsignal, _⟩ := (hreads (environment call)).settle self.signal
    dsimp only
    rw [hsignal] at hstopped
    cases hafter : ((resume (environment call)).settle self.signal).2 with
    | returned result => exact .inl rfl
    | waiting next rest =>
      rw [hafter] at hstopped
      cases next with
      | fetch sent =>
        obtain ⟨⟨haborted, body, token, hsendable, rfl⟩, _⟩ := hstopped
        exact .inr ⟨haborted, body, token, hsendable, rfl⟩
      | encode _ => exact .inl rfl
      | accessToken => exact .inl rfl
      | read => exact .inl rfl
      | cancel => exact .inl rfl
      | arrayBuffer => exact .inl rfl
      | decode _ _ => exact .inl rfl

end Exchange

end react_native_surrealdb.sync_http
