import SurrealSync.Package.SyncHttpExchanges
import SurrealSync.Package.SyncHttpOperations

open Async (Answered Suspended Stopped)

namespace react_native_surrealdb.sync_http

variable {E S : Type} {options : ExperimentalSyncHttpOptions}

/-- The races among the calls of an operation. -/
def races (calls : List (Answered (Call.Reply E S))) : List (SyncRequest × Except (Thrown E) String) :=
  calls.filterMap fun
    | ⟨.race request, reply⟩ => some (request, reply)
    | _ => none

/-- An exchange whose race is over: it is aborted or has returned, and an answer is what it has returned. -/
structure Raced.Sound (options : ExperimentalSyncHttpOptions) (exchange : Raced E) : Prop where
  sound : exchange.toExchange.Sound options
  ended : exchange.signal.aborted = true ∨ ∃ result, exchange.point = .returned result
  answer : ∀ text, exchange.outcome = .ok text → exchange.point = .returned (.ok text)

theorem Exchange.answered_of_returned {self : Exchange E} {result : Except (Thrown E) String}
    (hpoint : self.point = .returned result) (environment : (call : ExchangeCall) → call.Reply E) :
    self.answered environment = self := by
  unfold Exchange.answered
  rw [hpoint]

/-- However the call of an operation is answered, the operation goes on as it should. -/
abbrev Running.Sound (options : ExperimentalSyncHttpOptions) (task : Running E S) : Prop :=
  Suspended (Permitted options) Signals.Raised (fun result _ calls => Concludes options task.operation result calls)
    task.request task.resume task.signals task.calls

namespace ExperimentalSyncHttpAdapter

/-- What holds of an adapter while the code of a call runs; the calls of that one are `calls`. -/
structure Rested (options : ExperimentalSyncHttpOptions) (adapter : ExperimentalSyncHttpAdapter E S) (id : Nat)
    (calls : List (Answered (Call.Reply E S))) : Prop where
  racing : adapter.racing = none
  raced : ∀ raced ∈ adapter.raced, raced.Sound options
  finished : ∀ done ∈ adapter.finished, Concludes options done.operation done.result done.calls
  order : adapter.finished.map (·.id) ++ id :: adapter.tail.map (·.id) = List.range adapter.nextId
  races : adapter.raced.map (fun raced => (raced.request, raced.outcome)) =
    adapter.finished.flatMap (fun done => races done.calls) ++ races calls

/-- What an adapter keeps between the steps: the calls are numbered as they come, end in this order, and have ended as
they should, and their races are those that were run. -/
structure Kept (options : ExperimentalSyncHttpOptions) (adapter : ExperimentalSyncHttpAdapter E S) : Prop where
  raced : ∀ raced ∈ adapter.raced, raced.Sound options
  finished : ∀ done ∈ adapter.finished, Concludes options done.operation done.result done.calls
  order : adapter.finished.map (·.id) ++ (adapter.running.map (·.id)).toList ++ adapter.tail.map (·.id) =
    List.range adapter.nextId
  races : adapter.raced.map (fun raced => (raced.request, raced.outcome)) =
    adapter.finished.flatMap (fun done => sync_http.races done.calls) ++
      adapter.running.toList.flatMap fun task => sync_http.races task.calls

/-- At most one call runs, and it waits for a race exactly when an exchange is racing. -/
structure Invariant (options : ExperimentalSyncHttpOptions) (adapter : ExperimentalSyncHttpAdapter E S) : Prop extends
    Kept options adapter where
  running : ∀ task, adapter.running = some task → task.Sound options
  racing : ∀ exchange, adapter.racing = some exchange → exchange.Sound options ∧ exchange.signal.aborted = false ∧
    ∃ task, adapter.running = some task ∧ task.request = .race exchange.request ∧ task.signals.aborted = false ∧
      task.signals.timedOut = false
  waits : ∀ task request, adapter.running = some task → task.request = .race request → adapter.racing ≠ none

theorem invariant_new : (new : ExperimentalSyncHttpAdapter E S).Invariant options := by
  refine ⟨⟨?_, ?_, ?_, ?_⟩, ?_, ?_, ?_⟩ <;> simp [new]

variable {self next : ExperimentalSyncHttpAdapter E S}

theorem Rested.proceed {id : Nat} {operation : Operation} {calls : List (Answered (Call.Reply E S))} {signals : Signals}
    {point : Async.Point (Thrown E) Signals (Call.Reply E S) (Result S)} (hrested : self.Rested options id calls)
    (hstopped : Stopped (Permitted options) Signals.Raised
      (fun result _ calls => Concludes options operation result calls) signals calls point) :
    (self.proceed options id operation calls (signals, point)).Invariant options := by
  cases point with
  | returned result =>
    refine ⟨⟨hrested.raced, ?_, ?_, ?_⟩, ?_, ?_, ?_⟩
    · intro done hdone
      rcases List.mem_append.mp hdone with hdone | hdone
      · exact hrested.finished done hdone
      · rw [List.mem_singleton.mp hdone]
        exact hstopped
    · simpa [ExperimentalSyncHttpAdapter.proceed] using hrested.order
    · simpa [ExperimentalSyncHttpAdapter.proceed] using hrested.races
    · intro task htask
      cases htask
    · intro exchange hexchange
      cases hrested.racing.symm.trans hexchange
    · intro task request htask
      cases htask
  | waiting request resume =>
    obtain ⟨hpermitted, hsuspended⟩ := hstopped
    by_cases hrace : ∃ sent, request = .race sent
    · obtain ⟨sent, rfl⟩ := hrace
      refine ⟨⟨hrested.raced, hrested.finished, ?_, ?_⟩, ?_, ?_, ?_⟩
      · simpa [ExperimentalSyncHttpAdapter.proceed] using hrested.order
      · simpa [ExperimentalSyncHttpAdapter.proceed] using hrested.races
      · intro task htask
        cases htask
        exact hsuspended
      · intro exchange hexchange
        cases hexchange
        exact ⟨Exchange.sound_opened, rfl, _, rfl, rfl, hpermitted.race sent rfl⟩
      · intro task other htask hother hnone
        cases hnone
    · have hproceed : self.proceed options id operation calls (signals, .waiting request resume) =
          { self with running := some ⟨id, operation, signals, calls, request, resume⟩ } := by
        cases request with
        | race sent => exact absurd ⟨sent, rfl⟩ hrace
        | pendingProtocolJson => rfl
        | recordPushResponse _ _ => rfl
        | checkpointToken => rfl
        | applyPullResponse _ => rfl
      rw [hproceed]
      refine ⟨⟨hrested.raced, hrested.finished, ?_, ?_⟩, ?_, ?_, ?_⟩
      · simpa using hrested.order
      · simpa using hrested.races
      · intro task htask
        cases htask
        exact hsuspended
      · intro exchange hexchange
        cases hrested.racing.symm.trans hexchange
      · intro task other htask hother
        cases htask
        exact absurd ⟨other, hother⟩ hrace

theorem Rested.resumed {task : Running E S} {reply : task.request.Reply E S}
    (hrested : self.Rested options task.id (task.calls ++ [⟨task.request, reply⟩]))
    (hsuspended : task.Sound options) : (self.resumed options task reply).Invariant options :=
  hrested.proceed (hsuspended reply task.signals id).stopped

/-- The end of a race goes on with the call that waits for it. -/
theorem Kept.settled (hkept : self.Kept options) {task : Running E S} {exchange : Exchange E}
    {outcome : Except (Thrown E) String} (hrunning : self.running = some task)
    (htask : task.request = .race exchange.request) (hsuspended : task.Sound options)
    (hexchange : (Raced.mk exchange outcome).Sound options) :
    (self.settled options exchange outcome).Invariant options := by
  obtain ⟨id, operation, signals, calls, request, resume⟩ := task
  dsimp only at htask
  subst htask
  unfold ExperimentalSyncHttpAdapter.settled
  rw [hrunning]
  have horder := hkept.order
  have hraces := hkept.races
  rw [hrunning] at horder hraces
  refine Rested.resumed ⟨rfl, ?_, hkept.finished, ?_, ?_⟩ hsuspended
  · intro raced hraced
    rcases List.mem_append.mp hraced with hraced | hraced
    · exact hkept.raced raced hraced
    · rw [List.mem_singleton.mp hraced]
      exact hexchange
  · simpa [leave] using horder
  · simp only [leave, List.map_append, hraces, List.map_cons, List.map_nil]
    simp [sync_http.races]

theorem Invariant.signalled (hinvariant : self.Invariant options) {task : Running E S}
    (hrunning : self.running = some task) {signals : Signals} (hraised : task.signals.Raised signals) :
    (self.signalled options task signals).Invariant options := by
  have hsuspended := (hinvariant.running task hrunning).interfered
    (fun hfirst hsecond haborted => hsecond (hfirst haborted)) hraised
  have hkept : Kept options { self with running := some { task with signals } } := by
    have horder := hinvariant.order
    have hraces := hinvariant.races
    rw [hrunning] at horder hraces
    exact ⟨hinvariant.raced, hinvariant.finished, horder, hraces⟩
  unfold ExperimentalSyncHttpAdapter.signalled
  dsimp only
  split
  · rename_i exchange hracing
    obtain ⟨hsound, _, waiting, hwaiting, hrequest, _, _⟩ := hinvariant.racing exchange hracing
    obtain rfl : task = waiting := Option.some.inj (hrunning.symm.trans hwaiting)
    unfold abandon
    exact hkept.settled rfl hrequest hsuspended ⟨hsound.aborted, .inl rfl, nofun⟩
  · rename_i hracing
    refine ⟨hkept, ?_, ?_, ?_⟩
    · intro other hother
      cases hother
      exact hsuspended
    · intro exchange hexchange
      cases hracing.symm.trans hexchange
    · intro other request hother hrequest
      cases hother
      exact hinvariant.waits task request hrunning hrequest

/-- Each step keeps the invariant. -/
theorem Invariant.step (hinvariant : self.Invariant options) {move : Move E S}
    (hstep : self.step options move = some next) : next.Invariant options := by
  cases move with
  | call operation =>
    cases hstep
    refine ⟨⟨hinvariant.raced, hinvariant.finished, ?_, hinvariant.races⟩, hinvariant.running, hinvariant.racing,
      hinvariant.waits⟩
    rw [List.map_append, ← List.append_assoc, hinvariant.order, List.range_succ]
    rfl
  | begin =>
    simp only [ExperimentalSyncHttpAdapter.step] at hstep
    split at hstep
    · rename_i id operation aborted tail hrunning htail
      cases hstep
      have horder := hinvariant.order
      have hraces := hinvariant.races
      rw [hrunning] at horder hraces
      have hracing : self.racing = none := by
        by_contra hracing
        obtain ⟨exchange, hexchange⟩ := Option.ne_none_iff_exists'.mp hracing
        obtain ⟨_, _, task, htask, _⟩ := hinvariant.racing exchange hexchange
        cases hrunning.symm.trans htask
      refine Rested.proceed ⟨hracing, hinvariant.raced, hinvariant.finished, ?_, ?_⟩ (operation_safe operation).stopped
      · simpa [htail] using horder
      · simpa [sync_http.races] using hraces
    · cases hstep
  | reply environment =>
    simp only [ExperimentalSyncHttpAdapter.step] at hstep
    split at hstep
    · rename_i task hrunning hracing
      cases hstep
      have horder := hinvariant.order
      have hraces := hinvariant.races
      rw [hrunning] at horder hraces
      refine Rested.resumed ⟨hracing, hinvariant.raced, hinvariant.finished, ?_, ?_⟩ (hinvariant.running task hrunning)
      · simpa using horder
      · have hnative : sync_http.races [⟨task.request, environment task.request⟩] = [] := by
          cases hrequest : task.request with
          | race request => exact absurd hracing (hinvariant.waits task request hrunning hrequest)
          | pendingProtocolJson => rfl
          | recordPushResponse _ _ => rfl
          | checkpointToken => rfl
          | applyPullResponse _ => rfl
        rw [hraces]
        unfold sync_http.races at hnative ⊢
        rw [List.filterMap_append, hnative]
        simp
    · cases hstep
  | exchange environment =>
    simp only [ExperimentalSyncHttpAdapter.step, Option.bind_eq_bind, Option.bind_eq_some_iff] at hstep
    obtain ⟨exchange, hracing, hstep⟩ := hstep
    obtain ⟨hsound, haborted, task, hrunning, hrequest, hsignal, htimer⟩ := hinvariant.racing exchange hracing
    have hanswered := hsound.answered environment
    obtain ⟨hsame, hkind⟩ := Exchange.signal_answered hsound environment
    split at hstep
    · rename_i result hpoint
      cases hstep
      have hkept : Kept options
          { self with fetches := self.fetches ++ pointFetches (exchange.answered environment).point } :=
        ⟨hinvariant.raced, hinvariant.finished, hinvariant.order, hinvariant.races⟩
      refine hkept.settled hrunning (hkind ▸ hrequest) (hinvariant.running task hrunning)
        ⟨hanswered, .inr ⟨_, hpoint⟩, ?_⟩
      rintro text rfl
      exact hpoint
    · cases hstep
      refine ⟨⟨hinvariant.raced, hinvariant.finished, hinvariant.order, hinvariant.races⟩, hinvariant.running, ?_, ?_⟩
      · intro other hother
        cases hother
        exact ⟨hanswered, hsame ▸ haborted, task, hrunning, hkind ▸ hrequest, hsignal, htimer⟩
      · intro other request hother hwaits hnone
        cases hnone
  | stray index environment =>
    simp only [ExperimentalSyncHttpAdapter.step, Option.bind_eq_bind, Option.bind_eq_some_iff] at hstep
    obtain ⟨raced, hraced, hstep⟩ := hstep
    cases hstep
    have hsound := hinvariant.raced raced (List.mem_of_getElem? hraced)
    obtain ⟨hsame, hkind⟩ := Exchange.signal_answered hsound.sound environment
    have hanswered : Raced.Sound options { raced with toExchange := raced.answered environment } := by
      refine ⟨hsound.sound.answered environment, ?_, fun text htext => ?_⟩
      · rcases hsound.ended with haborted | ⟨result, hpoint⟩
        · exact .inl (hsame ▸ haborted)
        · exact .inr ⟨result, (Exchange.answered_of_returned hpoint environment).symm ▸ hpoint⟩
      · have hpoint := hsound.answer text htext
        exact (Exchange.answered_of_returned hpoint environment).symm ▸ hpoint
    refine ⟨⟨?_, hinvariant.finished, hinvariant.order, ?_⟩, hinvariant.running, hinvariant.racing, hinvariant.waits⟩
    · intro other hother
      rcases List.mem_or_eq_of_mem_set hother with hother | rfl
      · exact hinvariant.raced other hother
      · exact hanswered
    · rw [← hinvariant.races]
      obtain ⟨hindex, rfl⟩ := List.getElem?_eq_some_iff.mp hraced
      have hset := congrArg (List.map fun raced : Raced E => (raced.request, raced.outcome))
        (List.set_getElem_self hindex)
      rw [List.map_set] at hset ⊢
      dsimp only at hset ⊢
      rw [hkind]
      exact hset
  | deadline =>
    simp only [ExperimentalSyncHttpAdapter.step, Option.bind_eq_bind, Option.bind_eq_some_iff] at hstep
    obtain ⟨task, hrunning, exchange, _, hstep⟩ := hstep
    cases hstep
    exact hinvariant.signalled hrunning id
  | abort id =>
    have htail : (self.abortQueued id).Kept options := by
      refine ⟨hinvariant.raced, hinvariant.finished, ?_, hinvariant.races⟩
      unfold abortQueued
      rw [← hinvariant.order]
      congr 1
      simp only [List.map_map]
      refine List.map_congr_left fun call _ => ?_
      simp only [Function.comp_apply]
      split <;> rfl
    simp only [ExperimentalSyncHttpAdapter.step] at hstep
    split at hstep
    · rename_i task hrunning
      split at hstep
      · cases hstep
        exact hinvariant.signalled hrunning fun _ => rfl
      · cases hstep
        exact ⟨htail, hinvariant.running, hinvariant.racing, hinvariant.waits⟩
    · cases hstep
      exact ⟨htail, hinvariant.running, hinvariant.racing, hinvariant.waits⟩

/-! ### What is fetched -/

theorem fetches_proceed {id : Nat} {operation : Operation} {calls : List (Answered (Call.Reply E S))}
    (reached : Signals × Async.Point (Thrown E) Signals (Call.Reply E S) (Result S)) :
    (self.proceed options id operation calls reached).fetches = self.fetches := by
  obtain ⟨signals, point⟩ := reached
  cases point with
  | returned result => rfl
  | waiting request resume =>
    cases request with
    | race request => exact List.append_nil _
    | pendingProtocolJson => rfl
    | recordPushResponse _ _ => rfl
    | checkpointToken => rfl
    | applyPullResponse _ => rfl

theorem fetches_settled {exchange : Exchange E} {outcome : Except (Thrown E) String} :
    (self.settled options exchange outcome).fetches = self.fetches := by
  unfold ExperimentalSyncHttpAdapter.settled
  split
  · exact fetches_proceed _
  · rfl

theorem fetches_signalled {task : Running E S} {signals : Signals} :
    (self.signalled options task signals).fetches = self.fetches := by
  unfold ExperimentalSyncHttpAdapter.signalled
  dsimp only
  split
  · exact fetches_settled
  · rfl

/-- A step calls `fetch` only when the exchange that is racing goes on, with what its codec and its token are, while the
signal of the caller is not aborted and the timer has not fired. -/
def FetchesInTime (options : ExperimentalSyncHttpOptions) (adapter : ExperimentalSyncHttpAdapter E S) (move : Move E S)
    (next : ExperimentalSyncHttpAdapter E S) : Prop :=
  next.fetches = adapter.fetches ∨ ∃ environment exchange task body token, move = .exchange environment ∧
    adapter.racing = some exchange ∧ adapter.running = some task ∧ task.request = .race exchange.request ∧
    task.signals.aborted = false ∧ task.signals.timedOut = false ∧
    Sendable options exchange.request body token (exchange.answered environment).calls ∧
    next.fetches = adapter.fetches ++ [message options exchange.request token body]

theorem Invariant.fetchesInTime (hinvariant : self.Invariant options) {move : Move E S}
    (hstep : self.step options move = some next) : FetchesInTime options self move next := by
  cases move with
  | call operation =>
    cases hstep
    exact .inl rfl
  | begin =>
    simp only [ExperimentalSyncHttpAdapter.step] at hstep
    split at hstep
    · cases hstep
      exact .inl (fetches_proceed _)
    · cases hstep
  | reply environment =>
    simp only [ExperimentalSyncHttpAdapter.step] at hstep
    split at hstep
    · cases hstep
      exact .inl (fetches_proceed _)
    · cases hstep
  | exchange environment =>
    simp only [ExperimentalSyncHttpAdapter.step, Option.bind_eq_bind, Option.bind_eq_some_iff] at hstep
    obtain ⟨exchange, hracing, hstep⟩ := hstep
    obtain ⟨hsound, _, task, hrunning, hrequest, hsignal, htimer⟩ := hinvariant.racing exchange hracing
    have hnext : next.fetches = self.fetches ++ pointFetches (exchange.answered environment).point := by
      split at hstep
      · cases hstep
        exact fetches_settled
      · cases hstep
        rfl
    rcases hsound.fetches_answered environment with hnone | ⟨_, body, token, hsendable, hfetches⟩
    · rw [hnone, List.append_nil] at hnext
      exact .inl hnext
    · rw [hfetches] at hnext
      exact .inr ⟨environment, exchange, task, body, token, rfl, hracing, hrunning, hrequest, hsignal, htimer,
        hsendable, hnext⟩
  | stray index environment =>
    simp only [ExperimentalSyncHttpAdapter.step, Option.bind_eq_bind, Option.bind_eq_some_iff] at hstep
    obtain ⟨raced, hraced, hstep⟩ := hstep
    cases hstep
    have hsound := hinvariant.raced raced (List.mem_of_getElem? hraced)
    -- an exchange that has lost its race is aborted, and one that has returned calls nothing
    have hnone : pointFetches (raced.answered environment).point = [] := by
      rcases hsound.sound.fetches_answered environment with hnone | ⟨hlive, _⟩
      · exact hnone
      · rcases hsound.ended with haborted | ⟨result, hpoint⟩
        · rw [hlive] at haborted
          cases haborted
        · rw [Exchange.answered_of_returned hpoint, hpoint]
          rfl
    exact .inl (by rw [hnone, List.append_nil])
  | deadline =>
    simp only [ExperimentalSyncHttpAdapter.step, Option.bind_eq_bind, Option.bind_eq_some_iff] at hstep
    obtain ⟨task, _, exchange, _, hstep⟩ := hstep
    cases hstep
    exact .inl fetches_signalled
  | abort id =>
    simp only [ExperimentalSyncHttpAdapter.step] at hstep
    split at hstep
    · split at hstep
      · cases hstep
        exact .inl fetches_signalled
      · cases hstep
        exact .inl rfl
    · cases hstep
      exact .inl rfl

end ExperimentalSyncHttpAdapter

/-! ### A run -/

def sample_options : ExperimentalSyncHttpOptions where
  conflictPolicy := .manual
  baseUrl := "https://sync.example.test"
  partitionId := "partition-1"
  clientId := "client-1"
  requestedScope := "all"
  subscriptionRevision := 7
  mediaType := "application/json"
  limits := ⟨64, 64⟩

/-- A sync client with two commits. -/
def sample_client : (call : Call) → call.Reply String Nat
  | .pendingProtocolJson => .ok ["first", "second"]
  | .recordPushResponse responseJson _ => .ok responseJson.length
  | .checkpointToken => .ok none
  | .applyPullResponse _ => .ok 0
  | .race _ => .error (.other "")

def sample_server : (call : ExchangeCall) → call.Reply String
  | .encode (.push request) => .ok (.text request.commitJson)
  | .encode (.pull _) => .ok (.text "pull")
  | .accessToken => .ok "token"
  | .fetch _ => .ok ⟨200, some "application/json; charset=utf-8", some "2", true⟩
  | .read => .ok [[1], [2]]
  | .cancel => .ok ()
  | .arrayBuffer => .ok [1, 2]
  | .decode _ bytes => .ok (String.join (bytes.map toString))

/-- The first commit is pushed, the second one is not answered in time, and its answer comes during the next pull. -/
def sample_moves : List (Move String Nat) :=
  [.call .push, .call .pull, .begin, .reply sample_client] ++ List.replicate 5 (.exchange sample_server) ++
    [.reply sample_client] ++ List.replicate 3 (.exchange sample_server) ++ [.deadline, .begin, .stray 1 sample_server,
      .reply sample_client, .exchange sample_server, .stray 1 sample_server, .exchange sample_server] ++
    List.replicate 3 (.exchange sample_server) ++ [.reply sample_client]

def sample_results : List (Operation × Except (Thrown String) (Result Nat)) :=
  [(.push, .error (.http ⟨"sync HTTP request timed out", .timeout, none⟩)), (.pull, .ok (.pull 0))]

/-- The late answer sends nothing and is dropped. -/
def IsSample (adapter : ExperimentalSyncHttpAdapter String Nat) : Prop :=
  adapter.fetches.length = 3 ∧ adapter.finished.map (fun done => (done.operation, done.result)) = sample_results

theorem sample_run : ∃ edges last, Run sample_options .new edges last ∧ IsSample last := by
  have htest : (Trace.execute (ExperimentalSyncHttpAdapter.step sample_options) .new sample_moves).any fun result =>
      decide (result.2.fetches.length = 3 ∧
        result.2.finished.map (fun done => (done.operation, done.result)) = sample_results) := by
    decide +kernel
  obtain ⟨⟨edges, last⟩, hexecute, hlast⟩ := Trace.exists_of_any htest
  exact ⟨edges, last, Trace.run_of_execute hexecute, hlast⟩

/-- The first push gets no answer, and a pull waits behind it. -/
theorem sample_stall : ∃ (edges : List (Trace.Edge (ExperimentalSyncHttpAdapter String Nat) (Move String Nat)))
    (last : ExperimentalSyncHttpAdapter String Nat), Run sample_options .new edges last ∧ last.racing.isSome ∧
      last.tail.length = 1 ∧ last.nextId = 2 := by
  have htest : (Trace.execute (ExperimentalSyncHttpAdapter.step sample_options) .new (sample_moves.take 7)).any
      fun result => decide (result.2.racing.isSome ∧ result.2.tail.length = 1 ∧ result.2.nextId = 2) := by
    decide +kernel
  obtain ⟨⟨edges, last⟩, hexecute, hlast⟩ := Trace.exists_of_any htest
  exact ⟨edges, last, Trace.run_of_execute hexecute, hlast⟩

/-! ### Runs -/

variable {edges : List (Trace.Edge (ExperimentalSyncHttpAdapter E S) (Move E S))}
  {first last : ExperimentalSyncHttpAdapter E S}

/-- A whole run keeps the invariant. -/
theorem ExperimentalSyncHttpAdapter.Invariant.run (hinvariant : first.Invariant options)
    (hrun : Run options first edges last) : last.Invariant options :=
  hrun.preserves (fun _ _ _ hstep hkeeps => hkeeps.step hstep) hinvariant

theorem invariant_of_run (hrun : Run options .new edges last) : last.Invariant options :=
  ExperimentalSyncHttpAdapter.invariant_new.run hrun

/-- Whatever happens to an adapter, and whatever goes on after a deadline or an abort, a message is sent only for the
exchange that the running call waits for, before its deadline and its abort, within the limit and with a token. -/
theorem fetches_in_time (hrun : Run options .new edges last) :
    ∀ edge ∈ edges, edge.source.FetchesInTime options edge.label edge.target := by
  intro edge hedge
  obtain ⟨before, after, rfl⟩ := List.append_of_mem hedge
  obtain ⟨hbefore, hstep, _⟩ := hrun.split_edge
  exact (invariant_of_run hbefore).fetchesInTime hstep

theorem late_answer_sends_nothing :
    ∃ (edges : List (Trace.Edge (ExperimentalSyncHttpAdapter String Nat) (Move String Nat)))
      (last : ExperimentalSyncHttpAdapter String Nat), Run sample_options .new edges last ∧ IsSample last ∧
      ∀ edge ∈ edges, edge.source.FetchesInTime sample_options edge.label edge.target := by
  obtain ⟨edges, last, hrun, hlast⟩ := sample_run
  exact ⟨edges, last, hrun, hlast, fetches_in_time hrun⟩

/-- The calls of an adapter run one after the other in the order in which they came. A call that has ended has pushed
the pending commits in their order, each one recorded with the answer to its own exchange before the next one is
sent, until the first failure, and has pulled from the checkpoint. Each answer is what the codec made of a bounded
response to the one message of its exchange, and each exchange was waited for by one call. -/
theorem calls_conclude (hrun : Run options .new edges last) :
    last.finished.map (·.id) ++ (last.running.map (·.id)).toList ++ last.tail.map (·.id) = List.range last.nextId ∧
      (∀ done ∈ last.finished, Concludes options done.operation done.result done.calls) ∧
      last.raced.map (fun raced => (raced.request, raced.outcome)) =
        last.finished.flatMap (fun done => races done.calls) ++
          last.running.toList.flatMap (fun task => races task.calls) ∧
      ∀ raced ∈ last.raced, ∀ text, raced.outcome = .ok text → Answers options raced.request raced.calls text := by
  have hinvariant := invariant_of_run hrun
  refine ⟨hinvariant.order, hinvariant.finished, hinvariant.races, fun raced hraced text htext => ?_⟩
  have hraced := hinvariant.raced raced hraced
  have hsound := hraced.sound
  unfold Exchange.Sound at hsound
  rw [hraced.answer text htext] at hsound
  exact hsound

theorem late_answer_is_dropped : ∃ last : ExperimentalSyncHttpAdapter String Nat, IsSample last ∧
    ∀ done ∈ last.finished, Concludes sample_options done.operation done.result done.calls := by
  obtain ⟨edges, last, hrun, hlast⟩ := sample_run
  exact ⟨last, hlast, (calls_conclude hrun).2.1⟩

/-! ### Progress -/

variable (client : ExperimentalSyncHttpAdapter E S → (call : Call) → call.Reply E S)

namespace ExperimentalSyncHttpAdapter

/-- A step without the server: a call gets its turn, the sync client replies, or a timer fires. -/
def Unaided (self : ExperimentalSyncHttpAdapter E S) (move : Move E S) : Prop :=
  move = .begin ∨ move = .reply (client self) ∨ move = .deadline

variable {self : ExperimentalSyncHttpAdapter E S} {task : Running E S}

theorem proceed_frame {id : Nat} {operation : Operation} {calls : List (Answered (Call.Reply E S))}
    (reached : Signals × Async.Point (Thrown E) Signals (Call.Reply E S) (Result S)) :
    (self.proceed options id operation calls reached).tail = self.tail ∧
      (self.proceed options id operation calls reached).nextId = self.nextId := by
  obtain ⟨signals, point⟩ := reached
  cases point with
  | returned result => exact ⟨rfl, rfl⟩
  | waiting request resume => cases request <;> exact ⟨rfl, rfl⟩

/-- The code that has run has returned, or has made a call that it may make. -/
theorem proceed_running {id : Nat} {operation : Operation} {calls : List (Answered (Call.Reply E S))}
    {signals : Signals} {point : Async.Point (Thrown E) Signals (Call.Reply E S) (Result S)}
    (hstopped : Stopped (Permitted options) Signals.Raised
      (fun result _ calls => Concludes options operation result calls) signals calls point) :
    (self.proceed options id operation calls (signals, point)).running = none ∨
      ∃ next, (self.proceed options id operation calls (signals, point)).running = some next ∧
        Descends next.request calls := by
  cases point with
  | returned result => exact .inl rfl
  | waiting request resume =>
    obtain ⟨hpermitted, _⟩ := hstopped
    refine .inr ⟨⟨id, operation, signals, calls, request, resume⟩, ?_, hpermitted.descends⟩
    cases request <;> rfl

/-- Unless it was an exchange that was answered, the next call has a lower rank. -/
theorem rank_of_descends {call request : Call} {calls : List (Answered (Call.Reply E S))} {reply : request.Reply E S}
    (hdescends : Descends call (calls ++ [⟨request, reply⟩]))
    (hreply : ∀ sent responseJson, (⟨request, reply⟩ : Answered (Call.Reply E S)) ≠ ⟨.race sent, .ok responseJson⟩) :
    call.rank < request.rank := by
  rcases hdescends calls _ rfl with ⟨sent, responseJson, hsame⟩ | hrank
  · exact absurd hsame (hreply sent responseJson)
  · exact hrank

/-- A call that goes on after a reply either ends or makes a call of a lower rank, unless an exchange was answered. -/
theorem resumed_running (reply : task.request.Reply E S) (hsuspended : task.Sound options)
    (hreply : ∀ sent responseJson,
      (⟨task.request, reply⟩ : Answered (Call.Reply E S)) ≠ ⟨.race sent, .ok responseJson⟩) :
    (self.resumed options task reply).running = none ∨
      ∃ later, (self.resumed options task reply).running = some later ∧ later.request.rank < task.request.rank := by
  have hresumed : (self.resumed options task reply).running = none ∨
      ∃ later, (self.resumed options task reply).running = some later ∧
        Descends later.request (task.calls ++ [⟨task.request, reply⟩]) :=
    proceed_running (hsuspended reply task.signals id).stopped
  rcases hresumed with hnone | ⟨later, hrunning, hdescends⟩
  · exact .inl hnone
  · exact .inr ⟨later, hrunning, rank_of_descends hdescends hreply⟩

theorem signalled_deadline {exchange : Exchange E} (hracing : self.racing = some exchange)
    (hrequest : task.request = .race exchange.request) (hsuspended : task.Sound options) :
    let next := self.signalled options task { task.signals with timedOut := true }
    next.running = none ∧ next.tail = self.tail ∧ next.nextId = self.nextId := by
  obtain ⟨id, operation, signals, calls, request, resume⟩ := task
  dsimp only at hrequest
  subst hrequest
  unfold signalled abandon settled
  rw [hracing]
  dsimp only
  refine ⟨?_, proceed_frame _⟩
  have hsound : Running.Sound options
      ⟨id, operation, { signals with timedOut := true }, calls, .race exchange.request, resume⟩ :=
    fun reply later hraised => hsuspended reply later hraised
  rcases resumed_running (.error _) hsound (fun _ _ hsame => by cases hsame) with hnone | ⟨later, _, hrank⟩
  · exact hnone
  · -- nothing may follow an exchange that fails
    have hpositive := later.request.rank_pos
    have hone : later.request.rank < 1 := hrank
    omega

/-- The running call has a step of its own: it ends, or makes a call of a lower rank. -/
theorem Invariant.advances (hinvariant : self.Invariant options)
    (hrunning : self.running = some task) :
    ∃ move next, self.Unaided client move ∧ self.step options move = some next ∧ next.tail = self.tail ∧
      next.nextId = self.nextId ∧
      (next.running = none ∨ ∃ later, next.running = some later ∧ later.request.rank < task.request.rank) := by
  have hsuspended := hinvariant.running task hrunning
  cases hracing : self.racing with
  | some exchange =>
    obtain ⟨_, _, waiting, hwaiting, hrequest, _, _⟩ := hinvariant.racing exchange hracing
    obtain rfl : task = waiting := Option.some.inj (hrunning.symm.trans hwaiting)
    obtain ⟨hnone, htail, hid⟩ := signalled_deadline hracing hrequest hsuspended
    refine ⟨.deadline, _, .inr (.inr rfl), ?_, htail, hid, .inl hnone⟩
    simp [ExperimentalSyncHttpAdapter.step, hrunning, hracing]
  | none =>
    refine ⟨.reply (client self), self.resumed options task (client self task.request), .inr (.inl rfl), ?_,
      (proceed_frame _).1, (proceed_frame _).2, resumed_running _ hsuspended fun sent responseJson hsame => ?_⟩
    · simp [ExperimentalSyncHttpAdapter.step, hrunning, hracing]
    · exact hinvariant.waits task sent hrunning (congrArg Answered.request hsame) hracing

/-- A running call takes at most as many steps of its own as its rank says. -/
theorem Invariant.ends (hinvariant : self.Invariant options) {n : Nat}
    (hrunning : ∀ task, self.running = some task → task.request.rank ≤ n) :
    ∃ edges next, Run options self edges next ∧ (∀ edge ∈ edges, edge.source.Unaided client edge.label) ∧
      edges.length ≤ n ∧ next.running = none ∧ next.tail = self.tail ∧ next.nextId = self.nextId := by
  induction n generalizing self with
  | zero =>
    refine ⟨[], self, .nil _, by simp, by simp, ?_, rfl, rfl⟩
    cases hself : self.running with
    | none => rfl
    | some task =>
      have hpositive := task.request.rank_pos
      have hrank := hrunning task hself
      omega
  | succ n ih =>
    cases hself : self.running with
    | none => exact ⟨[], self, .nil _, by simp, by simp, hself, rfl, rfl⟩
    | some task =>
      obtain ⟨move, next, hmove, hstep, htail, hid, hnext⟩ := hinvariant.advances client hself
      have hlower : ∀ later, next.running = some later → later.request.rank ≤ n := by
        intro later hlater
        have hrank := hrunning task hself
        rcases hnext with hnone | ⟨other, hother, hless⟩
        · cases hnone.symm.trans hlater
        · obtain rfl : other = later := Option.some.inj (hother.symm.trans hlater)
          omega
      obtain ⟨edges, last, hrun, hunaided, hlength, hlast⟩ := ih (hinvariant.step hstep) hlower
      refine ⟨_, last, .cons hstep hrun, List.forall_mem_cons.mpr ⟨hmove, hunaided⟩, ?_, hlast.1, ?_, ?_⟩
      · simpa using hlength
      · exact hlast.2.1.trans htail
      · exact hlast.2.2.trans hid

/-- However the sync client replies, each call that waits gets its turn and ends. -/
theorem Invariant.drains (hinvariant : self.Invariant options) (hrunning : self.running = none) :
    ∃ edges next, Run options self edges next ∧ (∀ edge ∈ edges, edge.source.Unaided client edge.label) ∧
      edges.length ≤ 4 * self.tail.length ∧ next.running = none ∧ next.tail = [] ∧ next.nextId = self.nextId := by
  induction htail : self.tail generalizing self with
  | nil => exact ⟨[], self, .nil _, by simp, by simp, hrunning, htail, rfl⟩
  | cons queued tail ih =>
    obtain ⟨id, operation, aborted⟩ := queued
    have hstep : ∃ begun, self.step options .begin = some begun ∧ begun.tail = tail ∧ begun.nextId = self.nextId := by
      simp only [ExperimentalSyncHttpAdapter.step, hrunning, htail]
      exact ⟨_, rfl, (proceed_frame _).1, (proceed_frame _).2⟩
    obtain ⟨begun, hstep, htail', hid⟩ := hstep
    have hbegun := hinvariant.step hstep
    obtain ⟨edges, next, hrun, hunaided, hlength, hnone, hkept, hsame⟩ := hbegun.ends client
      fun task _ => task.request.rank_le
    obtain ⟨others, last, hrest, hmoves, hbound, hlast, hempty, hfinal⟩ :=
      ih (hbegun.run hrun) hnone (hkept.trans htail')
    refine ⟨_, last, .cons hstep (hrun.append hrest), ?_, ?_, hlast, hempty, ?_⟩
    · simp only [List.forall_mem_cons, List.forall_mem_append]
      exact ⟨.inl rfl, hunaided, hmoves⟩
    · simp only [List.length_cons, List.length_append]
      omega
    · exact hfinal.trans (hsame.trans hid)

end ExperimentalSyncHttpAdapter

/-- A server that never answers blocks no call. From every state that an adapter reaches, turns, replies of the sync
client, whatever they are, and deadlines are enough for every call that was made to end, in at most four steps for each
call that waits and three for the one that runs. -/
theorem stalls_never_block (hrun : Run options .new edges last) :
    ∃ moves next, Run options last moves next ∧ (∀ edge ∈ moves, edge.source.Unaided client edge.label) ∧
      moves.length ≤ 3 + 4 * last.tail.length ∧ next.finished.map (·.id) = List.range last.nextId := by
  have hinvariant := invariant_of_run hrun
  obtain ⟨first, idle, hfirst, hunaided, hlength, hidle, htail, hid⟩ := hinvariant.ends client
    fun task _ => task.request.rank_le
  have hkeeps := hinvariant.run hfirst
  obtain ⟨rest, next, hrest, hmoves, hbound, hnone, hempty, hsame⟩ := hkeeps.drains client hidle
  have hlast := hkeeps.run hrest
  refine ⟨first ++ rest, next, hfirst.append hrest, List.forall_mem_append.mpr ⟨hunaided, hmoves⟩, ?_, ?_⟩
  · rw [htail] at hbound
    simp only [List.length_append]
    omega
  · have horder := hlast.order
    rw [hnone, hempty, hsame, hid] at horder
    simpa using horder

theorem stalled_push_ends : ∃ (last next : ExperimentalSyncHttpAdapter String Nat)
    (moves : List (Trace.Edge (ExperimentalSyncHttpAdapter String Nat) (Move String Nat))),
      last.racing.isSome ∧ last.tail.length = 1 ∧ Run sample_options last moves next ∧
      (∀ edge ∈ moves, edge.source.Unaided (fun _ => sample_client) edge.label) ∧ moves.length ≤ 7 ∧
      next.finished.map (·.id) = [0, 1] := by
  obtain ⟨edges, last, hrun, hracing, htail, hid⟩ := sample_stall
  obtain ⟨moves, next, hmoves, hunaided, hlength, hends⟩ := stalls_never_block (fun _ => sample_client) hrun
  rw [htail] at hlength
  rw [hid] at hends
  exact ⟨last, next, moves, hracing, htail, hmoves, hunaided, hlength, hends⟩

end react_native_surrealdb.sync_http
