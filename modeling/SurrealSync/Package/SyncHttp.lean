import SurrealSync.Basic.Conversation
import SurrealSync.Basic.Decimal
import SurrealSync.Basic.Result
import SurrealSync.Basic.Trace

open Except (refuse)

namespace react_native_surrealdb.sync_http

inductive ExperimentalSyncHttpErrorKind where
  | aborted
  | timeout
  | network
  | http
  | content_type
  | body_limit
  | protocol
deriving DecidableEq

structure ExperimentalSyncHttpError where
  message : String
  kind : ExperimentalSyncHttpErrorKind
  status : Option Nat := none
deriving DecidableEq

/-- What is thrown: an error of the adapter, or whatever other code throws. -/
inductive Thrown (E : Type) where
  | http (error : ExperimentalSyncHttpError)
  | other (error : E)
deriving DecidableEq

inductive ExperimentalConflictPolicy where
  | manual
  | preferServerV1
deriving DecidableEq

structure ExperimentalSyncHttpLimits where
  maxRequestBytes : Nat
  maxResponseBytes : Nat

/-- The adapter's own fields; the trailing slashes of the base URL are gone. -/
structure ExperimentalSyncHttpOptions where
  conflictPolicy : ExperimentalConflictPolicy
  baseUrl : String
  partitionId : String
  clientId : String
  requestedScope : String
  subscriptionRevision : Nat
  mediaType : String
  limits : ExperimentalSyncHttpLimits

inductive ExperimentalSyncHttpBody where
  | text (text : String)
  | ArrayBuffer (bytes : List UInt8)
deriving DecidableEq

def bodyBytes : ExperimentalSyncHttpBody → Nat
  | .text text => text.utf8ByteSize
  | .ArrayBuffer bytes => bytes.length

structure ExperimentalSyncPushRequest where
  partitionId : String
  clientId : String
  commitJson : String
deriving DecidableEq

structure ExperimentalSyncPullRequest where
  partitionId : String
  clientId : String
  checkpoint : Option String
  requestedScope : String
  subscriptionRevision : Nat
deriving DecidableEq

inductive SyncRequest where
  | push (request : ExperimentalSyncPushRequest)
  | pull (request : ExperimentalSyncPullRequest)
deriving DecidableEq

def SyncRequest.path : SyncRequest → String
  | .push _ => "/v1/sync/push"
  | .pull _ => "/v1/sync/pull"

/-- The arguments of `fetch`. -/
structure RequestInit where
  url : String
  method : String
  Accept : String
  Authorization : String
  ContentType : String
  body : ExperimentalSyncHttpBody
deriving DecidableEq

/-- The headers are those that are looked at; `readable` is whether there is a body to read from. -/
structure Response where
  status : Nat
  contentType : Option String
  contentLength : Option String
  readable : Bool
deriving DecidableEq

/-- What `trim` removes. -/
def isWhiteSpace (c : Char) : Bool :=
  [0x9, 0xa, 0xb, 0xc, 0xd, 0x20, 0xa0, 0x1680, 0x2028, 0x2029, 0x202f, 0x205f, 0x3000, 0xfeff].contains c.toNat ||
    (0x2000 ≤ c.toNat && c.toNat ≤ 0x200a)

def trim (text : List Char) : List Char :=
  ((text.dropWhile isWhiteSpace).reverse.dropWhile isWhiteSpace).reverse

def Response.mediaType (response : Response) : Option (List Char) :=
  response.contentType.map fun header => trim (header.toList.takeWhile (· ≠ ';'))

/-! ### One exchange -/

variable {E S : Type}

/-- What an exchange calls: the push or the pull function of the codec, as the request is, and `fetch`. The chunks
that are read end where the stream does, or with the one that is too much. -/
inductive ExchangeCall where
  | encode (request : SyncRequest)
  | accessToken
  | fetch (message : RequestInit)
  | read
  | cancel
  | arrayBuffer
  | decode (request : SyncRequest) (bytes : List UInt8)

abbrev ExchangeCall.Value : ExchangeCall → Type
  | .encode _ => ExperimentalSyncHttpBody
  | .accessToken => String
  | .fetch _ => Response
  | .read => List (List UInt8)
  | .cancel => Unit
  | .arrayBuffer => List UInt8
  | .decode .. => String

abbrev ExchangeCall.Reply (E : Type) (call : ExchangeCall) : Type := Except (Thrown E) call.Value

/-- The signal of the controller of an exchange. -/
structure AbortSignal where
  aborted : Bool

abbrev Exchanging (E : Type) : Type → Type := Async (Thrown E) AbortSignal (ExchangeCall.Reply E)

namespace Exchanging

def call (call : ExchangeCall) : Exchanging E call.Value := do Async.lift (← Async.call call)

def check (refused : Prop) [Decidable refused] (message : String) (kind : ExperimentalSyncHttpErrorKind)
    (status : Option Nat := none) : Exchanging E Unit :=
  Async.lift (refuse refused (.http ⟨message, kind, status⟩))

/-- The `catch` of `#post`. -/
def rescue {α : Type} (message : String) (kind : ExperimentalSyncHttpErrorKind) (part : Exchanging E α) :
    Exchanging E α :=
  Async.tryCatch part fun error => do
    let signal ← Async.get
    check (signal.aborted = true) "sync HTTP request was aborted" .aborted
    match error with
    | .http error => Async.throw (.http error)
    | .other _ => Async.throw (.http ⟨message, kind, none⟩)

end Exchanging

def checkContentLength (response : Response) (maximum : Nat) : Exchanging E Unit :=
  match response.contentLength with
  | none => pure ()
  | some declared =>
    match Decimal.digits declared.toList with
    | none => Async.throw (.http ⟨"sync HTTP response has an invalid content length", .body_limit, none⟩)
    | some length =>
      Exchanging.check (length > maximum) "sync HTTP response exceeds the configured byte limit" .body_limit

/-- A response that cannot be read in chunks must have declared its length. -/
def readResponse (response : Response) (maximum : Nat) : Exchanging E (List UInt8) :=
  match response.readable with
  | true => do
    let chunks ← Exchanging.call .read
    if chunks.flatten.length > maximum then
      let _ ← Exchanging.call .cancel
      Async.throw (.http ⟨"sync HTTP response exceeds the configured byte limit", .body_limit, none⟩)
    else return chunks.flatten
  | false => do
    Exchanging.check (response.contentLength = none)
      "sync HTTP response cannot be bounded before allocation" .body_limit
    let bytes ← Exchanging.call .arrayBuffer
    Exchanging.check (bytes.length > maximum) "sync HTTP response exceeds the configured byte limit" .body_limit
    return bytes

def boundedResponseBytes (response : Response) (maximum : Nat) : Exchanging E (List UInt8) := do
  checkContentLength response maximum
  readResponse response maximum

variable (options : ExperimentalSyncHttpOptions)

def message (request : SyncRequest) (token : String) (body : ExperimentalSyncHttpBody) : RequestInit where
  url := options.baseUrl ++ request.path
  method := "POST"
  Accept := options.mediaType
  Authorization := "Bearer " ++ token
  ContentType := options.mediaType
  body := body

/-- What `#post` does with a response. -/
def receive (request : SyncRequest) (response : Response) : Exchanging E String := do
  Exchanging.check (response.status ≠ 200) ("sync HTTP request failed with status " ++ response.status.repr) .http
    (some response.status)
  Exchanging.check (response.mediaType ≠ some options.mediaType.toList)
    "sync HTTP response has an unexpected content type" .content_type
  let bytes ← boundedResponseBytes response options.limits.maxResponseBytes
  Exchanging.call (.decode request bytes)

def post (request : SyncRequest) (body : ExperimentalSyncHttpBody) : Exchanging E String := do
  let token ← Exchanging.call .accessToken
  Exchanging.check (trim token.toList = []) "sync access token is empty" .protocol
  Exchanging.check (bodyBytes body > options.limits.maxRequestBytes)
    "sync HTTP request exceeds the configured byte limit" .body_limit
  let signal ← Async.get
  Exchanging.check (signal.aborted = true) "sync HTTP request was aborted" .aborted
  let response ← (Exchanging.call (.fetch (message options request token body))).rescue
    "sync HTTP network request failed" .network
  (receive options request response).rescue "sync HTTP response failed protocol decoding" .protocol

/-- The operation that `#postPush` and `#postPull` give to `#withDeadline`. -/
def exchange (request : SyncRequest) : Exchanging E String := do
  post options request (← Exchanging.call (.encode request))

/-! ### Operations -/

/-- What an operation of the adapter calls: the sync client, with the function for the policy that a push response is
recorded under, and the race between an exchange and the abort of its controller. -/
inductive Call where
  | pendingProtocolJson
  | recordPushResponse (responseJson : String) (policy : ExperimentalConflictPolicy)
  | checkpointToken
  | applyPullResponse (responseJson : String)
  | race (request : SyncRequest)

abbrev Call.Value (S : Type) : Call → Type
  | .pendingProtocolJson => List String
  | .recordPushResponse .. => S
  | .checkpointToken => Option String
  | .applyPullResponse _ => S
  | .race _ => String

abbrev Call.Reply (E S : Type) (call : Call) : Type := Except (Thrown E) (call.Value S)

/-- Whether the caller's signal is aborted, and whether the timer of the last exchange has fired. -/
structure Signals where
  aborted : Bool
  timedOut : Bool

abbrev Operating (E S : Type) : Type → Type := Async (Thrown E) Signals (Call.Reply E S)

namespace Operating

def call (call : Call) : Operating E S (call.Value S) := do Async.lift (← Async.call call)

def check (refused : Bool) (message : String) (kind : ExperimentalSyncHttpErrorKind) : Operating E S Unit :=
  Async.lift (refuse (refused = true) (.http ⟨message, kind, none⟩))

end Operating

def withDeadline (request : SyncRequest) : Operating E S String := do
  let signals ← Async.get
  Operating.check signals.aborted "sync HTTP request was aborted" .aborted
  Async.modify fun signals => { signals with timedOut := false }
  Async.tryCatch (Operating.call (.race request)) fun error => do
    let signals ← Async.get
    Operating.check signals.timedOut "sync HTTP request timed out" .timeout
    Operating.check signals.aborted "sync HTTP request was aborted" .aborted
    Async.throw error

def pushRequest (commitJson : String) : SyncRequest := .push ⟨options.partitionId, options.clientId, commitJson⟩

/-- The loop of `#push`. -/
def pushCommits : List String → List S → Operating E S (List S)
  | [], statuses => pure statuses
  | commit :: commits, statuses => do
    let responseJson ← withDeadline (pushRequest options commit)
    let status : S ← Operating.call (.recordPushResponse responseJson options.conflictPolicy)
    pushCommits commits (statuses ++ [status])

def push : Operating E S (List S) := do pushCommits options (← Operating.call .pendingProtocolJson) []

def pullRequest (checkpoint : Option String) : SyncRequest :=
  .pull ⟨options.partitionId, options.clientId, checkpoint, options.requestedScope, options.subscriptionRevision⟩

def pullFrom (checkpoint : Option String) : Operating E S S := do
  let responseJson ← withDeadline (pullRequest options checkpoint)
  Operating.call (.applyPullResponse responseJson)

def pull (forceReset : Bool) : Operating E S S :=
  match forceReset with
  | true => pullFrom options none
  | false => do pullFrom options (← Operating.call .checkpointToken)

inductive Operation where
  | push
  | pull
  | bootstrapReadCoverage
  | syncOnce
deriving DecidableEq

inductive Result (S : Type) where
  | push (statuses : List S)
  | pull (status : S)
  | syncOnce (push : List S) (pull : S)
deriving DecidableEq

def Operation.run : Operation → Operating E S (Result S)
  | .push => do return .push (← sync_http.push options)
  | .pull => do return .pull (← sync_http.pull options false)
  | .bootstrapReadCoverage => do return .pull (← sync_http.pull options true)
  | .syncOnce => do
    let statuses ← sync_http.push options
    return .syncOnce statuses (← sync_http.pull options false)

/-! ### The adapter -/

structure Exchange (E : Type) where
  request : SyncRequest
  signal : AbortSignal
  calls : List (Async.Answered (ExchangeCall.Reply E))
  point : Async.Point (Thrown E) AbortSignal (ExchangeCall.Reply E) String

/-- An exchange whose race is over. When it has lost, it may still be waiting for something. -/
structure Raced (E : Type) extends Exchange E where
  outcome : Except (Thrown E) String

/-- A call of the adapter that waits for the calls before it. -/
structure Queued where
  id : Nat
  operation : Operation
  aborted : Bool

structure Running (E S : Type) where
  id : Nat
  operation : Operation
  signals : Signals
  calls : List (Async.Answered (Call.Reply E S))
  request : Call
  resume : request.Reply E S → Operating E S (Result S)

structure Finished (E S : Type) where
  id : Nat
  operation : Operation
  calls : List (Async.Answered (Call.Reply E S))
  result : Except (Thrown E) (Result S)

/-- The calls of the adapter are numbered. `tail` is the chain of those that wait, `racing` the exchange that the
running one waits for, and `fetches` what `fetch` was called with. -/
structure ExperimentalSyncHttpAdapter (E S : Type) where
  nextId : Nat
  tail : List Queued
  running : Option (Running E S)
  racing : Option (Exchange E)
  raced : List (Raced E)
  finished : List (Finished E S)
  fetches : List RequestInit

def ExchangeCall.fetches : ExchangeCall → List RequestInit
  | .fetch message => [message]
  | .encode _ | .accessToken | .read | .cancel | .arrayBuffer | .decode .. => []

def pointFetches : Async.Point (Thrown E) AbortSignal (ExchangeCall.Reply E) String → List RequestInit
  | .waiting call _ => call.fetches
  | .returned _ => []

namespace Exchange

def opened (request : SyncRequest) : Exchange E :=
  let (signal, point) := (exchange options request).settle ⟨false⟩
  ⟨request, signal, [], point⟩

/-- The exchange goes on with the reply to its call. -/
def answered (self : Exchange E) (environment : (call : ExchangeCall) → call.Reply E) : Exchange E :=
  match self.point with
  | .returned _ => self
  | .waiting call resume =>
    let (signal, point) := (resume (environment call)).settle self.signal
    ⟨self.request, signal, self.calls ++ [⟨call, environment call⟩], point⟩

def aborted (self : Exchange E) : Exchange E := { self with signal := ⟨true⟩ }

end Exchange

namespace ExperimentalSyncHttpAdapter

def new : ExperimentalSyncHttpAdapter E S := ⟨0, [], none, none, [], [], []⟩

variable (self : ExperimentalSyncHttpAdapter E S)

/-- The code of an operation has run until it returns or makes a call. -/
def proceed (id : Nat) (operation : Operation) (calls : List (Async.Answered (Call.Reply E S))) :
    Signals × Async.Point (Thrown E) Signals (Call.Reply E S) (Result S) → ExperimentalSyncHttpAdapter E S
  | (_, .returned result) =>
    { self with running := none, finished := self.finished ++ [⟨id, operation, calls, result⟩] }
  | (signals, .waiting (.race request) resume) =>
    let opened := Exchange.opened options request
    { self with
      running := some ⟨id, operation, signals, calls, .race request, resume⟩
      racing := some opened
      fetches := self.fetches ++ pointFetches opened.point }
  | (signals, .waiting request resume) => { self with running := some ⟨id, operation, signals, calls, request, resume⟩ }

def resumed (task : Running E S) (reply : task.request.Reply E S) : ExperimentalSyncHttpAdapter E S :=
  self.proceed options task.id task.operation (task.calls ++ [⟨task.request, reply⟩])
    ((task.resume reply).settle task.signals)

/-- An exchange that nothing waits for any more. -/
def leave (exchange : Exchange E) (outcome : Except (Thrown E) String) : ExperimentalSyncHttpAdapter E S :=
  { self with racing := none, raced := self.raced ++ [Raced.mk exchange outcome] }

/-- The race is over, and its operation goes on. -/
def settled (exchange : Exchange E) (outcome : Except (Thrown E) String) : ExperimentalSyncHttpAdapter E S :=
  match self.running with
  | some ⟨id, operation, signals, calls, .race request, resume⟩ =>
    (self.leave exchange outcome).resumed options ⟨id, operation, signals, calls, .race request, resume⟩ outcome
  | _ => self.leave exchange outcome

/-- The controller is aborted: the race is lost. -/
def abandon (exchange : Exchange E) : ExperimentalSyncHttpAdapter E S :=
  self.settled options exchange.aborted (.error (.http ⟨"sync HTTP request was aborted", .aborted, none⟩))

def signalled (task : Running E S) (signals : Signals) : ExperimentalSyncHttpAdapter E S :=
  let self := { self with running := some { task with signals } }
  match self.racing with
  | some exchange => self.abandon options exchange
  | none => self

end ExperimentalSyncHttpAdapter

/-- What happens to an adapter: it is called, a call gets its turn, the sync client or the other side of an exchange
replies (also to an exchange whose race is over), a timer fires, or a caller's signal is aborted. -/
inductive Move (E S : Type) where
  | call (operation : Operation)
  | begin
  | reply (environment : (call : Call) → call.Reply E S)
  | exchange (environment : (call : ExchangeCall) → call.Reply E)
  | stray (index : Nat) (environment : (call : ExchangeCall) → call.Reply E)
  | deadline
  | abort (id : Nat)

namespace ExperimentalSyncHttpAdapter

variable (self : ExperimentalSyncHttpAdapter E S)

/-- The signal of a call that waits is aborted. -/
def abortQueued (id : Nat) : ExperimentalSyncHttpAdapter E S :=
  { self with tail := self.tail.map fun call => if call.id = id then { call with aborted := true } else call }

def step : Move E S → Option (ExperimentalSyncHttpAdapter E S)
  | .call operation =>
    some { self with nextId := self.nextId + 1, tail := self.tail ++ [⟨self.nextId, operation, false⟩] }
  | .begin =>
    match self.running, self.tail with
    | none, ⟨id, operation, aborted⟩ :: tail =>
      some (proceed options { self with tail } id operation [] ((operation.run options).settle ⟨aborted, false⟩))
    | _, _ => none
  | .reply environment =>
    match self.running, self.racing with
    | some task, none => some (self.resumed options task (environment task.request))
    | _, _ => none
  | .exchange environment => do
    let exchange ← self.racing
    let exchange := exchange.answered environment
    let self := { self with fetches := self.fetches ++ pointFetches exchange.point }
    match exchange.point with
    | .returned result => return self.settled options exchange result
    | .waiting .. => return { self with racing := some exchange }
  | .stray index environment => do
    let raced ← self.raced[index]?
    let exchange := raced.answered environment
    return { self with
      raced := self.raced.set index { raced with toExchange := exchange }
      fetches := self.fetches ++ pointFetches exchange.point }
  | .deadline => do
    let task ← self.running
    let _ ← self.racing
    return self.signalled options task { task.signals with timedOut := true }
  | .abort id =>
    match self.running with
    | some task =>
      if task.id = id then some (self.signalled options task { task.signals with aborted := true })
      else some (self.abortQueued id)
    | none => some (self.abortQueued id)

end ExperimentalSyncHttpAdapter

abbrev Run : ExperimentalSyncHttpAdapter E S → List (Trace.Edge (ExperimentalSyncHttpAdapter E S) (Move E S)) →
    ExperimentalSyncHttpAdapter E S → Prop :=
  Trace.Run fun self move next => self.step options move = some next

end react_native_surrealdb.sync_http
