import SurrealSync.Basic.Machine
import SurrealSync.Basic.Trace

namespace surrealdb_rn_core

/-! ### The handles and the database -/

/-- What the engine is asked to do with a transaction. -/
inductive Finish where
  | commit
  | cancel
deriving DecidableEq

/-- `inner` and `locked` are the slot of the engine's transaction and its lock; `finished` is what the engine was asked
to do with the transaction. -/
structure SurrealTransaction where
  inner : Bool := true
  locked : Bool := false
  closed : Bool := false
  finished : List Finish := []
deriving DecidableEq

namespace SurrealTransaction

/-- `self.closed.store(true)`. -/
def mark_closed (transaction : SurrealTransaction) : SurrealTransaction := { transaction with closed := true }

def lock (transaction : SurrealTransaction) : SurrealTransaction := { transaction with locked := true }

def unlock (transaction : SurrealTransaction) : SurrealTransaction := { transaction with locked := false }

/-- The transaction is taken out of its slot and finished, under the guard of the slot. -/
def take (transaction : SurrealTransaction) (finish : Finish) : SurrealTransaction :=
  { transaction with inner := false, locked := true, finished := transaction.finished ++ [finish] }

end SurrealTransaction

structure LiveQuery where
  stream : Bool := true
  locked : Bool := false
  response : Bool := true
  client : Bool := true
  closed : Bool := false
deriving DecidableEq

namespace LiveQuery

def request_close (live_query : LiveQuery) : LiveQuery := { live_query with closed := true }

/-- The rest of `close_inner`, once the stream's lock is there. -/
def take (live_query : LiveQuery) : LiveQuery :=
  { live_query with stream := false, response := false, client := false }

def lock (live_query : LiveQuery) : LiveQuery := { live_query with locked := true }

def unlock (live_query : LiveQuery) : LiveQuery := { live_query with locked := false }

/-- The stream has ended: `next` closes the handle. -/
def ended (live_query : LiveQuery) : LiveQuery := { live_query with stream := false, locked := false, closed := true }

end LiveQuery

/-- The client slot and the two registries of handles. -/
structure SurrealDatabase where
  inner : Bool
  session_generation : UInt64
  live_queries : List Nat
  transactions : List Nat
  closed : Bool
deriving DecidableEq

/-- Whether the generation could be advanced; when it cannot, the database is closed. -/
def SurrealDatabase.reserve_session_change (self : SurrealDatabase) : SurrealDatabase × Bool :=
  match self.session_generation.checked_add 1 with
  | some session_generation => ({ self with session_generation }, true)
  | none => ({ self with closed := true }, false)

/-! ### The calls, by what they wait for -/

inductive BeginTransaction where
  | entered
  /-- `self.inner.read().await` -/
  | reading
  /-- `client.begin().await` -/
  | beginning
  /-- `self.transactions.lock()` -/
  | registering (transaction : Nat)
  /-- `self.inner.lock().await` of `cancel_inner`, on the handle that is refused -/
  | locking (transaction : Nat)
  /-- `transaction.cancel().await` -/
  | cancelling (transaction : Nat)
  | returned
deriving DecidableEq

inductive StartLiveQuery where
  | entered
  /-- `self.inner.read().await` -/
  | reading
  /-- `client.query(surql).bind(variables).await` -/
  | querying
  /-- `self.live_queries.lock()` -/
  | registering (live_query : Nat)
  | returned
deriving DecidableEq

/-- A call on a handle: it waits for the lock of the slot, then for the engine. -/
inductive Use where
  | entered
  | locking
  | working
  | returned
deriving DecidableEq

inductive Call where
  | begin_transaction (at_ : BeginTransaction)
  | live_query (at_ : StartLiveQuery)
  | query (transaction : Nat) (at_ : Use)
  | finish (transaction : Nat) (finish : Finish) (at_ : Use)
  | next (live_query : Nat) (at_ : Use)
  | close_live_query (live_query : Nat) (at_ : Use)
deriving DecidableEq

/-- `SurrealDatabase::close`; `session` is its session result. -/
inductive Close where
  | entered
  /-- `self.journal_lifecycle.write().await` -/
  | locking (session : Bool)
  /-- `self.inner.write().await` -/
  | clearing (session : Bool)
  /-- `self.live_queries.lock()` -/
  | draining_live_queries (session : Bool)
  /-- `self.stream.lock().await` of the first of these live queries -/
  | closing (session : Bool) (live_query : Nat) (live_queries : List Nat)
  /-- `self.transactions.lock()` -/
  | draining_transactions (session : Bool)
  /-- `self.inner.lock().await` of the first of these transactions -/
  | taking (session : Bool) (transaction : Nat) (transactions : List Nat)
  /-- `transaction.cancel().await` -/
  | cancelling (session : Bool) (transaction : Nat) (transactions : List Nat)
  /-- `tokio::task::yield_now().await` -/
  | yielding (session : Bool)
  | returned (session : Bool)
  /-- A failed cancel has returned early. -/
  | failed
deriving DecidableEq

/-- The database with every handle that was made, the calls, and the handles that callers hold. -/
structure World where
  database : SurrealDatabase
  transactions : List SurrealTransaction
  live_queries : List LiveQuery
  calls : List Call
  close : Close
  held_transactions : List Nat
  held_live_queries : List Nat
deriving DecidableEq

/-- A database that was just connected. -/
def World.connected : World where
  database := ⟨true, 0, [], [], false⟩
  transactions := []
  live_queries := []
  calls := []
  close := .entered
  held_transactions := []
  held_live_queries := []

namespace World

variable (world : World)

def update_transaction (index : Nat) (update : SurrealTransaction → SurrealTransaction) : World :=
  { world with transactions := world.transactions.modify index update }

def update_live_query (index : Nat) (update : LiveQuery → LiveQuery) : World :=
  { world with live_queries := world.live_queries.modify index update }

/-- The call with this index goes on. -/
def resume (index : Nat) (call : Call) : World := { world with calls := world.calls.set index call }

/-! ### The segments between the awaits -/

def begin_transaction (index : Nat) (answer : Bool) : BeginTransaction → Option World
  | .entered =>
    if world.database.closed then some (world.resume index (.begin_transaction .returned))
    else some (world.resume index (.begin_transaction .reading))
  | .reading =>
    if world.database.inner then some (world.resume index (.begin_transaction .beginning))
    else some (world.resume index (.begin_transaction .returned))
  | .beginning =>
    if answer then
      some { world.resume index (.begin_transaction (.registering world.transactions.length)) with
        transactions := world.transactions ++ [{}] }
    else some (world.resume index (.begin_transaction .returned))
  | .registering transaction =>
    if world.database.closed then
      some ((world.update_transaction transaction .mark_closed).resume index (.begin_transaction (.locking transaction)))
    else
      some { world.resume index (.begin_transaction .returned) with
        database := { world.database with transactions := world.database.transactions ++ [transaction] }
        held_transactions := world.held_transactions ++ [transaction] }
  | .locking transaction => do
    let slot ← world.transactions[transaction]?
    if slot.locked then none
    else if slot.inner then
      some ((world.update_transaction transaction (·.take .cancel)).resume index
        (.begin_transaction (.cancelling transaction)))
    else some (world.resume index (.begin_transaction .returned))
  | .cancelling transaction =>
    some ((world.update_transaction transaction .unlock).resume index (.begin_transaction .returned))
  | .returned => none

/-- The registry takes the handle whether or not the database was closed meanwhile. -/
def live_query (index : Nat) (answer : Bool) : StartLiveQuery → Option World
  | .entered =>
    if world.database.closed then some (world.resume index (.live_query .returned))
    else some (world.resume index (.live_query .reading))
  | .reading =>
    if world.database.inner ∧ answer then some (world.resume index (.live_query .querying))
    else some (world.resume index (.live_query .returned))
  | .querying =>
    if answer then
      some { world.resume index (.live_query (.registering world.live_queries.length)) with
        live_queries := world.live_queries ++ [{}] }
    else some (world.resume index (.live_query .returned))
  | .registering live_query =>
    some { world.resume index (.live_query .returned) with
      database := { world.database with live_queries := world.database.live_queries ++ [live_query] }
      held_live_queries := world.held_live_queries ++ [live_query] }
  | .returned => none

def query (index transaction : Nat) : Use → Option World
  | .entered => do
    let slot ← world.transactions[transaction]?
    if slot.closed then some (world.resume index (.query transaction .returned))
    else some (world.resume index (.query transaction .locking))
  | .locking => do
    let slot ← world.transactions[transaction]?
    if slot.locked then none
    else if slot.inner then
      some ((world.update_transaction transaction .lock).resume index (.query transaction .working))
    else some (world.resume index (.query transaction .returned))
  | .working => some ((world.update_transaction transaction .unlock).resume index (.query transaction .returned))
  | .returned => none

/-- `commit` and `cancel`. -/
def finish (index transaction : Nat) (finish : Finish) : Use → Option World
  | .entered =>
    some ((world.update_transaction transaction .mark_closed).resume index (.finish transaction finish .locking))
  | .locking => do
    let slot ← world.transactions[transaction]?
    if slot.locked then none
    else if slot.inner then
      some ((world.update_transaction transaction (·.take finish)).resume index (.finish transaction finish .working))
    else some (world.resume index (.finish transaction finish .returned))
  | .working =>
    some ((world.update_transaction transaction .unlock).resume index (.finish transaction finish .returned))
  | .returned => none

/-- `answer` tells whether the stream goes on, or the wait was ended by the close signal. -/
def next (index live_query : Nat) (answer : Bool) : Use → Option World
  | .entered => do
    let slot ← world.live_queries[live_query]?
    if slot.closed then some (world.resume index (.next live_query .returned))
    else some (world.resume index (.next live_query .locking))
  | .locking => do
    let slot ← world.live_queries[live_query]?
    if slot.locked then none
    else if slot.closed ∨ ¬ slot.stream then some (world.resume index (.next live_query .returned))
    else some ((world.update_live_query live_query .lock).resume index (.next live_query .working))
  | .working =>
    if answer then some ((world.update_live_query live_query .unlock).resume index (.next live_query .returned))
    else some ((world.update_live_query live_query .ended).resume index (.next live_query .returned))
  | .returned => none

def close_live_query (index live_query : Nat) : Use → Option World
  | .entered =>
    some ((world.update_live_query live_query .request_close).resume index (.close_live_query live_query .locking))
  | .locking => do
    let slot ← world.live_queries[live_query]?
    if slot.locked then none
    else some ((world.update_live_query live_query .take).resume index (.close_live_query live_query .returned))
  | .working => none
  | .returned => none

def advance (index : Nat) (answer : Bool) : Call → Option World
  | .begin_transaction at_ => world.begin_transaction index answer at_
  | .live_query at_ => world.live_query index answer at_
  | .query transaction at_ => world.query index transaction at_
  | .finish transaction finish at_ => world.finish index transaction finish at_
  | .next live_query at_ => world.next index live_query answer at_
  | .close_live_query live_query at_ => world.close_live_query index live_query at_

/-- `for live_query in live_queries { live_query.close_inner().await; }`, up to the next lock. -/
def close_live_queries (session : Bool) : List Nat → World
  | [] => { world with close := .draining_transactions session }
  | live_query :: live_queries =>
    { world.update_live_query live_query .request_close with close := .closing session live_query live_queries }

/-- `for transaction in transactions { transaction.cancel_inner().await?; }`, up to the next lock. -/
def cancel_transactions (session : Bool) : List Nat → World
  | [] => { world with close := .yielding session }
  | transaction :: transactions =>
    { world.update_transaction transaction .mark_closed with close := .taking session transaction transactions }

def closing (answer : Bool) : Option World :=
  match world.close with
  | .entered =>
    let (database, session) := world.database.reserve_session_change
    some { world with database := { database with closed := true }, close := .locking session }
  | .locking session =>
    let (database, reserved) := if session then world.database.reserve_session_change else (world.database, false)
    some { world with database, close := .clearing reserved }
  | .clearing session =>
    some { world with database := { world.database with inner := false }, close := .draining_live_queries session }
  | .draining_live_queries session =>
    some (close_live_queries { world with database := { world.database with live_queries := [] } } session
      world.database.live_queries)
  | .closing session live_query live_queries => do
    let slot ← world.live_queries[live_query]?
    if slot.locked then none
    else some ((world.update_live_query live_query .take).close_live_queries session live_queries)
  | .draining_transactions session =>
    some (cancel_transactions { world with database := { world.database with transactions := [] } } session
      world.database.transactions)
  | .taking session transaction transactions => do
    let slot ← world.transactions[transaction]?
    if slot.locked then none
    else if slot.inner then
      some { world.update_transaction transaction (·.take .cancel) with
        close := .cancelling session transaction transactions }
    else some (world.cancel_transactions session transactions)
  | .cancelling session transaction transactions =>
    if answer then some ((world.update_transaction transaction .unlock).cancel_transactions session transactions)
    else some { world.update_transaction transaction .unlock with close := .failed }
  | .yielding session => some { world with close := .returned session }
  | .returned _ => none
  | .failed => none

end World

/-! ### Interleavings -/

/-- A caller begins a call, a call goes on after what it waited for (`answer` is the engine's), or `close` does. -/
inductive Move where
  | begin_transaction
  | live_query
  | query (transaction : Nat)
  | finish (transaction : Nat) (finish : Finish)
  | next (live_query : Nat)
  | close_live_query (live_query : Nat)
  | advance (index : Nat) (answer : Bool)
  | close (answer : Bool)
deriving DecidableEq

namespace World

variable (world : World)

def call (call : Call) : World := { world with calls := world.calls ++ [call] }

/-- Calls on a handle are made by those that hold it. -/
def step : Move → Option World
  | .begin_transaction => some (world.call (.begin_transaction .entered))
  | .live_query => some (world.call (.live_query .entered))
  | .query transaction =>
    if transaction ∈ world.held_transactions then some (world.call (.query transaction .entered)) else none
  | .finish transaction finish =>
    if transaction ∈ world.held_transactions then some (world.call (.finish transaction finish .entered)) else none
  | .next live_query =>
    if live_query ∈ world.held_live_queries then some (world.call (.next live_query .entered)) else none
  | .close_live_query live_query =>
    if live_query ∈ world.held_live_queries then some (world.call (.close_live_query live_query .entered)) else none
  | .advance index answer => world.calls[index]?.bind (world.advance index answer)
  | .close answer => world.closing answer

end World

def Interleaving : World → Move → World → Prop := fun world move next => world.step move = some next

end surrealdb_rn_core
