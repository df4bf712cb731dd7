import SurrealSync.Basic.Result

/-- A cooperative task over a state it owns while it runs. Between two awaits it works without
interruption; at an await it is suspended until a service replies. -/
inductive Async (ε σ : Type) {Request : Type} (Reply : Request → Type) (α : Type) : Type where
  | done (result : Except ε α)
  | work (update : σ → σ) (next : σ → Async ε σ Reply α)
  | await (request : Request) (resume : Reply request → Async ε σ Reply α)

namespace Async

variable {ε σ τ Request : Type} {Reply : Request → Type} {α β : Type}

def bind : Async ε σ Reply α → (α → Async ε σ Reply β) → Async ε σ Reply β
  | done (.ok a), f => f a
  | done (.error e), _ => done (.error e)
  | work update next, f => work update fun s => bind (next s) f
  | await request resume, f => await request fun reply => bind (resume reply) f

instance : Monad (Async ε σ Reply) where
  pure a := done (.ok a)
  bind := bind

/-- A result computed without an await; an error returns early. -/
def lift (result : Except ε α) : Async ε σ Reply α := done result

def throw (error : ε) : Async ε σ Reply α := done (.error error)

def get : Async ε σ Reply σ := work id fun s => done (.ok s)

def modify (update : σ → σ) : Async ε σ Reply Unit := work update fun _ => done (.ok ())

def call (request : Request) : Async ε σ Reply (Reply request) := await request fun reply => done (.ok reply)

/-- What a view of the state gives; an error returns early. -/
def read (view : σ → Except ε α) : Async ε σ Reply α := work id fun s => done (view s)

def mapError {ε' : Type} (f : ε → ε') : Async ε σ Reply α → Async ε' σ Reply α
  | done result => done (result.mapError f)
  | work update next => work update fun s => mapError f (next s)
  | await request resume => await request fun reply => mapError f (resume reply)

/-- Where a task stops: it has returned, or it waits for a reply. -/
inductive Point (ε σ : Type) {Request : Type} (Reply : Request → Type) (α : Type) : Type where
  | returned (result : Except ε α)
  | waiting (request : Request) (resume : Reply request → Async ε σ Reply α)

/-- Works until the task stops. -/
def settle : Async ε σ Reply α → σ → σ × Point ε σ Reply α
  | done result, s => (s, .returned result)
  | work update next, s => settle (next (update s)) (update s)
  | await request resume, s => (s, .waiting request resume)

theorem settle_bind_of_error {x : Async ε σ Reply α} {f : α → Async ε σ Reply β} {s t : σ} {e : ε}
    (hsettle : x.settle s = (t, .returned (.error e))) : (x >>= f).settle s = (t, .returned (.error e)) := by
  change (bind x f).settle s = _
  induction x generalizing s with
  | done result =>
    cases result with
    | ok a => cases hsettle
    | error other =>
      cases hsettle
      rfl
  | work update next ih => exact ih (update s) hsettle
  | await request resume => cases hsettle

theorem settle_mapError_of_error {ε' : Type} {f : ε → ε'} {x : Async ε σ Reply α} {s t : σ} {e : ε}
    (hsettle : x.settle s = (t, .returned (.error e))) :
    (mapError f x).settle s = (t, .returned (.error (f e))) := by
  induction x generalizing s with
  | done result =>
    cases hsettle
    rfl
  | work update next ih => exact ih (update s) hsettle
  | await request resume => cases hsettle

/-- A task that returns an error at once and leaves the state as it is. -/
def Refuses (x : Async ε σ Reply α) (s : σ) : Prop := ∃ e, x.settle s = (s, .returned (.error e))

theorem Refuses.bind {x : Async ε σ Reply α} {s : σ} (hrefuses : Refuses x s) (f : α → Async ε σ Reply β) :
    Refuses (x >>= f) s := by
  obtain ⟨e, hsettle⟩ := hrefuses
  exact ⟨e, settle_bind_of_error hsettle⟩

theorem refuses_lift_bind {result : Except ε α} {f : α → Async ε σ Reply β} {s : σ}
    (hok : ∀ a, result = .ok a → Refuses (f a) s) : Refuses (lift result >>= f) s := by
  cases result with
  | ok a => exact hok a rfl
  | error e => exact ⟨e, rfl⟩

theorem refuses_read_bind {view : σ → Except ε α} {f : α → Async ε σ Reply β} {s : σ}
    (hok : ∀ a, view s = .ok a → Refuses (f a) s) : Refuses (read view >>= f) s := by
  change Refuses (lift (view s) >>= f) s
  exact refuses_lift_bind hok

theorem Refuses.mapError {ε' : Type} {x : Async ε σ Reply α} {s : σ} (hrefuses : Refuses x s) (f : ε → ε') :
    Refuses (mapError f x) s := by
  obtain ⟨e, hsettle⟩ := hrefuses
  exact ⟨f e, settle_mapError_of_error hsettle⟩

/-! ### Safe tasks -/

/-- What surrounds a task: how the service may answer a task that goes on from a state, how others may change the
state while the task is suspended, and what must hold where the task may be dropped. -/
structure Context (σ τ : Type) {Request : Type} (Reply : Request → Type) where
  serves : τ → (request : Request) → Reply request → σ → τ → Prop
  interferes : σ → σ → Prop
  droppable : Request → σ → τ → Prop

variable (context : Context σ τ Reply)

/-- Wherever the task is suspended it may be dropped, and when it returns the postcondition holds. -/
def Safe (post : Except ε α → σ → τ → Prop) : Async ε σ Reply α → σ → τ → Prop
  | done result, s, t => post result s t
  | work update next, s, t => Safe post (next (update s)) (update s) t
  | await request resume, s, t => context.droppable request s t ∧
    ∀ reply s' t', context.serves t request reply s' t' → context.interferes s s' → Safe post (resume reply) s' t'

variable {context} {post : Except ε α → σ → τ → Prop} {s : σ} {t : τ}

@[simp]
theorem safe_pure {a : α} : Safe context post (pure a : Async ε σ Reply α) s t ↔ post (.ok a) s t := Iff.rfl

@[simp]
theorem safe_lift {result : Except ε α} : Safe context post (lift result : Async ε σ Reply α) s t ↔ post result s t :=
  Iff.rfl

@[simp]
theorem safe_throw {error : ε} :
    Safe context post (throw error : Async ε σ Reply α) s t ↔ post (.error error) s t := Iff.rfl

@[simp]
theorem safe_get {post : Except ε σ → σ → τ → Prop} :
    Safe context post (get : Async ε σ Reply σ) s t ↔ post (.ok s) s t := Iff.rfl

@[simp]
theorem safe_modify {post : Except ε Unit → σ → τ → Prop} {update : σ → σ} :
    Safe context post (modify update : Async ε σ Reply Unit) s t ↔ post (.ok ()) (update s) t := Iff.rfl

@[simp]
theorem safe_read {view : σ → Except ε α} :
    Safe context post (read view : Async ε σ Reply α) s t ↔ post (view s) s t := Iff.rfl

theorem safe_call {request : Request} {post : Except ε (Reply request) → σ → τ → Prop} :
    Safe context post (call request : Async ε σ Reply (Reply request)) s t ↔
      context.droppable request s t ∧ ∀ reply s' t', context.serves t request reply s' t' → context.interferes s s' →
        post (.ok reply) s' t' := Iff.rfl

/-- What the rest of a task must satisfy after its first part. -/
def continued (context : Context σ τ Reply) (post : Except ε β → σ → τ → Prop) (f : α → Async ε σ Reply β) :
    Except ε α → σ → τ → Prop
  | .ok a, s, t => Safe context post (f a) s t
  | .error e, s, t => post (.error e) s t

theorem safe_bind {post : Except ε β → σ → τ → Prop} {x : Async ε σ Reply α} {f : α → Async ε σ Reply β} :
    Safe context post (x >>= f) s t ↔ Safe context (continued context post f) x s t := by
  change Safe context post (bind x f) s t ↔ _
  induction x generalizing s t with
  | done result => cases result <;> rfl
  | work update next ih => exact ih (update s)
  | await request resume ih =>
    simp only [bind, Safe]
    refine and_congr_right fun _ => forall_congr' fun reply => ?_
    exact forall₄_congr fun s' t' _ _ => ih reply

@[simp]
theorem continued_ok {post : Except ε β → σ → τ → Prop} {f : α → Async ε σ Reply β} {a : α} :
    continued context post f (.ok a) s t ↔ Safe context post (f a) s t := Iff.rfl

@[simp]
theorem continued_error {post : Except ε β → σ → τ → Prop} {f : α → Async ε σ Reply β} {e : ε} :
    continued context post f (.error e) s t ↔ post (.error e) s t := Iff.rfl

theorem safe_mapError {ε' : Type} {f : ε → ε'} {post : Except ε' α → σ → τ → Prop} {x : Async ε σ Reply α} :
    Safe context post (mapError f x) s t ↔ Safe context (fun result => post (result.mapError f)) x s t := by
  induction x generalizing s t with
  | done result => rfl
  | work update next ih => exact ih (update s)
  | await request resume ih =>
    simp only [mapError, Safe]
    refine and_congr_right fun _ => forall_congr' fun reply => ?_
    exact forall₄_congr fun s' t' _ _ => ih reply

theorem Safe.imp {post' : Except ε α → σ → τ → Prop} {x : Async ε σ Reply α} (hsafe : Safe context post x s t)
    (himp : ∀ result s t, post result s t → post' result s t) : Safe context post' x s t := by
  induction x generalizing s t with
  | done result => exact himp result s t hsafe
  | work update next ih => exact ih (update s) hsafe
  | await request resume ih =>
    refine ⟨hsafe.1, fun reply s' t' hserves hinterferes => ?_⟩
    exact ih reply (hsafe.2 reply s' t' hserves hinterferes)

/-- The postcondition where a safe task returns, and its safety where it waits. -/
def Reached (context : Context σ τ Reply) (post : Except ε α → σ → τ → Prop) (s : σ) (t : τ) :
    Point ε σ Reply α → Prop
  | .returned result => post result s t
  | .waiting request resume => Safe context post (await request resume) s t

theorem Safe.settle {x : Async ε σ Reply α} (hsafe : Safe context post x s t) :
    Reached context post (x.settle s).1 t (x.settle s).2 := by
  induction x generalizing s with
  | done result => exact hsafe
  | work update next ih => exact ih (update s) hsafe
  | await request resume => exact hsafe

/-- What others do to the state adds up, and does not take away that a suspended task may be dropped. -/
structure Context.Stable (context : Context σ τ Reply) : Prop where
  trans : ∀ {first second third}, context.interferes first second → context.interferes second third →
    context.interferes first third
  droppable : ∀ {request first second t}, context.droppable request first t → context.interferes first second →
    context.droppable request second t

theorem Safe.interfered (hstable : context.Stable) {request : Request} {resume : Reply request → Async ε σ Reply α}
    (hsafe : Safe context post (await request resume) s t) {s' : σ} (hinterferes : context.interferes s s') :
    Safe context post (await request resume) s' t :=
  ⟨hstable.droppable hsafe.1 hinterferes,
    fun reply s'' t' hserves hlater => hsafe.2 reply s'' t' hserves (hstable.trans hinterferes hlater)⟩

end Async
