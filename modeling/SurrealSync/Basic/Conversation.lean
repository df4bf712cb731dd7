import SurrealSync.Basic.Async

namespace Async

variable {ε ε' σ τ Request : Type} {Reply : Request → Type} {α β : Type}

/-! ### Handlers -/

def tryCatch : Async ε σ Reply α → (ε → Async ε' σ Reply α) → Async ε' σ Reply α
  | done (.ok a), _ => done (.ok a)
  | done (.error e), handle => handle e
  | work update next, handle => work update fun s => tryCatch (next s) handle
  | await request resume, handle => await request fun reply => tryCatch (resume reply) handle

/-- What a handled task must satisfy: its postcondition, or the safety of its handler. -/
def handled (context : Context σ τ Reply) (post : Except ε' α → σ → τ → Prop) (handle : ε → Async ε' σ Reply α) :
    Except ε α → σ → τ → Prop
  | .ok a, s, t => post (.ok a) s t
  | .error e, s, t => Safe context post (handle e) s t

variable {context : Context σ τ Reply}

theorem safe_tryCatch {post : Except ε' α → σ → τ → Prop} {x : Async ε σ Reply α} {handle : ε → Async ε' σ Reply α}
    {s : σ} {t : τ} : Safe context post (tryCatch x handle) s t ↔ Safe context (handled context post handle) x s t := by
  induction x generalizing s t with
  | done result => cases result <;> rfl
  | work update next ih => exact ih (update s)
  | await request resume ih =>
    simp only [tryCatch, Safe]
    refine and_congr_right fun _ => forall_congr' fun reply => ?_
    exact forall₄_congr fun s' t' _ _ => ih reply

/-! ### Tasks that only read -/

/-- A task that reads its state and never changes it. -/
def Reads : Async ε σ Reply α → Prop
  | done _ => True
  | work update next => update = id ∧ ∀ s, Reads (next s)
  | await _ resume => ∀ reply, Reads (resume reply)

theorem Reads.bind {x : Async ε σ Reply α} {f : α → Async ε σ Reply β} (hx : x.Reads) (hf : ∀ a, (f a).Reads) :
    (x >>= f).Reads := by
  change (Async.bind x f).Reads
  induction x with
  | done result =>
    cases result with
    | ok a => exact hf a
    | error e => trivial
  | work update next ih => exact ⟨hx.1, fun s => ih s (hx.2 s)⟩
  | await request resume ih => exact fun reply => ih reply (hx reply)

theorem Reads.tryCatch {x : Async ε σ Reply α} {handle : ε → Async ε' σ Reply α} (hx : x.Reads)
    (hhandle : ∀ e, (handle e).Reads) : (Async.tryCatch x handle).Reads := by
  induction x with
  | done result =>
    cases result with
    | ok a => trivial
    | error e => exact hhandle e
  | work update next ih => exact ⟨hx.1, fun s => ih s (hx.2 s)⟩
  | await request resume ih => exact fun reply => ih reply (hx reply)

/-- It leaves its state as it was, and what it waits to do reads only. -/
theorem Reads.settle {x : Async ε σ Reply α} (hx : x.Reads) (s : σ) :
    (x.settle s).1 = s ∧
      ∀ request resume, (x.settle s).2 = .waiting request resume → ∀ reply, (resume reply).Reads := by
  induction x generalizing s with
  | done result => exact ⟨rfl, fun _ _ hpoint => nomatch hpoint⟩
  | work update next ih =>
    obtain ⟨rfl, hnext⟩ := hx
    exact ih s (hnext s) s
  | await request resume =>
    refine ⟨rfl, fun _ _ hpoint => ?_⟩
    cases hpoint
    exact hx

/-! ### Tasks and their calls -/

/-- A call of a task and the reply to it. -/
structure Answered (Reply : Request → Type) where
  request : Request
  reply : Reply request

/-- A task amid its calls so far: it makes allowed calls only, and whatever is replied, the call joins the others. -/
def conversing (allowed : Request → σ → List (Answered Reply) → Prop) (interferes : σ → σ → Prop) :
    Context σ (List (Answered Reply)) Reply where
  serves calls request reply _ later := later = calls ++ [⟨request, reply⟩]
  interferes := interferes
  droppable := allowed

variable {allowed : Request → σ → List (Answered Reply) → Prop} {interferes : σ → σ → Prop}
  {post : Except ε α → σ → List (Answered Reply) → Prop} {s : σ} {calls : List (Answered Reply)}

theorem safe_conversing_await {request : Request} {resume : Reply request → Async ε σ Reply α} :
    Safe (conversing allowed interferes) post (await request resume) s calls ↔ allowed request s calls ∧
      ∀ reply s', interferes s s' → Safe (conversing allowed interferes) post (resume reply) s'
        (calls ++ [⟨request, reply⟩]) := by
  refine and_congr_right fun _ => forall_congr' fun reply => forall_congr' fun s' => ?_
  exact ⟨fun hsafe hinterferes => hsafe _ rfl hinterferes, fun hsafe _ hcalls hinterferes => hcalls ▸ hsafe hinterferes⟩

/-- A task that waits for the reply to a call: however it is answered, it goes on safely. -/
def Suspended (allowed : Request → σ → List (Answered Reply) → Prop) (interferes : σ → σ → Prop)
    (post : Except ε α → σ → List (Answered Reply) → Prop) (request : Request)
    (resume : Reply request → Async ε σ Reply α) (s : σ) (calls : List (Answered Reply)) : Prop :=
  ∀ reply s', interferes s s' →
    Safe (conversing allowed interferes) post (resume reply) s' (calls ++ [⟨request, reply⟩])

theorem Suspended.interfered (htrans : ∀ {first second third}, interferes first second → interferes second third →
    interferes first third) {request : Request} {resume : Reply request → Async ε σ Reply α}
    (hsuspended : Suspended allowed interferes post request resume s calls) {s' : σ} (hinterferes : interferes s s') :
    Suspended allowed interferes post request resume s' calls :=
  fun reply s'' hlater => hsuspended reply s'' (htrans hinterferes hlater)

/-- Where a task stops: its calls then meet the postcondition, or it makes an allowed call and waits. -/
def Stopped (allowed : Request → σ → List (Answered Reply) → Prop) (interferes : σ → σ → Prop)
    (post : Except ε α → σ → List (Answered Reply) → Prop) (s : σ) (calls : List (Answered Reply)) :
    Point ε σ Reply α → Prop
  | .returned result => post result s calls
  | .waiting request resume => allowed request s calls ∧ Suspended allowed interferes post request resume s calls

theorem Safe.stopped {x : Async ε σ Reply α} (hsafe : Safe (conversing allowed interferes) post x s calls) :
    Stopped allowed interferes post (x.settle s).1 calls (x.settle s).2 := by
  have hreached := hsafe.settle
  cases hpoint : (x.settle s).2 with
  | returned result =>
    rw [hpoint] at hreached
    exact hreached
  | waiting request resume =>
    rw [hpoint] at hreached
    exact safe_conversing_await.mp hreached

end Async
