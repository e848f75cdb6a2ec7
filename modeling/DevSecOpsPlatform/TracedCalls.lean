/-!
# Calls to the outside, with cleanup

Code that calls out leaves a trace of its calls and ends with a value or an exception:
`try ... finally` and `except` are those of `ExceptT` over a state. A generator with one
`yield` is a computation that ends in a `Suspended` one, and `withContext` is the `with`
block of such a generator under `contextlib.contextmanager`.
-/

namespace DevSecOpsPlatform.TracedCalls

variable {κ ε ε' ρ α β : Type}

/-- The calls so far, and a value or an exception. -/
abbrev Calls (κ ε : Type) := ExceptT ε (StateM (List κ))

namespace Calls

def run (p : Calls κ ε α) (calls : List κ) : Except ε α × List κ := StateT.run (ExceptT.run p) calls

/-- The call `c`, which the outside answers. -/
def call (c : κ) (answer : Except ε α) : Calls κ ε α :=
  ExceptT.mk fun calls => (answer, calls ++ [c])

/-- How a computation ends, as a value. -/
def attempt (p : Calls κ ε α) : Calls κ ε' (Except ε α) :=
  ExceptT.mk fun calls => (.ok (p.run calls).1, (p.run calls).2)

/-- `try: p except Exception as exc: raise f(exc) from exc`. -/
def reraise (f : ε → ε') (p : Calls κ ε α) : Calls κ ε' α := ExceptT.adapt f p

/-- The `yield` of a generator, when it goes on. -/
def resumed : Option ε → Calls κ ε Unit
  | none => pure ()
  | some e => throw e

@[simp] theorem run_pure (a : α) (calls : List κ) :
    run (pure a : Calls κ ε α) calls = (.ok a, calls) := rfl

@[simp] theorem run_throw (e : ε) (calls : List κ) :
    run (throw e : Calls κ ε α) calls = (.error e, calls) := rfl

@[simp] theorem run_call (c : κ) (answer : Except ε α) (calls : List κ) :
    run (call c answer) calls = (answer, calls ++ [c]) := rfl

@[simp] theorem run_resumed (thrown : Option ε) (calls : List κ) :
    run (resumed thrown : Calls κ ε Unit) calls = (match thrown with
      | none => .ok ()
      | some e => .error e, calls) := by
  cases thrown <;> rfl

theorem run_bind (p : Calls κ ε α) (f : α → Calls κ ε β) (calls : List κ) :
    run (p >>= f) calls = match run p calls with
      | (.ok a, calls') => run (f a) calls'
      | (.error e, calls') => (.error e, calls') := by
  change (ExceptT.bindCont f (run p calls).1) (run p calls).2 = _
  rcases run p calls with ⟨o, calls'⟩
  cases o <;> rfl

@[simp] theorem run_attempt (p : Calls κ ε α) (calls : List κ) :
    run (attempt p : Calls κ ε' (Except ε α)) calls = (.ok (run p calls).1, (run p calls).2) := rfl

@[simp] theorem run_reraise (f : ε → ε') (p : Calls κ ε α) (calls : List κ) :
    run (reraise f p) calls = ((run p calls).1.mapError f, (run p calls).2) := rfl

/-- What the cleanup raises takes the place of the outcome of the block. -/
theorem run_finally (p : Calls κ ε α) (cleanup : Calls κ ε Unit) (calls : List κ) :
    run (tryFinally p cleanup) calls =
      let block := run p calls
      let end_ := run cleanup block.2
      (match end_.1 with
        | .ok () => block.1
        | .error e => .error e, end_.2) := by
  rcases hblock : run p calls with ⟨o, calls'⟩
  rcases hend : run cleanup calls' with ⟨o', calls''⟩
  unfold run ExceptT.run StateT.run at *
  simp only [tryFinally, tryFinally', Functor.map, ExceptT.map, ExceptT.mk, bind, StateT.bind,
    hblock]
  cases o <;> simp only [hend] <;> cases o' <;> rfl

end Calls

/-- A generator that has stopped at its `yield`: it goes on after it, or an exception is raised
there. -/
structure Suspended (κ ε ε' ρ : Type) where
  yielded : ρ
  resume : Option ε → Calls κ ε' Unit

/-- `with generator() as value: return body(value)`; nothing is returned when the generator
swallows what the body raised. -/
def withContext (generator : Calls κ ε' (Suspended κ ε ε' ρ)) (body : ρ → Calls κ ε α) :
    Calls κ ε' (Option α) := do
  let suspended ← generator
  let outcome ← (body suspended.yielded).attempt
  match outcome with
  | .ok a =>
    suspended.resume none
    return some a
  | .error e =>
    suspended.resume (some e)
    return none

theorem run_withContext {generator : Calls κ ε' (Suspended κ ε ε' ρ)} {body : ρ → Calls κ ε α}
    {suspended : Suspended κ ε ε' ρ} {calls calls' : List κ}
    (h : generator.run calls = (.ok suspended, calls')) :
    (withContext generator body).run calls =
      let block := (body suspended.yielded).run calls'
      match block.1 with
      | .ok a => (suspended.resume none >>= fun _ => pure (some a)).run block.2
      | .error e => (suspended.resume (some e) >>= fun _ => pure none).run block.2 := by
  unfold withContext
  rw [Calls.run_bind, h]
  dsimp only
  rw [Calls.run_bind, Calls.run_attempt]
  cases ((body suspended.yielded).run calls').1 <;> rfl

theorem run_withContext_error {generator : Calls κ ε' (Suspended κ ε ε' ρ)}
    {body : ρ → Calls κ ε α} {calls calls' : List κ} {e : ε'}
    (h : generator.run calls = (.error e, calls')) :
    (withContext generator body).run calls = (.error e, calls') := by
  rw [withContext, Calls.run_bind, h]

end DevSecOpsPlatform.TracedCalls
