import Mathlib.Order.Defs.Unbundled
import Mathlib.Data.Nat.Notation

/-!
# Programs cut at their statements

A program over a shared store is a tree: it has returned, it has raised, or it is
about to execute one statement. A statement writes the store in one indivisible
step, and the rest of the program depends on the store the statement saw. Running a
program alone executes its statements one after the other; `runWith` lets an
environment change the store before each of them. Python's exceptions are the
`raise` leaves, caught by `tryCatch`.
-/

namespace DevSecOpsPlatform.StatementPrograms

inductive Program (σ ε α : Type) where
  | ret (value : α)
  | raise (error : ε)
  | stmt (write : σ → σ) (next : σ → Program σ ε α)

namespace Program

variable {σ ε α β : Type}

def bind : Program σ ε α → (α → Program σ ε β) → Program σ ε β
  | ret a, f => f a
  | raise e, _ => raise e
  | stmt w n, f => stmt w (fun s => (n s).bind f)

def tryCatch : Program σ ε α → (ε → Program σ ε α) → Program σ ε α
  | ret a, _ => ret a
  | raise e, h => h e
  | stmt w n, h => stmt w (fun s => (n s).tryCatch h)

/-- The program with its exception, if it raises one, as a value. -/
def attempt : Program σ ε α → Program σ ε (Except ε α)
  | ret a => ret (.ok a)
  | raise e => ret (.error e)
  | stmt w n => stmt w (fun s => (n s).attempt)

instance : Monad (Program σ ε) where
  pure := ret
  bind := bind

instance : MonadExceptOf ε (Program σ ε) where
  throw := raise
  tryCatch := tryCatch

/-- One statement. When it fails it leaves the store as it was. -/
def statement (f : σ → Except ε (α × σ)) : Program σ ε α :=
  stmt (fun s => match f s with
      | .ok (_, t) => t
      | .error _ => s)
    (fun s => match f s with
      | .ok (a, _) => ret a
      | .error e => raise e)

def query (f : σ → α) : Program σ ε α := stmt id (fun s => ret (f s))

def execute (f : σ → σ) : Program σ ε Unit := stmt f (fun _ => ret ())

def ofExcept : Except ε α → Program σ ε α
  | .ok a => ret a
  | .error e => raise e

@[simp] theorem pure_eq (a : α) : (pure a : Program σ ε α) = ret a := rfl

@[simp] theorem throw_eq (e : ε) : (throw e : Program σ ε α) = raise e := rfl

@[simp] theorem ret_bind (a : α) (f : α → Program σ ε β) :
    (ret a : Program σ ε α) >>= f = f a := rfl

@[simp] theorem raise_bind (e : ε) (f : α → Program σ ε β) :
    (raise e : Program σ ε α) >>= f = raise e := rfl

@[simp] theorem stmt_bind (w : σ → σ) (n : σ → Program σ ε α) (f : α → Program σ ε β) :
    stmt w n >>= f = stmt w (fun s => n s >>= f) := rfl

@[simp] theorem query_bind (g : σ → α) (f : α → Program σ ε β) :
    query g >>= f = stmt id (fun s => f (g s)) := rfl

@[simp] theorem execute_bind (w : σ → σ) (f : Unit → Program σ ε β) :
    execute w >>= f = stmt w (fun _ => f ()) := rfl

@[simp] theorem ofExcept_ok (a : α) : (ofExcept (.ok a) : Program σ ε α) = ret a := rfl

@[simp] theorem ofExcept_error (e : ε) : (ofExcept (.error e) : Program σ ε α) = raise e := rfl

theorem bind_ret (p : Program σ ε α) : p >>= ret = p := by
  induction p with
  | ret a => rfl
  | raise e => rfl
  | stmt w n ih => simpa using funext ih

theorem bind_assoc {γ : Type} (p : Program σ ε α) (f : α → Program σ ε β)
    (g : β → Program σ ε γ) : (p >>= f) >>= g = p >>= fun a => f a >>= g := by
  induction p with
  | ret a => rfl
  | raise e => rfl
  | stmt w n ih => simpa using funext ih

instance : LawfulMonad (Program σ ε) :=
  LawfulMonad.mk' _ bind_ret (fun _ _ => rfl) bind_assoc

/-! ### Running alone -/

/-- The outcome and the final store of a program that runs alone. -/
def run : Program σ ε α → σ → Except ε α × σ
  | ret a, s => (.ok a, s)
  | raise e, s => (.error e, s)
  | stmt w n, s => (n s).run (w s)

@[simp] theorem run_ret (a : α) (s : σ) : (ret a : Program σ ε α).run s = (.ok a, s) := rfl

@[simp] theorem run_raise (e : ε) (s : σ) : (raise e : Program σ ε α).run s = (.error e, s) := rfl

@[simp] theorem run_stmt (w : σ → σ) (n : σ → Program σ ε α) (s : σ) :
    (stmt w n).run s = (n s).run (w s) := rfl

theorem run_bind (p : Program σ ε α) (f : α → Program σ ε β) (s : σ) :
    (p >>= f).run s = match p.run s with
      | (.ok a, t) => (f a).run t
      | (.error e, t) => (.error e, t) := by
  induction p generalizing s with
  | ret a => rfl
  | raise e => rfl
  | stmt w n ih => exact ih s (w s)

/-- A sequence that returns is a first part that returned and a rest that did. -/
theorem run_bind_ok {p : Program σ ε α} {f : α → Program σ ε β} {s : σ} {b : β}
    (h : ((p >>= f).run s).1 = .ok b) :
    ∃ a t, p.run s = (.ok a, t) ∧ (p >>= f).run s = (f a).run t ∧ ((f a).run t).1 = .ok b := by
  rw [run_bind] at h ⊢
  rcases hp : p.run s with ⟨o, t⟩
  rw [hp] at h
  cases o with
  | ok a => exact ⟨a, t, rfl, rfl, h⟩
  | error e => simp at h

theorem run_statement (f : σ → Except ε (α × σ)) (s : σ) :
    (statement f).run s = match f s with
      | .ok (a, t) => (.ok a, t)
      | .error e => (.error e, s) := by
  simp only [statement, run_stmt]
  cases f s <;> rfl

theorem run_statement_bind (f : σ → Except ε (α × σ)) (g : α → Program σ ε β) (s : σ) :
    (statement f >>= g).run s = match f s with
      | .ok (a, t) => (g a).run t
      | .error e => (.error e, s) := by
  rw [run_bind, run_statement]
  cases f s <;> rfl

theorem run_attempt (p : Program σ ε α) (s : σ) :
    p.attempt.run s = (.ok (p.run s).1, (p.run s).2) := by
  induction p generalizing s with
  | ret a => rfl
  | raise e => rfl
  | stmt w n ih => exact ih s (w s)

/-- The outcome and the final store when the environment applies `env n` just before
the statement numbered `n`. -/
def runWith (env : ℕ → σ → σ) : Program σ ε α → σ → Except ε α × σ
  | ret a, s => (.ok a, s)
  | raise e, s => (.error e, s)
  | stmt w n, s => (n (env 0 s)).runWith (fun i => env (i + 1)) (w (env 0 s))

@[simp] theorem runWith_ret (env : ℕ → σ → σ) (a : α) (s : σ) :
    (ret a : Program σ ε α).runWith env s = (.ok a, s) := rfl

@[simp] theorem runWith_raise (env : ℕ → σ → σ) (e : ε) (s : σ) :
    (raise e : Program σ ε α).runWith env s = (.error e, s) := rfl

@[simp] theorem runWith_stmt (env : ℕ → σ → σ) (w : σ → σ) (n : σ → Program σ ε α) (s : σ) :
    (stmt w n).runWith env s =
      (n (env 0 s)).runWith (fun i => env (i + 1)) (w (env 0 s)) := rfl

theorem runWith_statement_bind (env : ℕ → σ → σ) (f : σ → Except ε (α × σ))
    (g : α → Program σ ε β) (s : σ) :
    (statement f >>= g).runWith env s = match f (env 0 s) with
      | .ok (a, t) => (g a).runWith (fun i => env (i + 1)) t
      | .error e => (.error e, env 0 s) := by
  simp only [statement, stmt_bind, runWith_stmt]
  cases f (env 0 s) <;> rfl

/-- An environment that changes nothing is no environment. -/
theorem runWith_id (p : Program σ ε α) (s : σ) : p.runWith (fun _ => id) s = p.run s := by
  induction p generalizing s with
  | ret a => rfl
  | raise e => rfl
  | stmt w n ih => exact ih s (w s)

/-! ### One statement at a time -/

def isStmt : Program σ ε α → Bool
  | stmt _ _ => true
  | _ => false

/-- The store after the next statement. -/
def write : Program σ ε α → σ → σ
  | stmt w _, s => w s
  | _, s => s

/-- What is left after the next statement, which sees the store `s`. -/
def next : Program σ ε α → σ → Program σ ε α
  | stmt _ n, s => n s
  | p, _ => p

@[simp] theorem isStmt_stmt (w : σ → σ) (n : σ → Program σ ε α) : (stmt w n).isStmt = true := rfl

@[simp] theorem isStmt_ret (a : α) : (ret a : Program σ ε α).isStmt = false := rfl

@[simp] theorem isStmt_raise (e : ε) : (raise e : Program σ ε α).isStmt = false := rfl

@[simp] theorem write_stmt (w : σ → σ) (n : σ → Program σ ε α) (s : σ) :
    (stmt w n).write s = w s := rfl

@[simp] theorem next_stmt (w : σ → σ) (n : σ → Program σ ε α) (s : σ) :
    (stmt w n).next s = n s := rfl

@[simp] theorem isStmt_statement_bind (f : σ → Except ε (α × σ)) (g : α → Program σ ε β) :
    (statement f >>= g).isStmt = true := rfl

theorem write_statement_bind (f : σ → Except ε (α × σ)) (g : α → Program σ ε β) (s : σ) :
    (statement f >>= g).write s = match f s with
      | .ok (_, t) => t
      | .error _ => s := rfl

theorem next_statement_bind (f : σ → Except ε (α × σ)) (g : α → Program σ ε β) (s : σ) :
    (statement f >>= g).next s = match f s with
      | .ok (a, _) => g a
      | .error e => raise e := by
  simp only [statement, stmt_bind, next_stmt]
  cases f s <;> rfl

/-! ### What every statement does -/

/-- Every statement the program can execute relates the store before to the store
after by `R`. -/
def Writes (R : σ → σ → Prop) : Program σ ε α → Prop
  | ret _ => True
  | raise _ => True
  | stmt w n => ∀ s, R s (w s) ∧ (n s).Writes R

variable {R : σ → σ → Prop}

@[simp] theorem writes_ret (a : α) : (ret a : Program σ ε α).Writes R := trivial

@[simp] theorem writes_raise (e : ε) : (raise e : Program σ ε α).Writes R := trivial

theorem Writes.write {p : Program σ ε α} (hp : p.Writes R) (h : p.isStmt = true) (s : σ) :
    R s (p.write s) := by
  cases p with
  | stmt w n => exact (hp s).1
  | ret a => cases h
  | raise e => cases h

theorem Writes.write_refl [Std.Refl R] {p : Program σ ε α} (hp : p.Writes R) (s : σ) :
    R s (p.write s) := by
  cases p with
  | stmt w n => exact (hp s).1
  | ret a => exact refl s
  | raise e => exact refl s

theorem Writes.next {p : Program σ ε α} (hp : p.Writes R) (s : σ) : (p.next s).Writes R := by
  cases p with
  | stmt w n => exact (hp s).2
  | ret a => exact hp
  | raise e => exact hp

theorem Writes.bind {p : Program σ ε α} {f : α → Program σ ε β}
    (hp : p.Writes R) (hf : ∀ a, (f a).Writes R) : (p >>= f).Writes R := by
  induction p with
  | ret a => exact hf a
  | raise e => trivial
  | stmt w n ih => exact fun s => ⟨(hp s).1, ih s (hp s).2⟩

theorem Writes.mono {S : σ → σ → Prop} {p : Program σ ε α} (hp : p.Writes R)
    (h : ∀ s t, R s t → S s t) : p.Writes S := by
  induction p with
  | ret a => trivial
  | raise e => trivial
  | stmt w n ih => exact fun s => ⟨h _ _ (hp s).1, ih s (hp s).2⟩

/-- What the statements of a sequence do, those of its first part do. -/
theorem Writes.of_bind {p : Program σ ε α} {f : α → Program σ ε β} (h : (p >>= f).Writes R) :
    p.Writes R := by
  induction p with
  | ret a => trivial
  | raise e => trivial
  | stmt w n ih => exact fun s => ⟨(h s).1, ih s (h s).2⟩

theorem Writes.and {S : σ → σ → Prop} {p : Program σ ε α} (hR : p.Writes R) (hS : p.Writes S) :
    p.Writes fun s t => R s t ∧ S s t := by
  induction p with
  | ret a => trivial
  | raise e => trivial
  | stmt w n ih => exact fun s => ⟨⟨(hR s).1, (hS s).1⟩, ih s (hR s).2 (hS s).2⟩

theorem Writes.attempt {p : Program σ ε α} (hp : p.Writes R) : p.attempt.Writes R := by
  induction p with
  | ret a => trivial
  | raise e => trivial
  | stmt w n ih => exact fun s => ⟨(hp s).1, ih s (hp s).2⟩

theorem writes_execute {w : σ → σ} (h : ∀ s, R s (w s)) :
    (execute w : Program σ ε Unit).Writes R := fun s => ⟨h s, trivial⟩

theorem writes_query [Std.Refl R] (f : σ → α) : (query f : Program σ ε α).Writes R :=
  fun s => ⟨refl s, trivial⟩

theorem writes_ofExcept (x : Except ε α) : (ofExcept x : Program σ ε α).Writes R := by
  cases x <;> trivial

theorem writes_statement [Std.Refl R] {f : σ → Except ε (α × σ)}
    (h : ∀ s a t, f s = .ok (a, t) → R s t) : (statement f).Writes R := by
  intro s
  cases hf : f s with
  | error e => simpa [hf] using refl s
  | ok r => simpa [hf] using h s r.1 r.2 hf

/-- What follows a statement need only be considered for the answers it can give. -/
theorem writes_statement_bind [Std.Refl R] {f : σ → Except ε (α × σ)} {g : α → Program σ ε β}
    (h : ∀ s a t, f s = .ok (a, t) → R s t ∧ (g a).Writes R) : (statement f >>= g).Writes R := by
  intro s
  cases hf : f s with
  | error e => simpa [hf, Program.bind] using refl s
  | ok r => simpa [hf, Program.bind] using h s r.1 r.2 hf

theorem writes_next_statement_bind {f : σ → Except ε (α × σ)} {g : α → Program σ ε β}
    (hg : ∀ a, (g a).Writes R) (s : σ) : ((statement f >>= g).next s).Writes R := by
  rw [next_statement_bind]
  cases f s with
  | ok r => exact hg r.1
  | error e => trivial

/-- What a statement does is what it does when it runs alone. -/
theorem writes_statement_of_run {f : σ → Except ε (α × σ)}
    (h : ∀ s, R s ((statement f).run s).2) : (statement f).Writes R := by
  intro s
  have hs := h s
  rw [run_statement] at hs
  cases hf : f s with
  | error e => simpa [hf] using hs
  | ok r => simpa [hf] using hs

/-- What holds of every statement holds of the whole run. -/
theorem Writes.run [Std.Refl R] [IsTrans σ R] {p : Program σ ε α} (hp : p.Writes R) (s : σ) :
    R s (p.run s).2 := by
  induction p generalizing s with
  | ret a => exact refl s
  | raise e => exact refl s
  | stmt w n ih => exact IsTrans.trans _ _ _ (hp s).1 (ih s (hp s).2 (w s))

/-- A store property that every statement keeps is kept by the run. -/
theorem Writes.run_invariant {I : σ → Prop} {p : Program σ ε α}
    (hp : p.Writes (fun s t => I s → I t)) {s : σ} (hs : I s) : I (p.run s).2 := by
  induction p generalizing s with
  | ret a => exact hs
  | raise e => exact hs
  | stmt w n ih => exact ih s (hp s).2 ((hp s).1 hs)

/-! ### A write that may fall anywhere -/

/-- Every statement of the program reads and writes past the change `φ` of the store. -/
def Commutes (φ : σ → σ) : Program σ ε α → Prop
  | ret _ => True
  | raise _ => True
  | stmt w n => ∀ s, w (φ s) = φ (w s) ∧ n (φ s) = n s ∧ (n s).Commutes φ

@[simp] theorem commutes_ret (φ : σ → σ) (a : α) : (ret a : Program σ ε α).Commutes φ := trivial

@[simp] theorem commutes_raise (φ : σ → σ) (e : ε) : (raise e : Program σ ε α).Commutes φ := trivial

variable {φ : σ → σ}

theorem Commutes.next {p : Program σ ε α} (hp : p.Commutes φ) (s : σ) : (p.next s).Commutes φ := by
  cases p with
  | stmt w n => exact (hp s).2.2
  | ret a => exact hp
  | raise e => exact hp

theorem Commutes.next_eq {p : Program σ ε α} (hp : p.Commutes φ) (s : σ) :
    p.next (φ s) = p.next s := by
  cases p with
  | stmt w n => exact (hp s).2.1
  | ret a => rfl
  | raise e => rfl

theorem Commutes.write_eq {p : Program σ ε α} (hp : p.Commutes φ) (s : σ) :
    p.write (φ s) = φ (p.write s) := by
  cases p with
  | stmt w n => exact (hp s).1
  | ret a => rfl
  | raise e => rfl

theorem Commutes.bind {p : Program σ ε α} {f : α → Program σ ε β}
    (hp : p.Commutes φ) (hf : ∀ a, (f a).Commutes φ) : (p >>= f).Commutes φ := by
  induction p with
  | ret a => exact hf a
  | raise e => trivial
  | stmt w n ih =>
    intro s
    obtain ⟨hw, hn, hrest⟩ := hp s
    exact ⟨hw, congrArg (· >>= f) hn, ih s hrest⟩

theorem Commutes.attempt {p : Program σ ε α} (hp : p.Commutes φ) : p.attempt.Commutes φ := by
  induction p with
  | ret a => trivial
  | raise e => trivial
  | stmt w n ih =>
    intro s
    obtain ⟨hw, hn, hrest⟩ := hp s
    exact ⟨hw, congrArg Program.attempt hn, ih s hrest⟩

theorem commutes_query {f : σ → α} (h : ∀ s, f (φ s) = f s) :
    (query f : Program σ ε α).Commutes φ :=
  fun s => ⟨rfl, congrArg ret (h s), trivial⟩

theorem commutes_ofExcept (x : Except ε α) : (ofExcept x : Program σ ε α).Commutes φ := by
  cases x <;> trivial

/-- A statement that may answer differently after the change, when what follows does not
look at the difference. -/
theorem commutes_statement_bind {f : σ → Except ε (α × σ)} {g : α → Program σ ε β}
    (hok : ∀ s a t, f s = .ok (a, t) → ∃ a', f (φ s) = .ok (a', φ t) ∧ g a' = g a)
    (herror : ∀ s e, f s = .error e → f (φ s) = .error e)
    (hg : ∀ s a t, f s = .ok (a, t) → (g a).Commutes φ) : (statement f >>= g).Commutes φ := by
  intro s
  cases hf : f s with
  | error e => simp [hf, herror s e hf, Program.bind]
  | ok r =>
    obtain ⟨a', hf', heq⟩ := hok s r.1 r.2 hf
    simp [hf, hf', heq, hg s r.1 r.2 hf, Program.bind]

theorem commutes_statement {f : σ → Except ε (α × σ)}
    (hok : ∀ s a t, f s = .ok (a, t) → f (φ s) = .ok (a, φ t))
    (herror : ∀ s e, f s = .error e → f (φ s) = .error e) : (statement f).Commutes φ := by
  rw [← bind_ret (statement f)]
  exact commutes_statement_bind (fun s a t h => ⟨a, hok s a t h, rfl⟩) herror
    (fun _ _ _ _ => trivial)

/-! ### The states of a run alone -/

/-- The store and the rest of the program after `k` statements of it. -/
def advance : ℕ → Program σ ε α → σ → Program σ ε α × σ
  | 0, p, s => (p, s)
  | _ + 1, ret a, s => (ret a, s)
  | _ + 1, raise e, s => (raise e, s)
  | k + 1, stmt w n, s => (n s).advance k (w s)

@[simp] theorem advance_zero (p : Program σ ε α) (s : σ) : p.advance 0 s = (p, s) := by
  cases p <;> rfl

theorem advance_succ (p : Program σ ε α) (k : ℕ) (s : σ) :
    p.advance (k + 1) s =
      ((p.advance k s).1.next (p.advance k s).2, (p.advance k s).1.write (p.advance k s).2) := by
  induction k generalizing p s with
  | zero => cases p <;> simp [advance, next, write]
  | succ k ih =>
    cases p with
    | ret a => rfl
    | raise e => rfl
    | stmt w n => exact ih (n s) (w s)

theorem advance_statement_bind (f : σ → Except ε (α × σ)) (g : α → Program σ ε β) (k : ℕ) (s : σ) :
    (statement f >>= g).advance (k + 1) s = match f s with
      | .ok (a, t) => (g a).advance k t
      | .error e => (raise e, s) := by
  simp only [statement, stmt_bind, advance]
  cases f s with
  | ok r => rfl
  | error e => cases k <;> rfl

theorem advance_statement_bind_ok {f : σ → Except ε (α × σ)} {g : α → Program σ ε β} {s t : σ}
    {a : α} (h : f s = .ok (a, t)) (k : ℕ) :
    (statement f >>= g).advance (k + 1) s = (g a).advance k t := by
  rw [advance_statement_bind, h]

/-- What is left after `k` statements ends as the whole program does. -/
theorem run_advance (p : Program σ ε α) (k : ℕ) (s : σ) :
    (p.advance k s).1.run (p.advance k s).2 = p.run s := by
  induction k generalizing p s with
  | zero => simp
  | succ k ih =>
    cases p with
    | ret a => rfl
    | raise e => rfl
    | stmt w n => exact ih (n s) (w s)

@[simp] theorem advance_ret (a : α) (k : ℕ) (s : σ) :
    (ret a : Program σ ε α).advance k s = (ret a, s) := by
  cases k <;> rfl

@[simp] theorem advance_raise (e : ε) (k : ℕ) (s : σ) :
    (raise e : Program σ ε α).advance k s = (raise e, s) := by
  cases k <;> rfl

/-- The run alone from a store ends as `Q` says, and after `k` statements the store is in
`P k`. -/
structure Stages (Q : Except ε α → Prop) (P : ℕ → σ → Prop) (p : Program σ ε α) (s : σ) : Prop where
  ends : Q (p.run s).1
  after : ∀ k, P k (p.advance k s).2

theorem stages_ret {Q : Except ε α → Prop} {P : ℕ → σ → Prop} {a : α} {s : σ} (hQ : Q (.ok a))
    (hP : ∀ k, P k s) : (ret a : Program σ ε α).Stages Q P s :=
  ⟨hQ, fun k => by rw [advance_ret]; exact hP k⟩

theorem stages_raise {Q : Except ε α → Prop} {P : ℕ → σ → Prop} {e : ε} {s : σ}
    (hQ : Q (.error e)) (hP : ∀ k, P k s) : (raise e : Program σ ε α).Stages Q P s :=
  ⟨hQ, fun k => by rw [advance_raise]; exact hP k⟩

theorem stages_statement_bind {Q : Except ε β → Prop} {P : ℕ → σ → Prop}
    {f : σ → Except ε (α × σ)} {g : α → Program σ ε β} {s t : σ} {a : α} (hf : f s = .ok (a, t))
    (hzero : P 0 s) (hrest : (g a).Stages Q (fun k => P (k + 1)) t) :
    (statement f >>= g).Stages Q P s where
  ends := by
    rw [run_statement_bind, hf]
    exact hrest.ends
  after k := by
    cases k with
    | zero =>
      rw [advance_zero]
      exact hzero
    | succ k =>
      rw [advance_statement_bind_ok hf]
      exact hrest.after k

theorem stages_statement_error {Q : Except ε β → Prop} {P : ℕ → σ → Prop}
    {f : σ → Except ε (α × σ)} {g : α → Program σ ε β} {s : σ} {e : ε} (hf : f s = .error e)
    (hQ : Q (.error e)) (hP : ∀ k, P k s) : (statement f >>= g).Stages Q P s where
  ends := by
    rw [run_statement_bind, hf]
    exact hQ
  after k := by
    cases k with
    | zero =>
      rw [advance_zero]
      exact hP 0
    | succ k =>
      rw [advance_statement_bind, hf]
      exact hP (k + 1)

theorem stages_query_bind {Q : Except ε β → Prop} {P : ℕ → σ → Prop} {f : σ → α}
    {g : α → Program σ ε β} {s : σ} (hzero : P 0 s)
    (hrest : (g (f s)).Stages Q (fun k => P (k + 1)) s) : (query f >>= g).Stages Q P s where
  ends := hrest.ends
  after k := by
    cases k with
    | zero =>
      rw [advance_zero]
      exact hzero
    | succ k => exact hrest.after k

theorem Commutes.advance {p : Program σ ε α} (hp : p.Commutes φ) (k : ℕ) (s : σ) :
    (p.advance k s).1.Commutes φ := by
  induction k with
  | zero => simpa using hp
  | succ k ih =>
    rw [advance_succ]
    exact ih.next _

/-- Every statement of the run alone from a store takes the store it finds to one in `R`, and
if the run returns, the value and the last store are in `P`. -/
def Traces (R : σ → σ → Prop) (P : α → σ → Prop) : Program σ ε α → σ → Prop
  | ret a, s => P a s
  | raise _, _ => True
  | stmt w n, s => R s (w s) ∧ (n s).Traces R P (w s)

variable {P : α → σ → Prop}

theorem Traces.mono {S : σ → σ → Prop} {P' : α → σ → Prop} (hRS : ∀ s t, R s t → S s t)
    (hP : ∀ a s, P a s → P' a s) {p : Program σ ε α} {s : σ} (hp : p.Traces R P s) :
    p.Traces S P' s := by
  induction p generalizing s with
  | ret a => exact hP a s hp
  | raise e => trivial
  | stmt w n ih => exact ⟨hRS _ _ hp.1, ih s hp.2⟩

theorem Traces.bind {P' : β → σ → Prop} {p : Program σ ε α} {f : α → Program σ ε β} {s : σ}
    (hp : p.Traces R P s) (hf : ∀ a t, P a t → (f a).Traces R P' t) :
    (p >>= f).Traces R P' s := by
  induction p generalizing s with
  | ret a => exact hf a s hp
  | raise e => trivial
  | stmt w n ih => exact ⟨hp.1, ih s hp.2⟩

theorem Writes.traces [Std.Refl R] [IsTrans σ R] {p : Program σ ε α} (hp : p.Writes R) (s : σ) :
    p.Traces R (fun _ t => R s t) s := by
  have hfrom (r : σ) (hr : R r s) : p.Traces R (fun _ t => R r t) s := by
    induction p generalizing s with
    | ret a => exact hr
    | raise e => trivial
    | stmt w n ih => exact ⟨(hp s).1, ih s (hp s).2 (w s) (IsTrans.trans _ _ _ hr (hp s).1)⟩
  exact hfrom s (refl s)

theorem traces_statement_bind [Std.Refl R] {P' : β → σ → Prop} {f : σ → Except ε (α × σ)}
    {g : α → Program σ ε β} {s : σ}
    (h : ∀ a t, f s = .ok (a, t) → R s t ∧ (g a).Traces R P' t) :
    (statement f >>= g).Traces R P' s := by
  cases hf : f s with
  | error e =>
    refine ⟨?_, ?_⟩
    · simpa [hf] using refl s
    · simp [hf, Traces, Program.bind]
  | ok r =>
    obtain ⟨hR, hrest⟩ := h r.1 r.2 hf
    refine ⟨?_, ?_⟩
    · simpa [hf] using hR
    · simpa [hf, Program.bind] using hrest

theorem traces_query_bind [Std.Refl R] {P' : β → σ → Prop} {f : σ → α} {g : α → Program σ ε β}
    {s : σ} (h : (g (f s)).Traces R P' s) : (query f >>= g).Traces R P' s :=
  ⟨refl s, h⟩

theorem Traces.advance {p : Program σ ε α} {s : σ} (hp : p.Traces R P s) (k : ℕ) :
    (p.advance k s).1.Traces R P (p.advance k s).2 := by
  induction k generalizing p s with
  | zero => simpa using hp
  | succ k ih =>
    cases p with
    | ret a => exact hp
    | raise e => trivial
    | stmt w n => exact ih hp.2

theorem Traces.write [Std.Refl R] {p : Program σ ε α} {s : σ} (hp : p.Traces R P s) :
    R s (p.write s) := by
  cases p with
  | ret a => exact refl s
  | raise e => exact refl s
  | stmt w n => exact hp.1

theorem Traces.run_invariant {I : σ → Prop} (hI : ∀ s t, R s t → I s → I t)
    {p : Program σ ε α} {s : σ} (hp : p.Traces R P s) (hs : I s) : I (p.run s).2 := by
  induction p generalizing s with
  | ret a => exact hs
  | raise e => exact hs
  | stmt w n ih => exact ih s hp.2 (hI _ _ hp.1 hs)

theorem Writes.advance [Std.Refl R] [IsTrans σ R] {p : Program σ ε α} (hp : p.Writes R) (k : ℕ)
    (s : σ) : R s (p.advance k s).2 := by
  induction k generalizing p s with
  | zero => simpa using refl s
  | succ k ih =>
    cases p with
    | ret a => exact refl s
    | raise e => exact refl s
    | stmt w n => exact IsTrans.trans _ _ _ (hp s).1 (ih (hp s).2 (w s))

end Program

end DevSecOpsPlatform.StatementPrograms
