import DevSecOpsPlatform.JobMessages
import DevSecOpsPlatform.MirroredPrograms

/-!
# Requests and what is left of them

The requests of a run stand in the order in which they have arrived, so it is known of each what
it was when it arrived. A relation that every statement of some operations is in is kept by what
is left of them; and an invariant that the others do not keep at each statement holds from a state
on in which those that have arrived are answered.
-/

namespace DevSecOpsPlatform.AnsweredRequests

open StatementPrograms PlatformStore PlatformOperations OrphanJobs JobMessages
open JobHandoffs (Worker)

/-- The requests that arrive in a run, in their order. -/
def received (moves : List Move) : List Operation :=
  moves.filterMap fun
    | .receive o => some o
    | _ => none

theorem received_cons (move : Move) (moves : List Move) :
    received (move :: moves) = received [move] ++ received moves := by
  rw [received, ← List.singleton_append, List.filterMap_append]
  rfl

section

variable {R : Platform → Platform → Prop} {safe : Operation → Prop}

/-- Of a request that has not been answered, every statement left to a safe operation is in the
relation, and so is every statement left to a task. -/
structure Handles (R : Platform → Platform → Prop) (safe : Operation → Prop)
    (os : List Operation) (c : System) : Prop where
  requests : os.Forall₂ (fun o r => safe o → r.rest.Writes R) c.requests
  tasks : ∀ p ∈ c.tasks, p.Writes R

theorem writes_advance {r : RequestInProgress} (h : r.rest.Writes R) (db : Platform) :
    (r.advance db).rest.Writes R := by
  have hnext := h.next db
  unfold RequestInProgress.advance
  split
  · exact h
  · exact hnext

theorem handles_step (hreply : ∀ o, safe o → o.program.Writes R)
    (htask : ∀ w m, (operation w m).program.Writes R) {os : List Operation} {c : System}
    (h : Handles R safe os c) (move : Move) :
    Handles R safe (os ++ received [move]) (c.step move) := by
  cases move with
  | receive o =>
    exact ⟨List.rel_append h.requests (.cons (fun ho => writes_reply (hreply o ho)) .nil), h.tasks⟩
  | request i =>
    rw [show received [Move.request i] = [] from rfl, List.append_nil]
    dsimp only [System.step]
    split
    · rename_i r hi
      split
      · exact h
      · exact ⟨Program.rel_set_right h.requests hi fun o hr ho => writes_advance (hr ho) _, h.tasks⟩
    · exact h
  | fail i =>
    rw [show received [Move.fail i] = [] from rfl, List.append_nil]
    dsimp only [System.step]
    split
    · rename_i r hi
      split
      · exact ⟨Program.rel_set_right h.requests hi fun o hr => hr, h.tasks⟩
      · exact h
    · exact h
  | take n w =>
    rw [show received [Move.take n w] = [] from rfl, List.append_nil]
    dsimp only [System.step]
    split
    · rename_i x hn
      refine ⟨h.requests, fun p hp => ?_⟩
      rcases List.mem_append.mp hp with hp | hp
      · exact h.tasks p hp
      · rw [List.mem_singleton.mp hp, task_eq]
        exact htask w x.2
    · exact h
  | task i =>
    rw [show received [Move.task i] = [] from rfl, List.append_nil]
    dsimp only [System.step]
    split
    · rename_i p hi
      refine ⟨h.requests, fun q hq => ?_⟩
      rcases List.mem_or_eq_of_mem_set hq with hq | rfl
      · exact h.tasks q hq
      · exact (h.tasks p (List.mem_of_getElem? hi)).next _
    · exact h

theorem handles_run (hreply : ∀ o, safe o → o.program.Writes R)
    (htask : ∀ w m, (operation w m).program.Writes R) {os : List Operation} {c : System}
    (h : Handles R safe os c) (moves : List Move) :
    Handles R safe (os ++ received moves) (c.run moves) := by
  induction moves generalizing os c with
  | nil =>
    rw [show received [] = [] from rfl, List.append_nil]
    exact h
  | cons move moves ih =>
    have hrun := ih (handles_step hreply htask h move)
    rw [received_cons, ← List.append_assoc]
    exact hrun

end

/-- The requests of the operations outside `safe` that have arrived have been answered. -/
def Answered (safe : Operation → Prop) (moves : List Move) (c : System) : Prop :=
  ∀ (i : ℕ) o r, (received moves)[i]? = some o → ¬ safe o → c.requests[i]? = some r →
    ended r = true

/-- What every operation keeps that starts under it, and the safe ones at each of their
statements, is kept from a state on in which the others have been answered. -/
theorem kept_from {K : Platform → Prop} {safe : Operation → Prop}
    (hprogram : ∀ o : Operation, o.program.Keeps K)
    (hsafe : ∀ o, safe o → o.program.Writes (Program.Preserving K))
    (htask : ∀ w m, safe (operation w m)) (hdequeue : ∀ db n, K db → K (dequeue n db))
    (store : Platform) (before after : List Move)
    (hanswered : Answered safe before (System.run { store := store } before))
    (hbefore : K (System.run { store := store } before).store) :
    K (System.run { store := store } (before ++ after)).store := by
  have hstart : Handles (Program.Preserving K) safe [] { store := store } := ⟨.nil, by simp⟩
  have hrun := handles_run hsafe (fun w m => hsafe _ (htask w m)) hstart before
  rw [List.nil_append] at hrun
  rw [System.run, GuardedRuns.runFrom_append]
  refine invariant_run_from (fun o (_ : True) => hprogram o)
    (fun db n x hdb _ => ⟨hdequeue db n hdb, fun w => hprogram _⟩) hbefore (fun r hr => ?_)
    (fun p hp => (hrun.tasks p hp).keeps) after fun _ _ => trivial
  obtain ⟨i, hi⟩ := List.mem_iff_getElem?.mp hr
  obtain ⟨o, ho, hwrites⟩ := Program.rel_of_right hrun.requests hi
  by_cases hosafe : safe o
  · exact .inr (hwrites hosafe).keeps
  · have hended := hanswered i o r ho hosafe hi
    cases hrest : r.rest with
    | ret a => exact .inr trivial
    | raise e => exact .inr trivial
    | stmt w n => exact .inl (by simpa [ended, hrest] using hended)

theorem answered_of_ended {safe : Operation → Prop} {moves : List Move} {c : System}
    (h : ∀ r ∈ c.requests, ended r = true) : Answered safe moves c :=
  fun _ _ r _ _ hr => h r (List.mem_of_getElem? hr)

end DevSecOpsPlatform.AnsweredRequests
