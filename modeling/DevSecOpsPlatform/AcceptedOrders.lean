import DevSecOpsPlatform.AnsweredRequests
import DevSecOpsPlatform.PlatformProgress

/-!
# Accepted requests are carried out

The views that start a task answer when they have handed its message to the broker, which gives
it the identifier that the answer names. A message stays on the queue until a worker takes it. So
from the answer on the message is queued or a worker has taken it, and on a platform at rest the
task of every request that was accepted has been run to its end.
-/

namespace DevSecOpsPlatform.AcceptedOrders

open KeyedTables StatementPrograms PlatformModels PlatformStore RolePermissions PythonValues
open PlatformOperations OperationStatements PlatformChanges OrphanJobs JobMessages
open AnsweredRequests PlatformProgress
open JobHandoffs (Worker)

/-! ### What a request asks for -/

/-- The identifier of the task that the request starts. -/
def orderId : Operation → Option String
  | .checkReachability _ _ taskId | .createDiscoveryJob _ _ _ taskId => some taskId
  | .createProvisioningJob _ _ _ taskId | .runCompliance _ _ _ taskId => some taskId
  | .runDrift _ _ taskId | .takeSnapshot _ _ _ taskId => some taskId
  | _ => none

/-- The message is that of the task that the request asks for. -/
def Orders : Operation → TaskMessage → Prop
  | .checkReachability _ id _, m => m = .checkDeviceReachability id
  | .createDiscoveryJob .., m => ∃ id, m = .runDiscovery id
  | .createProvisioningJob .., m => ∃ id, m = .executeProvisioningJob id
  | .runCompliance caller device ruleIds _, m =>
    ∃ id, device = some id ∧ m = .runComplianceCheck id ruleIds caller
  | .runDrift caller device _, m => ∃ id, device = some id ∧ m = .runDriftDetection id caller
  | .takeSnapshot caller device golden _, m =>
    ∃ id, device = some id ∧ m = .takeConfigSnapshot id golden caller
  | _, _ => False

/-- The message that the request asks for is on the queue, under its identifier. -/
def Ordered (o : Operation) (db : Platform) : Prop :=
  ∃ taskId m, orderId o = some taskId ∧ Orders o m ∧ (taskId, m) ∈ db.queue

/-- The request is refused with an error of the client. -/
def Refused (response : Response) : Prop := 400 ≤ response.status

/-- What is left of the request hands its message to the broker, or ends in another way. -/
abbrev Handing (o : Operation) (p : Statement Response) : Prop :=
  p.Reaches (Ordered o) Refused fun _ => True

theorem handing_delay_bind {o : Operation} {taskId : String} {m : TaskMessage}
    {f : String → Statement Response} (hid : orderId o = some taskId) (hm : Orders o m) :
    Handing o (delay taskId m >>= f) :=
  fun db => .inl ⟨taskId, m, hid, hm,
    List.mem_append_right db.queue (List.mem_singleton.mpr rfl)⟩

theorem handing_bind {α : Type} {o : Operation} (p : Statement α) {f : α → Statement Response}
    (hf : ∀ a, Handing o (f a)) : Handing o (p >>= f) :=
  (Program.reaches_true p).bind fun a _ => hf a

/-- The message names the user that the caller is. -/
theorem handing_deviceAction {o : Operation} {caller : Option UserId} {device : Option DeviceId}
    {taskId : String} {message : DeviceId → UserId → TaskMessage} (hid : orderId o = some taskId)
    (hm : ∀ id user, device = some id → caller = some user → Orders o (message id user)) :
    Handing o (SecurityViews.deviceAction caller device taskId message) := by
  refine Program.reaches_statement_bind (fun db user db' hpermit => .inr ?_)
    fun _ _ _ => .inr trivial
  have hcaller : caller = some user.id := by
    cases huser : authenticate caller db with
    | none => simp [huser] at hpermit
    | some u =>
      simp only [huser] at hpermit
      split at hpermit
      · obtain ⟨rfl, -⟩ := Prod.mk.inj (Except.ok.inj hpermit)
        exact caller_of_authenticate huser
      · cases hpermit
  split
  · exact Nat.le_refl 400
  · exact Nat.le_refl 400
  · exact handing_delay_bind hid (hm _ _ rfl hcaller)

/-- No request that starts a task is answered before the message is handed over, but for the
refusals. -/
theorem handing_reply {o : Operation} (ho : (orderId o).isSome = true) : Handing o o.reply := by
  cases o with
  | checkReachability caller id taskId =>
    exact handing_bind _ fun _ => handing_bind _ fun _ => handing_delay_bind rfl rfl
  | createDiscoveryJob caller now subnet taskId =>
    refine handing_bind _ fun _ => ?_
    split
    · trivial
    · split
      · trivial
      · exact handing_bind _ fun id => handing_delay_bind rfl ⟨id, rfl⟩
  | createProvisioningJob caller now data taskId =>
    refine handing_bind _ fun _ => handing_bind _ fun _ => handing_bind _ fun id => ?_
    exact handing_bind _ fun _ => handing_delay_bind rfl ⟨id, rfl⟩
  | runCompliance caller device ruleIds taskId =>
    change Handing _ (SecurityViews.runCompliance caller device ruleIds taskId)
    refine handing_deviceAction rfl fun id user hdevice hcaller => ?_
    exact ⟨id, hdevice, by rw [hcaller]⟩
  | runDrift caller device taskId =>
    change Handing _ (SecurityViews.runDrift caller device taskId)
    refine handing_deviceAction rfl fun id user hdevice hcaller => ?_
    exact ⟨id, hdevice, by rw [hcaller]⟩
  | takeSnapshot caller device golden taskId =>
    change Handing _ (SecurityViews.takeSnapshot caller device golden taskId)
    refine handing_deviceAction rfl fun id user hdevice hcaller => ?_
    exact ⟨id, hdevice, by rw [hcaller]⟩
  | _ => cases ho

/-! ### Messages that were delivered -/

/-- The message that a worker takes with the move, and its identifier. -/
def delivers (c : System) : Move → Option (String × TaskMessage)
  | .take n _ => c.store.queue[n]?
  | _ => none

/-- The messages that workers take in the run, in their order. -/
def delivered : System → List Move → List (String × TaskMessage)
  | _, [] => []
  | c, move :: moves => (delivers c move).toList ++ delivered (c.step move) moves

/-- A worker has taken the message that the request asks for. -/
def Carried (o : Operation) (messages : List (String × TaskMessage)) : Prop :=
  ∃ taskId m, orderId o = some taskId ∧ Orders o m ∧ (taskId, m) ∈ messages

/-- The queue keeps its messages. -/
def KeepsQueue (db db' : Platform) : Prop := ∀ x ∈ db.queue, x ∈ db'.queue

instance : Std.Refl KeepsQueue := ⟨fun _ _ hx => hx⟩

theorem keepsQueue_program (o : Operation) : o.program.Writes KeepsQueue :=
  (writes_program o).mono fun _ _ h => queue_of_effect h

/-- The request has yet to hand its message over, or the message is queued or was delivered. -/
def Due (store : Platform) (messages : List (String × TaskMessage)) (o : Operation)
    (r : RequestInProgress) : Prop :=
  (orderId o).isSome = true → Handing o r.rest ∨ Ordered o store ∨ Carried o messages

structure Honoured (os : List Operation) (messages : List (String × TaskMessage)) (c : System) :
    Prop where
  handles : Handles KeepsQueue (fun _ => True) os c
  orders : os.Forall₂ (Due c.store messages) c.requests

theorem Due.mono {store store' : Platform} {messages : List (String × TaskMessage)} {o : Operation}
    {r : RequestInProgress} (h : Due store messages o r) (hqueue : KeepsQueue store store') :
    Due store' messages o r := fun ho =>
  (h ho).imp_right <| Or.imp_left fun ⟨taskId, m, hid, hm, hmem⟩ =>
    ⟨taskId, m, hid, hm, hqueue _ hmem⟩

theorem Due.advance {store : Platform} {messages : List (String × TaskMessage)} {o : Operation}
    {r : RequestInProgress} (h : Due (r.rest.write store) messages o r) :
    Due (r.rest.write store) messages o (r.advance store) := by
  intro ho
  rcases h ho with hhanding | hdone
  · rcases hhanding.next store with hordered | hnext
    · exact .inr (.inl hordered)
    · refine .inl ?_
      unfold RequestInProgress.advance
      split
      · exact hhanding
      · exact hnext
  · exact .inr hdone

/-- The message that is asked for is the one that is taken, or stays on the queue. -/
theorem Due.take {store : Platform} {messages : List (String × TaskMessage)} {o : Operation}
    {r : RequestInProgress} {n : ℕ} {x : String × TaskMessage} (hn : store.queue[n]? = some x)
    (h : Due store messages o r) : Due (dequeue n store) (messages ++ [x]) o r := by
  intro ho
  rcases h ho with hhanding | ⟨taskId, m, hid, hm, hmem⟩ | ⟨taskId, m, hid, hm, hmem⟩
  · exact .inl hhanding
  · obtain ⟨k, hk⟩ := List.mem_iff_getElem?.mp hmem
    by_cases hkn : k = n
    · obtain rfl := Option.some.inj ((hkn ▸ hk).symm.trans hn)
      exact .inr (.inr ⟨taskId, m, hid, hm, List.mem_append_right _ (List.mem_singleton.mpr rfl)⟩)
    · exact .inr (.inl ⟨taskId, m, hid, hm, List.mem_eraseIdx_iff_getElem?.mpr ⟨k, hkn, hk⟩⟩)
  · exact .inr (.inr ⟨taskId, m, hid, hm, List.mem_append_left _ hmem⟩)

theorem honoured_step {os : List Operation} {messages : List (String × TaskMessage)} {c : System}
    (h : Honoured os messages c) (move : Move) :
    Honoured (os ++ received [move]) (messages ++ (delivers c move).toList) (c.step move) := by
  refine ⟨handles_step (fun o _ => keepsQueue_program o)
    (fun w m => keepsQueue_program (operation w m)) h.handles move, ?_⟩
  cases move with
  | receive o =>
    rw [show (delivers c (.receive o)).toList = [] from rfl, List.append_nil]
    exact List.rel_append h.orders (.cons (fun ho => .inl (handing_reply ho)) .nil)
  | request i =>
    rw [show (delivers c (.request i)).toList = [] from rfl,
      show received [.request i] = [] from rfl, List.append_nil, List.append_nil]
    dsimp only [System.step]
    split
    · rename_i r hi
      split
      · exact h.orders
      · obtain ⟨o, -, hwrites⟩ := Program.rel_of_right h.handles.requests hi
        have hmono := h.orders.imp fun _ _ hdue => hdue.mono ((hwrites trivial).write_refl c.store)
        exact Program.rel_set_right hmono hi fun _ hdue => hdue.advance
    · exact h.orders
  | fail i =>
    rw [show (delivers c (.fail i)).toList = [] from rfl,
      show received [.fail i] = [] from rfl, List.append_nil, List.append_nil]
    dsimp only [System.step]
    split
    · rename_i r hi
      split
      · exact Program.rel_set_right h.orders hi fun _ hdue => hdue
      · exact h.orders
    · exact h.orders
  | take n w =>
    rw [show received [.take n w] = [] from rfl, List.append_nil]
    dsimp only [System.step, delivers]
    cases hn : c.store.queue[n]? with
    | none =>
      rw [Option.toList_none, List.append_nil]
      exact h.orders
    | some x => exact h.orders.imp fun _ _ hdue => hdue.take hn
  | task i =>
    rw [show (delivers c (.task i)).toList = [] from rfl,
      show received [.task i] = [] from rfl, List.append_nil, List.append_nil]
    dsimp only [System.step]
    split
    · rename_i p hi
      have hkeeps := (h.handles.tasks p (List.mem_of_getElem? hi)).write_refl c.store
      exact h.orders.imp fun _ _ hdue => hdue.mono hkeeps
    · exact h.orders

theorem honoured_run {os : List Operation} {messages : List (String × TaskMessage)} {c : System}
    (h : Honoured os messages c) (moves : List Move) :
    Honoured (os ++ received moves) (messages ++ delivered c moves) (c.run moves) := by
  induction moves generalizing os messages c with
  | nil =>
    rw [delivered, show received [] = [] from rfl, List.append_nil, List.append_nil]
    exact h
  | cons move moves ih =>
    rw [received_cons, delivered, ← List.append_assoc, ← List.append_assoc]
    exact ih (honoured_step h move)

/-! ### The tasks of the messages -/

/-- The program is what a worker has left of the task of the message. -/
def LeftOf (x : String × TaskMessage) (p : Statement Json) : Prop :=
  ∃ w, Relation.ReflTransGen Program.Remainder p (Worker.task w x.2)

theorem LeftOf.next {x : String × TaskMessage} {p : Statement Json} (h : LeftOf x p)
    (db : Platform) : LeftOf x (p.next db) := by
  obtain ⟨w, hw⟩ := h
  cases p with
  | ret a => exact ⟨w, hw⟩
  | raise e => exact ⟨w, hw⟩
  | stmt write next => exact ⟨w, .head (.next write next db) hw⟩

theorem leftOf_step {messages : List (String × TaskMessage)} {c : System}
    (h : messages.Forall₂ LeftOf c.tasks) (move : Move) :
    (messages ++ (delivers c move).toList).Forall₂ LeftOf (c.step move).tasks := by
  cases move with
  | take n w =>
    dsimp only [System.step, delivers]
    cases c.store.queue[n]? with
    | none =>
      rw [Option.toList_none, List.append_nil]
      exact h
    | some x => exact Program.rel_concat h ⟨w, .refl⟩
  | task i =>
    rw [show (delivers c (.task i)).toList = [] from rfl, List.append_nil]
    dsimp only [System.step]
    split
    · rename_i p hi
      exact Program.rel_set_right h hi fun _ hleft => hleft.next c.store
    · exact h
  | receive o =>
    rw [show (delivers c (.receive o)).toList = [] from rfl, List.append_nil]
    exact h
  | request i =>
    rw [show (delivers c (.request i)).toList = [] from rfl, List.append_nil]
    dsimp only [System.step]
    split
    · split <;> exact h
    · exact h
  | fail i =>
    rw [show (delivers c (.fail i)).toList = [] from rfl, List.append_nil]
    dsimp only [System.step]
    split
    · split <;> exact h
    · exact h

theorem leftOf_run {messages : List (String × TaskMessage)} {c : System}
    (h : messages.Forall₂ LeftOf c.tasks) (moves : List Move) :
    (messages ++ delivered c moves).Forall₂ LeftOf (c.run moves).tasks := by
  induction moves generalizing messages c with
  | nil =>
    rw [delivered, List.append_nil]
    exact h
  | cons move moves ih =>
    rw [delivered, ← List.append_assoc]
    exact ih (leftOf_step h move)

/-- A worker has taken the message, and `p` is what is left of its task. -/
def Executes (store : Platform) (moves : List Move) (x : String × TaskMessage)
    (p : Statement Json) : Prop :=
  ∃ j : ℕ, (delivered { store := store } moves)[j]? = some x ∧
    (System.run { store := store } moves).tasks[j]? = some p ∧ LeftOf x p

theorem executes_of_mem {store : Platform} {moves : List Move} {x : String × TaskMessage}
    (h : x ∈ delivered { store := store } moves) : ∃ p, Executes store moves x p := by
  have hstart : List.Forall₂ LeftOf [] (System.mk store [] []).tasks := .nil
  have htasks : (delivered { store := store } moves).Forall₂ LeftOf
      (System.run { store := store } moves).tasks := leftOf_run hstart moves
  obtain ⟨j, hj⟩ := List.mem_iff_getElem?.mp h
  have hrel := Program.rel_getElem? htasks j
  rw [hj] at hrel
  cases hp : (System.run { store := store } moves).tasks[j]? with
  | none => simp [hp] at hrel
  | some p => exact ⟨p, j, hj, hp, by simpa [hp] using hrel⟩

/-! ### Accepted requests -/

/-- From its answer on, the message of a request that was accepted is queued or a worker has taken
it, and when the platform is at rest its task has been run to the end. -/
theorem accepted_carried_out (store : Platform) (moves : List Move) {i : ℕ} {o : Operation}
    {r : RequestInProgress} {response : Response} {taskId : String}
    (ho : (received moves)[i]? = some o) (hid : orderId o = some taskId)
    (hr : (System.run { store := store } moves).requests[i]? = some r)
    (hanswer : r.rest = .ret response) (haccepted : response.status < 400) :
    ∃ m, Orders o m ∧
      ((taskId, m) ∈ (System.run { store := store } moves).store.queue ∨
        ∃ p, Executes store moves (taskId, m) p) ∧
      (AtRest (System.run { store := store } moves) →
        ∃ p, Executes store moves (taskId, m) p ∧ p.isStmt = false) := by
  have hstart : Honoured [] [] { store := store } := ⟨⟨.nil, by simp⟩, .nil⟩
  have hrun := honoured_run hstart moves
  rw [List.nil_append, List.nil_append] at hrun
  obtain ⟨o', ho', hdue⟩ := Program.rel_of_right hrun.orders hr
  obtain rfl := Option.some.inj (ho.symm.trans ho')
  rcases hdue (by rw [hid]; rfl) with hhanding | ⟨id, m, hid', hm, hmem⟩ | ⟨id, m, hid', hm, hmem⟩
  · -- it is not answered before it has handed the message over
    rw [hanswer] at hhanding
    exact absurd hhanding (Nat.not_le.mpr haccepted)
  · obtain rfl := Option.some.inj (hid'.symm.trans hid)
    refine ⟨m, hm, .inl hmem, fun hrest => ?_⟩
    rw [hrest.queue] at hmem
    cases hmem
  · obtain rfl := Option.some.inj (hid'.symm.trans hid)
    obtain ⟨p, hp⟩ := executes_of_mem hmem
    refine ⟨m, hm, .inr ⟨p, hp⟩, fun hrest => ⟨p, hp, ?_⟩⟩
    obtain ⟨j, -, hj, -⟩ := hp
    exact hrest.tasks p (List.mem_of_getElem? hj)

/-- A snapshot is asked for and taken. -/
def labMoves : List Move :=
  .receive (.takeSnapshot (some 1) (some 1) true "t1") :: List.replicate 2 (.request 0) ++
    .take 0 JobHandoffs.labWorker :: List.replicate 3 (.task 0)

theorem atRest_labMoves : AtRest (System.run { store := lab } labMoves) :=
  ⟨by decide, by decide, by decide⟩

theorem accepted_carried_out_of_lab :
    ∃ m, Orders (.takeSnapshot (some 1) (some 1) true "t1") m ∧
      ∃ p, Executes lab labMoves ("t1", m) p ∧ p.isStmt = false := by
  obtain ⟨m, hm, -, hrest⟩ := accepted_carried_out lab labMoves (i := 0)
    (o := .takeSnapshot (some 1) (some 1) true "t1") (r := { rest := .ret ⟨200,
      .obj [("task_id", .str "t1")]⟩ }) rfl rfl rfl rfl (by decide)
  exact ⟨m, hm, hrest atRest_labMoves⟩

example : (System.run { store := lab } labMoves).store.configSnapshots.rows.map
    (fun s => (s.2.device, s.2.takenBy, s.2.isGolden)) = [(1, some 1, true)] := rfl

end DevSecOpsPlatform.AcceptedOrders
