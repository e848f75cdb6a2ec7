import DevSecOpsPlatform.NetmikoSessions
import DevSecOpsPlatform.TracedCalls

/-!
# The calls that the Netmiko client makes

`netmiko_client.py` with its calls in the order in which they are made. `connect` is the
generator as it is written: a `try` around the connection and the `yield`, and inside it one
whose `finally` disconnects. What `pushConfig` and `sendCommand` return or raise is what
`NetmikoSessions` says.
-/

namespace DevSecOpsPlatform.SessionCalls

open IpAddresses PlatformModels PythonValues NetmikoSessions TracedCalls Calls

inductive SshCall where
  | connectHandler (params : SshParams)
  | sendConfigSet (configLines : List String)
  | saveConfig
  | sendCommand (command : String)
  | disconnect

def SshCall.isDisconnect : SshCall → Bool
  | .disconnect => true
  | _ => false

/-- What `connect` does at and after its `yield`, where an exception may be raised. -/
def afterYield (session : SshSession) (device : Device) (thrown : Option SshExn) :
    Calls SshCall Exn Unit :=
  reraise (netmikoError device) <|
    tryFinally (resumed thrown) (call .disconnect session.disconnect)

/-- `NetmikoClient.connect`. -/
def connect (session : SshSession) (device : Device) :
    Calls SshCall Exn (Suspended SshCall SshExn Exn Unit) :=
  reraise (netmikoError device) do
    call (.connectHandler (buildParams device)) (session.connectHandler (buildParams device))
    return { yielded := (), resume := afterYield session device }

/-- The `with` block of `push_config`. -/
def pushBlock (session : SshSession) (configLines : List String) :
    Calls SshCall SshExn String := do
  let output ← call (.sendConfigSet configLines) (session.sendConfigSet configLines)
  call .saveConfig session.saveConfig
  return output

def pushConfig (session : SshSession) (device : Device) (configLines : List String) :
    Calls SshCall Exn (Option String) :=
  withContext (connect session device) fun () => pushBlock session configLines

def sendCommand (session : SshSession) (device : Device) (command : String) :
    Calls SshCall Exn (Option String) :=
  withContext (connect session device) fun () =>
    call (.sendCommand command) (session.sendCommand command)

section

variable {α : Type} (session : SshSession) (device : Device)

theorem run_connect (calls : List SshCall) : run (connect session device) calls =
    ((session.connectHandler (buildParams device)).mapError (netmikoError device) |>.map
      (fun _ => ⟨(), afterYield session device⟩),
    calls ++ [.connectHandler (buildParams device)]) := by
  simp only [connect, run_reraise, run_bind, run_call]
  cases session.connectHandler (buildParams device) <;> rfl

theorem run_afterYield (thrown : Option SshExn) (calls : List SshCall) :
    run (afterYield session device thrown) calls =
      (match session.disconnect, thrown with
        | .error e, _ => .error (netmikoError device e)
        | .ok (), some e => .error (netmikoError device e)
        | .ok (), none => .ok (), calls ++ [.disconnect]) := by
  rw [afterYield, run_reraise, run_finally, run_resumed]
  simp only [run_call]
  cases session.disconnect with
  | error e => rfl
  | ok u => cases thrown <;> rfl

/-- A `with` block of the client: nothing but the attempt when the connection does not open,
and otherwise the calls of the block followed by one `disconnect`, whatever the block does. -/
theorem run_withContext_connect (body : Calls SshCall SshExn α) (calls : List SshCall) :
    run (withContext (connect session device) fun () => body) calls =
      match session.connectHandler (buildParams device) with
      | .error e =>
        (.error (netmikoError device e), calls ++ [.connectHandler (buildParams device)])
      | .ok () =>
        let block := run body (calls ++ [.connectHandler (buildParams device)])
        (match session.disconnect, block.1 with
          | .error e, _ => .error (netmikoError device e)
          | .ok (), .error e => .error (netmikoError device e)
          | .ok (), .ok a => .ok (some a), block.2 ++ [.disconnect]) := by
  have hconnect := run_connect session device calls
  cases hopen : session.connectHandler (buildParams device) with
  | error e =>
    rw [hopen] at hconnect
    exact run_withContext_error hconnect
  | ok u =>
    rw [hopen] at hconnect
    rw [run_withContext hconnect]
    dsimp only
    cases (run body (calls ++ [.connectHandler (buildParams device)])).1 with
    | error e =>
      dsimp only
      rw [run_bind, run_afterYield]
      cases session.disconnect <;> rfl
    | ok a =>
      dsimp only
      rw [run_bind, run_afterYield]
      cases session.disconnect <;> rfl

/-- What a `with` block returns or raises. -/
theorem outcome_withContext_connect (body : Calls SshCall SshExn α) (answer : Except SshExn α)
    (hbody : ∀ calls, (run body calls).1 = answer) (calls : List SshCall) :
    (run (withContext (connect session device) fun () => body) calls).1 =
      (NetmikoSessions.connect session device answer).map some := by
  have hanswer := hbody (calls ++ [.connectHandler (buildParams device)])
  rw [run_withContext_connect]
  unfold NetmikoSessions.connect
  cases session.connectHandler (buildParams device) with
  | error e => rfl
  | ok u =>
    simp only [hanswer]
    cases session.disconnect with
    | error e => rfl
    | ok v => cases answer <;> rfl

/-- A connection is closed once, and only if it was opened. -/
theorem disconnects_withContext_connect (body : Calls SshCall SshExn α)
    (hbody : ∀ calls, (run body calls).2.countP SshCall.isDisconnect =
      calls.countP SshCall.isDisconnect) :
    (run (withContext (connect session device) fun () => body) []).2.countP
        SshCall.isDisconnect =
      if (session.connectHandler (buildParams device)).isOk then 1 else 0 := by
  rw [run_withContext_connect]
  cases session.connectHandler (buildParams device) with
  | error e => rfl
  | ok u =>
    have hcount := hbody ([] ++ [.connectHandler (buildParams device)])
    simp only [List.countP_append, hcount]
    rfl

theorem run_pushBlock (configLines : List String) (calls : List SshCall) :
    run (pushBlock session configLines) calls =
      (do
        let output ← session.sendConfigSet configLines
        session.saveConfig
        return output,
      calls ++ .sendConfigSet configLines ::
        if (session.sendConfigSet configLines).isOk then [.saveConfig] else []) := by
  rw [pushBlock, run_bind, run_call]
  cases session.sendConfigSet configLines with
  | error e => rfl
  | ok output =>
    dsimp only
    rw [run_bind, run_call, List.append_assoc]
    cases session.saveConfig <;> rfl

/-- A push returns and raises what `NetmikoSessions.pushConfig` does. -/
theorem outcome_pushConfig (configLines : List String) :
    (run (pushConfig session device configLines) []).1 =
      (NetmikoSessions.pushConfig session device configLines).map some := by
  refine outcome_withContext_connect session device _ _ (fun calls => ?_) []
  exact congrArg Prod.fst (run_pushBlock session configLines calls)

theorem outcome_sendCommand (command : String) :
    (run (sendCommand session device command) []).1 =
      (NetmikoSessions.sendCommand session device command).map some :=
  outcome_withContext_connect session device _ _ (fun _ => rfl) []

/-- The calls of a push, in order. -/
def pushCalls (configLines : List String) : List SshCall :=
  (run (pushConfig session device configLines) []).2

theorem pushCalls_eq (configLines : List String) : pushCalls session device configLines =
    .connectHandler (buildParams device) ::
      if (session.connectHandler (buildParams device)).isOk then
        .sendConfigSet configLines ::
          (if (session.sendConfigSet configLines).isOk then [.saveConfig] else []) ++ [.disconnect]
      else [] := by
  rw [pushCalls, pushConfig, run_withContext_connect]
  cases session.connectHandler (buildParams device) with
  | error e => rfl
  | ok u => exact congrArg (fun r => r.2 ++ [.disconnect]) (run_pushBlock session configLines _)

end

end DevSecOpsPlatform.SessionCalls
