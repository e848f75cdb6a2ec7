import DevSecOpsPlatform.PlatformModels

/-!
# SSH sessions of the Netmiko client

The world outside decides what each call on a session does. `connect` is the context
manager of `netmiko_client.py`: it opens the connection, runs the body, always
disconnects, and turns whatever was raised inside into a `NetmikoError`. An exception
of `disconnect` replaces the outcome of the body.
-/

namespace DevSecOpsPlatform.NetmikoSessions

open IpAddresses PlatformModels PythonValues

/-- What Netmiko raises, with its text. -/
inductive SshExn where
  | timeout (message : String)
  | authentication (message : String)
  | other (message : String)

structure SshParams where
  deviceType : String
  host : IpAddress
  username : String
  password : String
  port : ℕ
  timeout : ℕ
  bannerTimeout : ℕ
  connTimeout : ℕ

/-- The answers of one SSH session. -/
structure SshSession where
  connectHandler : SshParams → Except SshExn Unit
  sendConfigSet : List String → Except SshExn String
  saveConfig : Except SshExn Unit
  sendCommand : String → Except SshExn String
  disconnect : Except SshExn Unit

/-- A session that answers every command with one text. -/
def SshSession.answering (text : String) : SshSession where
  connectHandler _ := .ok ()
  sendConfigSet _ := .ok text
  saveConfig := .ok ()
  sendCommand _ := .ok text
  disconnect := .ok ()

def defaultTimeout : ℕ := 30

def defaultBannerTimeout : ℕ := 15

def buildParams (device : Device) : SshParams where
  deviceType := device.netmikoDeviceType
  host := device.ipAddress
  username := device.sshUsername
  password := device.sshPassword
  port := device.sshPort
  timeout := defaultTimeout
  bannerTimeout := defaultBannerTimeout
  connTimeout := 15

def netmikoError (device : Device) : SshExn → Exn
  | .timeout e => ⟨.netmikoError, "Timeout connecting to " ++ device.hostname ++ ": " ++ e⟩
  | .authentication e => ⟨.netmikoError, "Auth failed for " ++ device.hostname ++ ": " ++ e⟩
  | .other e => ⟨.netmikoError, "Connection error on " ++ device.hostname ++ ": " ++ e⟩

/-- `with client.connect() as conn: body`. -/
def connect {α : Type} (session : SshSession) (device : Device) (body : Except SshExn α) :
    Except Exn α :=
  match session.connectHandler (buildParams device) with
  | .error e => .error (netmikoError device e)
  | .ok () =>
    match session.disconnect, body with
    | .error e, _ => .error (netmikoError device e)
    | .ok (), .error e => .error (netmikoError device e)
    | .ok (), .ok a => .ok a

def pushConfig (session : SshSession) (device : Device) (configLines : List String) :
    Except Exn String :=
  connect session device do
    let output ← session.sendConfigSet configLines
    session.saveConfig
    return output

def sendCommand (session : SshSession) (device : Device) (command : String) : Except Exn String :=
  connect session device (session.sendCommand command)

def getRunningConfig (session : SshSession) (device : Device) : Except Exn String :=
  sendCommand session device "show running-config"

/-- Whatever goes wrong in a session surfaces as a `NetmikoError`. -/
theorem connect_error_cls {α : Type} {session : SshSession} {device : Device}
    {body : Except SshExn α} {e : Exn} (h : connect session device body = .error e) :
    e.cls = .netmikoError := by
  have herr (x : SshExn) : (netmikoError device x).cls = .netmikoError := by cases x <;> rfl
  unfold connect at h
  split at h
  · cases h
    exact herr _
  · split at h
    · cases h
      exact herr _
    · cases h
      exact herr _
    · cases h

/-- A block returns when the connection opens, its body returns and the connection closes. -/
theorem connect_eq_ok_iff {α : Type} {session : SshSession} {device : Device}
    {body : Except SshExn α} {a : α} : connect session device body = .ok a ↔
      session.connectHandler (buildParams device) = .ok () ∧ body = .ok a ∧
        session.disconnect = .ok () := by
  unfold connect
  cases session.connectHandler (buildParams device) with
  | error e => simp
  | ok u =>
    cases session.disconnect with
    | error e => simp
    | ok v => cases body <;> simp

end DevSecOpsPlatform.NetmikoSessions
