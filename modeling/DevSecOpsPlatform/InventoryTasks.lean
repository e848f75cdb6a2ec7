import DevSecOpsPlatform.PlatformStore

/-!
# The inventory tasks

`apps/inventory/tasks.py`: discovery of a subnet and the reachability checks. The network
is a parameter: the outcomes of the `ping` process, of the SNMP query, of the reverse
lookup, and the addresses of a subnet. Discovery keeps its counters and its log when an
exception ends the loop, so the loop returns them together with the exception.
-/

namespace DevSecOpsPlatform.InventoryTasks

open KeyedTables StatementPrograms PlatformModels PlatformStore PythonValues
open IpAddresses

/-- How a `subprocess.run` ends. -/
inductive ProcessOutcome where
  | exit (returncode : ℤ)
  | timeoutExpired
  | fileNotFound
  | raised (exc : Exn)

structure Network where
  /-- `ping -c 1` of the address. -/
  ping : String → ProcessOutcome
  /-- `ping -n 1` of the address, the Windows spelling. -/
  pingFallback : String → ProcessOutcome
  /-- The SNMP answer: whether it reports an error, and the name it carries. -/
  getCmd : String → String → Except Exn (Bool × String)
  /-- `socket.gethostbyaddr(ip)[0]`; the flag of a failure says whether it is a `herror`. -/
  gethostbyaddr : String → Except (Bool × Exn) String
  /-- `list(ipaddress.ip_network(subnet, strict=False).hosts())`. -/
  hosts : String → Except Exn (List IpAddress)
  clock : ℕ → DateTime
  snmpCommunity : String

def ping (net : Network) (ip : String) : Except Exn Bool :=
  match net.ping ip with
  | .exit code => .ok (code == 0)
  | .raised exc => .error exc
  | .timeoutExpired | .fileNotFound =>
    match net.pingFallback ip with
    | .exit code => .ok (code == 0)
    | _ => .ok false

def snmpGetHostname (net : Network) (ip community : String) : String :=
  match net.getCmd ip community with
  | .ok (false, name) => name
  | .ok (true, _) | .error _ => ""

def resolveHostname (net : Network) (ip : String) : Except Exn String :=
  match net.gethostbyaddr ip with
  | .ok name => .ok name
  | .error (true, _) => .ok ""
  | .error (false, exc) => .error exc

/-- `snmp_name or dns_name or ip.replace(".", "-")`. -/
def chooseHostname (snmpName dnsName ip : String) : String :=
  if snmpName ≠ "" then snmpName
  else if dnsName ≠ "" then dnsName
  else String.ofList (ip.toList.map (fun c => if c = '.' then '-' else c))

/-- The counters and the log of a discovery. -/
structure Discovered where
  found : ℕ := 0
  added : ℕ := 0
  logLines : List String

/-- The loop over the hosts from the host numbered `n` on; it ends early with the
exception that a host raises. -/
def discoverHosts (net : Network) : ℕ → List IpAddress → Discovered →
    Statement (Discovered × Option Exn)
  | _, [], acc => return (acc, none)
  | n, host :: hosts, acc => do
    let ip := host.text
    match ping net ip with
    | .error exc => return (acc, some exc)
    | .ok false => discoverHosts net (n + 1) hosts acc
    | .ok true =>
      let acc := { acc with
        found := acc.found + 1, logLines := acc.logLines ++ ["[ALIVE] " ++ ip] }
      let known ← Program.query (fun db =>
        !(db.devices.select (fun _ d => decide (d.ipAddress = host))).isEmpty)
      if known then
        discoverHosts net (n + 1) hosts { acc with
          logLines := acc.logLines ++ ["  → already in inventory, skipping"] }
      else
        let snmpName := snmpGetHostname net ip net.snmpCommunity
        match resolveHostname net ip with
        | .error exc => return (acc, some exc)
        | .ok dnsName =>
          let hostname := chooseHostname snmpName dnsName ip
          match ← (Device.create {
              hostname, ipAddress := host, status := .online
              discoveredAt := some (net.clock (n + 2)), snmpCommunity := net.snmpCommunity
              createdAt := net.clock (n + 2), updatedAt := net.clock (n + 2) }).attempt with
          | .error exc => return (acc, some exc)
          | .ok _ =>
            discoverHosts net (n + 1) hosts { acc with
              added := acc.added + 1
              logLines := acc.logLines ++ ["  → added as '" ++ hostname ++ "'"] }

/-- The `try` block of `run_discovery`, with the exception that ends it. -/
def discoverSubnet (net : Network) (subnet : String) (acc : Discovered) :
    Statement (Discovered × Option Exn) :=
  match net.hosts subnet with
  | .error exc => return (acc, some exc)
  | .ok hosts => discoverHosts net 0 hosts acc

def runDiscovery (net : Network) (jobId : DiscoveryJobId) : Statement Json := do
  let job ← DiscoveryJob.get jobId
  DiscoveryJob.save jobId (fun j =>
    { j with status := .running, startedAt := some (net.clock 0) })
  let start : Discovered := {
    logLines := ["[" ++ isoText (net.clock 1) ++ "] Starting discovery on " ++ job.subnet] }
  let (result, failure) ← discoverSubnet net job.subnet start
  let (status, logLines) : DiscoveryStatus × List String := match failure with
    | none => (.completed, result.logLines)
    | some exc => (.failed, result.logLines ++ ["[ERROR] " ++ exc.message])
  DiscoveryJob.save jobId (fun j => { j with
    status, completedAt := some (net.clock 2), devicesFound := result.found
    devicesAdded := result.added, log := "\n".intercalate logLines })
  return .obj [("found", .nat result.found), ("added", .nat result.added)]

/-- What the loop writes are the devices that it adds. -/
theorem writes_discoverHosts {R : Platform → Platform → Prop} [Std.Refl R] (net : Network)
    (hcreate : ∀ d, (Device.create d).Writes R) (n : ℕ) (hosts : List IpAddress)
    (acc : Discovered) : (discoverHosts net n hosts acc).Writes R := by
  induction hosts generalizing n acc with
  | nil => trivial
  | cons host hosts ih =>
    unfold discoverHosts
    dsimp only
    split
    · trivial
    · exact ih (n + 1) acc
    · refine (Program.writes_query _).bind fun known => ?_
      split
      · exact ih (n + 1) _
      · split
        · trivial
        · refine (hcreate _).attempt.bind fun created => ?_
          split
          · trivial
          · exact ih (n + 1) _

theorem writes_discoverSubnet {R : Platform → Platform → Prop} [Std.Refl R] (net : Network)
    (hcreate : ∀ d, (Device.create d).Writes R) (subnet : String) (acc : Discovered) :
    (discoverSubnet net subnet acc).Writes R := by
  unfold discoverSubnet
  split
  · trivial
  · exact writes_discoverHosts net hcreate 0 _ acc

theorem writes_runDiscovery {R : Platform → Platform → Prop} [Std.Refl R] (net : Network)
    (jobId : DiscoveryJobId) (hsave : ∀ set, (DiscoveryJob.save jobId set).Writes R)
    (hcreate : ∀ d, (Device.create d).Writes R) : (runDiscovery net jobId).Writes R := by
  have hget : (DiscoveryJob.get jobId).Writes R := by
    refine Program.writes_statement (fun db job db' h => ?_)
    split at h
    · obtain ⟨-, rfl⟩ := Prod.mk.inj (Except.ok.inj h)
      exact refl db
    · cases h
  refine hget.bind fun job => (hsave _).bind fun _ => ?_
  refine (writes_discoverSubnet net hcreate job.subnet _).bind fun result => ?_
  exact (hsave _).bind fun _ => trivial

def checkDeviceReachability (net : Network) (deviceId : DeviceId) : Statement Json := do
  let device ← Device.get deviceId
  let reachable ← Program.ofExcept (ping net device.ipAddress.text)
  let newStatus : DeviceStatus := if reachable then .online else .offline
  Program.execute fun db => { db with
    devices := db.devices.update deviceId (fun d => { d with status := newStatus }) }
  return .obj [("device_id", .nat deviceId), ("status", .str newStatus.value)]

/-- The messages `refresh_all_device_status` puts on the queue, one statement each. -/
def queueChecks (taskId : ℕ → String) : ℕ → List DeviceId → Statement Unit
  | _, [] => return ()
  | n, id :: ids => do
    let _ ← delay (taskId n) (.checkDeviceReachability id)
    queueChecks taskId (n + 1) ids

def refreshAllDeviceStatus (taskId : ℕ → String) : Statement Json := do
  let deviceIds ← Program.query (fun db => (byHostname db.devices.rows).map Prod.fst)
  queueChecks taskId 0 deviceIds
  return .obj [("queued", .nat deviceIds.length)]

end DevSecOpsPlatform.InventoryTasks
