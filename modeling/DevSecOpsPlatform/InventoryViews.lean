import DevSecOpsPlatform.InventoryTasks
import DevSecOpsPlatform.PlatformSerializers

/-!
# The inventory endpoints

`DeviceViewSet` and `DiscoveryJobViewSet`. A body arrives as the fields a serializer
reads from it, each present or absent; what the serializer does not list is not there.
An update loads the row, validates, and saves every column of the object.
-/

namespace DevSecOpsPlatform.InventoryViews

open KeyedTables StatementPrograms PlatformModels PlatformStore RolePermissions PythonValues
open PlatformSerializers IpAddresses

/-- The writable fields of `DeviceSerializer`, each value as its field's
`to_internal_value` gives it. -/
structure DeviceData where
  hostname : Option String := none
  ipAddress : Option String := none
  deviceType : Option DeviceType := none
  vendor : Option Vendor := none
  osVersion : Option String := none
  description : Option String := none
  status : Option DeviceStatus := none
  sshUsername : Option String := none
  sshPort : Option ℕ := none
  snmpCommunity : Option String := none
  snmpVersion : Option String := none
  site : Option String := none
  rack : Option String := none
  tags : Option Json := none

/-- A `CharField` value: within the length, without NUL characters, and not blank unless the
column may be. -/
def textOk (maxLength : ℕ) (blank : Bool) : Option String → Bool
  | none => true
  | some s => decide (s.length ≤ maxLength) && (blank || s != "") && !s.toList.any Json.isNul

/-- The same of a field without a length. -/
def longTextOk (blank : Bool) : Option String → Bool
  | none => true
  | some s => (blank || s != "") && storable [s]

/-- `DeviceSerializer.validate_ip_address`. -/
def validateIpAddress (value : String) : Except Exn IpAddress :=
  match ipAddress value with
  | some a => .ok a
  | none => .error (invalidError "Invalid IP address format.")

/-- The largest integer that the column of the port holds. -/
def maxPort : ℕ := 2147483647

def DeviceData.fieldsOk (data : DeviceData) : Bool :=
  textOk 255 false data.hostname && textOk 128 true data.osVersion &&
    longTextOk true data.description && textOk 64 false data.sshUsername &&
    data.sshPort.all (fun port => decide (port ≤ maxPort)) && textOk 64 false data.snmpCommunity &&
    textOk 4 false data.snmpVersion && textOk 128 true data.site && textOk 64 true data.rack

/-- The attributes of the object after `setattr` of every field that was given. -/
def DeviceData.apply (data : DeviceData) (address : Option IpAddress) (d : Device) : Device :=
  { d with
    hostname := data.hostname.getD d.hostname
    ipAddress := address.getD d.ipAddress
    deviceType := data.deviceType.getD d.deviceType
    vendor := data.vendor.getD d.vendor
    osVersion := data.osVersion.getD d.osVersion
    description := data.description.getD d.description
    status := data.status.getD d.status
    sshUsername := data.sshUsername.getD d.sshUsername
    sshPort := data.sshPort.getD d.sshPort
    snmpCommunity := data.snmpCommunity.getD d.snmpCommunity
    snmpVersion := data.snmpVersion.getD d.snmpVersion
    site := data.site.getD d.site
    rack := data.rack.getD d.rack
    tags := data.tags.getD d.tags }

/-- The address that was given, when it is one. -/
def DeviceData.address (data : DeviceData) : Except Exn (Option IpAddress) :=
  match data.ipAddress with
  | none => .ok none
  | some value => some <$> validateIpAddress value

/-- `DeviceSerializer.is_valid`: the address that was given, when every field passes. The
two unique columns are looked up among the other devices. -/
def validateDevice (self : Option DeviceId) (data : DeviceData) : Statement (Option IpAddress) :=
  .statement fun db => do
    require data.fieldsOk (invalidError "Invalid input.")
    let address ← data.address
    require (db.devices.select (fun id e => decide (some id ≠ self) &&
        (decide (data.hostname = some e.hostname) ||
          decide (address = some e.ipAddress)))).isEmpty
      (invalidError "device with this hostname or ip address already exists.")
    return (address, db)

def createDevice (caller : Option UserId) (now : DateTime) (data : DeviceData) :
    Statement Response := do
  let user ← permit (readOnlyOrAbove .post) caller
  let address ← validateDevice none data
  match data.hostname, address with
  | some hostname, some address =>
    let device : Device := data.apply address {
      hostname, ipAddress := address, createdAt := now, updatedAt := now
      createdBy := some user.id }
    let id ← Device.create device
    return ⟨201, deviceData id device⟩
  | _, _ => throw (invalidError "This field is required.")

/-- The object is saved right after its `updated_at`. -/
def saveDevice (id : DeviceId) (d : Device) : Statement Device :=
  saveRow (·.devices) (fun db t => { db with devices := t })
    (fun db => do
      require (!d.tags.hasNul) nulJsonError
      require (refersToOrNull db.users d.createdBy) foreignKeyError
      require (deviceUnique db (some id) d) uniqueError)
    id d { d with createdAt := d.updatedAt }

/-- `update` and `partial_update`: PUT requires the fields that have no default. -/
def updateDevice (caller : Option UserId) (method : Method) (now : DateTime) (id : DeviceId)
    (data : DeviceData) : Statement Response := do
  let _ ← permit (readOnlyOrAbove method) caller
  let device ← getObject (fun db => db.devices.get? id)
  let address ← validateDevice (some id) data
  if method = .put ∧ (data.hostname = none ∨ address = none) then
    throw (invalidError "This field is required.")
  let device ← saveDevice id { data.apply address device with updatedAt := now }
  return ⟨200, deviceData id device⟩

def destroyDevice (caller : Option UserId) (id : DeviceId) : Statement Response := do
  let _ ← permit (readOnlyOrAbove .delete) caller
  let _ ← getObject (fun db => db.devices.get? id)
  Device.delete id
  return ⟨204, .null⟩

def checkReachability (caller : Option UserId) (id : DeviceId) (taskId : String) :
    Statement Response := do
  let _ ← permit isAdminOrNetworkEngineer caller
  let device ← getObject (fun db => db.devices.get? id)
  let taskId ← delay taskId (.checkDeviceReachability id)
  return ⟨200, .obj [("task_id", .str taskId),
    ("message", .str ("Reachability check started for " ++ device.hostname))]⟩

/-- `DiscoveryJobViewSet.create`. -/
def createDiscoveryJob (caller : Option UserId) (now : DateTime) (subnet : Option String)
    (taskId : String) : Statement Response := do
  let user ← permit isAdminOrNetworkEngineer caller
  match subnet with
  | none => throw (invalidError "This field is required.")
  | some subnet =>
    if !textOk 64 false subnet then
      throw (invalidError "Ensure this field has no more than 64 characters.")
    let job : DiscoveryJob := {
      subnet, initiatedBy := some user.id, status := .pending, createdAt := now }
    let jobId ← DiscoveryJob.create job
    let taskId ← delay taskId (.runDiscovery jobId)
    DiscoveryJob.save jobId (fun j => { j with celeryTaskId := taskId })
    let data ← Program.query (fun db =>
      discoveryJobData db jobId { job with celeryTaskId := taskId })
    return ⟨201, data⟩

end DevSecOpsPlatform.InventoryViews
