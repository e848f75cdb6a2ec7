import DevSecOpsPlatform.InventoryViews
import DevSecOpsPlatform.SecurityTasks

/-!
# The security endpoints

`ComplianceRuleViewSet`, `SecurityActionViewSet` and `UserProfileViewSet`; `set_golden`
stands with the tasks it shares its table with. An action only puts a task on the queue.
-/

namespace DevSecOpsPlatform.SecurityViews

open KeyedTables StatementPrograms PlatformModels PlatformStore RolePermissions PythonValues
open PlatformSerializers InventoryViews

/-! ### Rules -/

/-- The writable fields of `ComplianceRuleSerializer`. -/
structure ComplianceRuleData where
  name : Option String := none
  description : Option String := none
  checkCommand : Option String := none
  expectedPattern : Option String := none
  mustMatch : Option Bool := none
  severity : Option RuleSeverity := none
  remediation : Option String := none
  isActive : Option Bool := none

def ComplianceRuleData.apply (data : ComplianceRuleData) (r : ComplianceRule) : ComplianceRule :=
  { r with
    name := data.name.getD r.name
    description := data.description.getD r.description
    checkCommand := data.checkCommand.getD r.checkCommand
    expectedPattern := data.expectedPattern.getD r.expectedPattern
    mustMatch := data.mustMatch.getD r.mustMatch
    severity := data.severity.getD r.severity
    remediation := data.remediation.getD r.remediation
    isActive := data.isActive.getD r.isActive }

/-- No other rule has the name. -/
def ruleUnique (db : Platform) (self : Option ComplianceRuleId) (name : String) : Bool :=
  (db.complianceRules.select (fun id r => decide (some id ≠ self) && r.name == name)).isEmpty

/-- `ComplianceRuleSerializer.is_valid`. -/
def validateRule (self : Option ComplianceRuleId) (data : ComplianceRuleData) : Statement Unit :=
  .statement fun db => do
    require (textOk 255 false data.name && longTextOk false data.description &&
      textOk 255 false data.checkCommand && textOk 512 false data.expectedPattern &&
      longTextOk true data.remediation)
      (invalidError "Invalid input.")
    require (data.name.all (ruleUnique db self))
      (invalidError "compliance rule with this name already exists.")
    return ((), db)

def createRule (caller : Option UserId) (now : DateTime) (data : ComplianceRuleData) :
    Statement Response := do
  let _ ← permit isAdminOrNetworkEngineer caller
  validateRule none data
  match data.name, data.description, data.checkCommand, data.expectedPattern with
  | some name, some description, some checkCommand, some expectedPattern =>
    let rule : ComplianceRule := data.apply {
      name, description, checkCommand, expectedPattern, createdAt := now }
    let id ← ComplianceRule.create rule
    return ⟨201, complianceRuleData id rule⟩
  | _, _, _, _ => throw (invalidError "This field is required.")

def saveRule (id : ComplianceRuleId) (r : ComplianceRule) (now : DateTime) :
    Statement ComplianceRule :=
  saveRow (·.complianceRules) (fun db rows => { db with complianceRules := rows })
    (fun db => require (ruleUnique db (some id) r.name) uniqueError)
    id r { r with createdAt := now }

def updateRule (caller : Option UserId) (method : Method) (now : DateTime) (id : ComplianceRuleId)
    (data : ComplianceRuleData) : Statement Response := do
  let _ ← permit isAdminOrNetworkEngineer caller
  let rule ← getObject (fun db => db.complianceRules.get? id)
  validateRule (some id) data
  if method = .put ∧ (data.name = none ∨ data.description = none ∨ data.checkCommand = none ∨
      data.expectedPattern = none) then
    throw (invalidError "This field is required.")
  let rule ← saveRule id (data.apply rule) now
  return ⟨200, complianceRuleData id rule⟩

def destroyRule (caller : Option UserId) (id : ComplianceRuleId) : Statement Response := do
  let _ ← permit isAdminOrNetworkEngineer caller
  let _ ← getObject (fun db => db.complianceRules.get? id)
  ComplianceRule.delete id
  return ⟨204, .null⟩

/-! ### Actions -/

/-- An action on the device of the body, which must be given and not be zero. -/
def deviceAction (caller : Option UserId) (deviceId : Option DeviceId) (taskId : String)
    (message : DeviceId → UserId → TaskMessage) : Statement Response := do
  let user ← permit isAdminOrNetworkEngineer caller
  match deviceId with
  | none | some 0 => return ⟨400, .obj [("error", .str "device_id required")]⟩
  | some deviceId =>
    let taskId ← delay taskId (message deviceId user.id)
    return ⟨200, .obj [("task_id", .str taskId)]⟩

def runCompliance (caller : Option UserId) (deviceId : Option DeviceId)
    (ruleIds : Option (List ComplianceRuleId)) (taskId : String) : Statement Response :=
  deviceAction caller deviceId taskId
    (fun deviceId user => .runComplianceCheck deviceId ruleIds (some user))

def runDrift (caller : Option UserId) (deviceId : Option DeviceId) (taskId : String) :
    Statement Response :=
  deviceAction caller deviceId taskId (fun deviceId user => .runDriftDetection deviceId (some user))

def takeSnapshot (caller : Option UserId) (deviceId : Option DeviceId) (setGolden : Bool)
    (taskId : String) : Statement Response :=
  deviceAction caller deviceId taskId
    (fun deviceId user => .takeConfigSnapshot deviceId setGolden (some user))

/-! ### Users -/

/-- `UserProfileViewSet.create`: the serializer has no field for the user, whose column may
not be null. -/
def createUserProfile (caller : Option UserId) : Statement Response := do
  let _ ← permit isAdminOnly caller
  throw notNullError

def saveUserProfile (id : ℕ) (p : UserProfile) (now : DateTime) : Statement UserProfile :=
  saveRow (·.profiles) (fun db rows => { db with profiles := rows })
    (fun db => do
      require (refersTo db.users p.user) foreignKeyError
      require (db.profiles.select (fun k q => decide (k ≠ id) && q.user == p.user)).isEmpty
        uniqueError)
    id p { p with createdAt := now }

def updateUserProfile (caller : Option UserId) (now : DateTime) (id : ℕ) (role : Option Role) :
    Statement Response := do
  let _ ← permit isAdminOnly caller
  let profile ← getObject (fun db => db.profiles.get? id)
  let profile ← saveUserProfile id { profile with role := role.getD profile.role } now
  let data ← Program.query (fun db => userProfileData db id profile)
  return ⟨200, data⟩

def destroyUserProfile (caller : Option UserId) (id : ℕ) : Statement Response := do
  let _ ← permit isAdminOnly caller
  let _ ← getObject (fun db => db.profiles.get? id)
  UserProfile.delete id
  return ⟨204, .null⟩

end DevSecOpsPlatform.SecurityViews
