import DevSecOpsPlatform.InventoryViews
import DevSecOpsPlatform.ProvisioningTasks

/-!
# The provisioning endpoints

`ConfigTemplateViewSet` and `ProvisioningJobViewSet`. Creating a job writes the row and its
devices, enqueues the task, and then saves the identifier that the queue gave the task.
-/

namespace DevSecOpsPlatform.ProvisioningViews

open KeyedTables StatementPrograms PlatformModels PlatformStore RolePermissions PythonValues
open PlatformSerializers TemplateRendering InventoryViews

/-! ### Templates -/

/-- The writable fields of `ConfigTemplateSerializer`. -/
structure ConfigTemplateData where
  name : Option String := none
  templateType : Option TemplateType := none
  description : Option String := none
  body : Option String := none
  variablesSchema : Option Json := none
  vendor : Option String := none

def ConfigTemplateData.apply (data : ConfigTemplateData) (t : ConfigTemplate) : ConfigTemplate :=
  { t with
    name := data.name.getD t.name
    templateType := data.templateType.getD t.templateType
    description := data.description.getD t.description
    body := data.body.getD t.body
    variablesSchema := data.variablesSchema.getD t.variablesSchema
    vendor := data.vendor.getD t.vendor }

/-- No other template has the name. -/
def templateUnique (db : Platform) (self : Option ConfigTemplateId) (name : String) : Bool :=
  (db.configTemplates.select (fun id t => decide (some id ≠ self) && t.name == name)).isEmpty

/-- `ConfigTemplateSerializer.is_valid`. -/
def validateTemplate (self : Option ConfigTemplateId) (data : ConfigTemplateData) :
    Statement Unit :=
  .statement fun db => do
    require (textOk 255 false data.name && textOk 32 true data.vendor &&
      longTextOk true data.description && longTextOk false data.body &&
      data.variablesSchema.all (fun v => match v with | .null => false | _ => true))
      (invalidError "Invalid input.")
    require (data.name.all (templateUnique db self))
      (invalidError "config template with this name already exists.")
    return ((), db)

def createTemplate (caller : Option UserId) (now : DateTime) (data : ConfigTemplateData) :
    Statement Response := do
  let user ← permit isAdminOrNetworkEngineer caller
  validateTemplate none data
  match data.name, data.body with
  | some name, some body =>
    let template : ConfigTemplate := data.apply {
      name, body, createdBy := some user.id, createdAt := now, updatedAt := now }
    let id ← ConfigTemplate.create template
    let data ← Program.query (fun db => configTemplateData db id template)
    return ⟨201, data⟩
  | _, _ => throw (invalidError "This field is required.")

/-- The object is saved right after its `updated_at`. -/
def saveTemplate (id : ConfigTemplateId) (t : ConfigTemplate) : Statement ConfigTemplate :=
  saveRow (·.configTemplates) (fun db rows => { db with configTemplates := rows })
    (fun db => do
      require (!t.variablesSchema.hasNul) nulJsonError
      require (refersToOrNull db.users t.createdBy) foreignKeyError
      require (templateUnique db (some id) t.name) uniqueError)
    id t { t with createdAt := t.updatedAt }

def updateTemplate (caller : Option UserId) (method : Method) (now : DateTime)
    (id : ConfigTemplateId) (data : ConfigTemplateData) : Statement Response := do
  let _ ← permit isAdminOrNetworkEngineer caller
  let template ← getObject (fun db => db.configTemplates.get? id)
  validateTemplate (some id) data
  if method = .put ∧ (data.name = none ∨ data.body = none) then
    throw (invalidError "This field is required.")
  let template ← saveTemplate id { data.apply template with updatedAt := now }
  let data ← Program.query (fun db => configTemplateData db id template)
  return ⟨200, data⟩

def destroyTemplate (caller : Option UserId) (id : ConfigTemplateId) : Statement Response := do
  let _ ← permit isAdminOrNetworkEngineer caller
  let _ ← getObject (fun db => db.configTemplates.get? id)
  ConfigTemplate.delete id
  return ⟨204, .null⟩

/-- `ConfigTemplateViewSet.preview`, on the `variables` of the body. -/
def preview (jinja : Jinja) (caller : Option UserId) (id : ConfigTemplateId)
    (vars : Option Json) : Statement Response := do
  let _ ← permit isAdminOrNetworkEngineer caller
  let template ← getObject (fun db => db.configTemplates.get? id)
  match renderTemplate jinja template.body (vars.getD (.obj [])) with
  | .ok rendered => return ⟨200, .obj [("rendered", .str rendered)]⟩
  | .error exc =>
    if exc.cls ≠ .valueError then throw exc
    return ⟨400, .obj [("error", .str exc.message)]⟩

/-! ### Jobs -/

/-- The writable fields of `ProvisioningJobSerializer`. -/
structure ProvisioningJobData where
  template : Option ConfigTemplateId := none
  deviceIds : Option (List DeviceId) := none
  jobVariables : Option Json := none

/-- `ProvisioningJobSerializer.is_valid`, with the keys of the devices. -/
def validateJob (data : ProvisioningJobData) : Statement (List DeviceId) :=
  .statement fun db => match data.deviceIds with
    | none => .error (invalidError "This field is required.")
    | some deviceIds => do
      require (refersToOrNull db.configTemplates data.template &&
        deviceIds.all (refersTo db.devices)) (invalidError "Invalid pk - object does not exist.")
      require (data.jobVariables.all (fun v => match v with | .null => false | _ => true))
        (invalidError "This field may not be null.")
      return (deviceIds, db)

/-- The row that `serializer.save(initiated_by=request.user)` inserts. -/
def ProvisioningJobData.row (data : ProvisioningJobData) (user : UserId) (now : DateTime) :
    ProvisioningJob where
  template := data.template
  jobVariables := data.jobVariables.getD (.obj [])
  initiatedBy := some user
  createdAt := now

/-- `ProvisioningJobViewSet.create`. -/
def createProvisioningJob (caller : Option UserId) (now : DateTime) (data : ProvisioningJobData)
    (taskId : String) : Statement Response := do
  let user ← permit isAdminOrNetworkEngineer caller
  let deviceIds ← validateJob data
  let job := data.row user.id now
  let jobId ← ProvisioningJob.create job
  ProvisioningJob.setDevices jobId deviceIds
  let taskId ← delay taskId (.executeProvisioningJob jobId)
  ProvisioningJob.save jobId (fun j => { j with celeryTaskId := taskId })
  let data ← Program.query (fun db =>
    provisioningJobData db jobId { job with celeryTaskId := taskId })
  return ⟨201, data⟩

theorem writes_validateJob {R : Platform → Platform → Prop} [Std.Refl R]
    (data : ProvisioningJobData) : (validateJob data).Writes R := by
  refine Program.writes_statement (fun db a db' h => ?_)
  split at h
  · cases h
  · obtain ⟨_, -, h⟩ := ok_of_bind h
    obtain ⟨_, -, h⟩ := ok_of_bind h
    obtain rfl := (Prod.mk.inj (Except.ok.inj h)).2
    exact refl db

/-- What holds of its four writes holds of the creation of a job. -/
theorem writes_createProvisioningJob {R : Platform → Platform → Prop} [Std.Refl R]
    {caller : Option UserId} {now : DateTime} {data : ProvisioningJobData} {taskId : String}
    (hinsert : ∀ (db : Platform) (user : UserId), (data.row user now).jobVariables.hasNul = false →
      R db { db with provisioningJobs :=
        db.provisioningJobs.insert (ProvisioningJob.stored (data.row user now)) })
    (hdevices : ∀ (db : Platform) (id : ProvisioningJobId) (devices : List DeviceId),
      R db { db with jobDevices := db.jobDevices ++ devices.dedup.map (fun d => (id, d)) })
    (hdelay : ∀ (db : Platform) (m : TaskMessage),
      R db { db with queue := db.queue ++ [(taskId, m)] })
    (htask : ∀ (db : Platform) (id : ProvisioningJobId), R db { db with
      provisioningJobs := db.provisioningJobs.update id
        (fun j => { j with celeryTaskId := taskId }) }) :
    (createProvisioningJob caller now data taskId).Writes R := by
  refine (writes_permit _ _).bind fun user => (writes_validateJob data).bind fun deviceIds => ?_
  refine (writes_insertRow_of_ok fun db _ hok => ?_).bind fun jobId => ?_
  · obtain ⟨_, hnul, -⟩ := ok_of_bind hok
    exact hinsert db user.id (by simpa using require_eq_ok hnul)
  refine Program.Writes.bind (Program.writes_statement fun db a db' h => ?_) fun _ => ?_
  · split at h
    · obtain rfl := (Prod.mk.inj (Except.ok.inj h)).2
      exact hdevices db jobId deviceIds
    · cases h
  · refine writes_delay_bind (fun db => hdelay db _) ?_
    refine (writes_saveFields fun db => htask db jobId).bind fun _ => ?_
    exact (Program.writes_query _).bind fun _ => trivial

end DevSecOpsPlatform.ProvisioningViews
