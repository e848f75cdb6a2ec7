import DevSecOpsPlatform.AnsweredRequests
import DevSecOpsPlatform.PrivilegeConfinement
import DevSecOpsPlatform.ReferentialIntegrity

/-!
# Deletions that are final

A save writes every column of a row, and inserts the row again when it is gone. So an update
that has loaded a row before it is deleted can bring it back. That is the only way back: when
every such update has ended, a deleted device is never in the inventory again and nothing is on
record about it, and a user without a profile never has a role again.
-/

namespace DevSecOpsPlatform.FinalDeletions

open KeyedTables StatementPrograms PlatformModels PlatformStore RolePermissions PythonValues
open InventoryTasks InventoryViews ProvisioningTasks SecurityViews PlatformOperations
open OperationStatements PlatformChanges RoleNoninterference PrivilegeConfinement
open ReferentialIntegrity OrphanJobs JobMessages AnsweredRequests
open JobHandoffs (Worker)

/-! ### Devices -/

section

variable {id : DeviceId} {db db' : Platform}

/-- The device has been in the inventory and is no more. -/
def DeviceGone (id : DeviceId) (db : Platform) : Prop := db.devices.Gone id

instance (id : DeviceId) (db : Platform) : Decidable (DeviceGone id db) :=
  inferInstanceAs (Decidable (db.devices.Gone id))

/-- Nothing is on record about the device. -/
structure Unrecorded (id : DeviceId) (db : Platform) : Prop where
  jobDevices : ∀ m ∈ db.jobDevices, m.2 ≠ id
  provisioningResults : Lacks (fun r => some r.device) (some id) db.provisioningResults
  auditLogs : Lacks AuditLog.device (some id) db.auditLogs
  alerts : Lacks Alert.device (some id) db.alerts
  complianceChecks : Lacks (fun c => some c.device) (some id) db.complianceChecks
  configSnapshots : Lacks (fun s => some s.device) (some id) db.configSnapshots
  driftReports : Lacks (fun r => some r.device) (some id) db.driftReports

theorem unrecorded_of_gone (h : ToDevices db db.devices) (hgone : DeviceGone id db) :
    Unrecorded id db where
  jobDevices m hm heq := by
    have hrow := h.jobDevices m hm id (congrArg some heq)
    simp [hgone.1] at hrow
  provisioningResults := h.provisioningResults.lacks hgone
  auditLogs := h.auditLogs.lacks hgone
  alerts := h.alerts.lacks hgone
  complianceChecks := h.complianceChecks.lacks hgone
  configSnapshots := h.configSnapshots.lacks hgone
  driftReports := h.driftReports.lacks hgone

/-- The statement brings no deleted device back. -/
abbrev KeepsGone (id : DeviceId) : Platform → Platform → Prop := Program.Preserving (DeviceGone id)

theorem writes_createDevice (d : Device) : (Device.create d).Writes (KeepsGone id) :=
  writes_insertRow fun _ h => h.insert d

/-- The save of another device is one of the statements that bring no device back. -/
theorem vocabulary_gone :
    Vocabulary (fun _ p => p.Writes (KeepsGone id)) (fun s => s ≠ .saveDevice id)
      (fun _ => True) where
  ret _ := trivial
  raise _ := trivial
  bind hp hf := hp.bind hf
  attempt hp := hp.attempt
  nobody := trivial
  lookUp hf := writes_lookUp hf
  gated _ _ _ hf := writes_permit_bind hf
  query _ := Program.writes_query _
  getAlert _ _ hf := (writes_getObject _).bind fun _ => hf _ _
  delay _ _ _ := fun _ => ⟨fun h => h, trivial⟩
  createDevice d _ := writes_createDevice d
  saveDevice _ _ hk := writes_saveRow_of_ok fun _ _ _ _ h =>
    h.store (fun heq => hk (congrArg _ heq.symm)) _
  setDeviceStatus _ _ _ := Program.writes_execute fun _ h => h.mapRows _
  deleteDevice _ _ := Program.writes_execute fun _ h => h.deleteWhere _
  createDiscoveryJob _ _ _ := writes_insertRow fun _ h => h
  setDiscoveryTask _ _ := writes_saveFields fun _ h => h
  createTemplate _ _ := writes_insertRow fun _ h => h
  saveTemplate _ _ := writes_saveRow_of_ok fun _ _ _ _ h => h
  deleteTemplate _ := Program.writes_execute fun _ h => h
  createLog _ _ _ hq := (writes_insertRow fun _ h => h).bind fun _ => hq
  updateOrCreateAlert := writes_updateOrCreate_of fun _ _ _ h => h
  saveAcknowledged _ _ := writes_saveFields fun _ h => h
  saveAlert _ _ := writes_saveRow_of_ok fun _ _ _ _ h => h
  createRule _ := writes_insertRow fun _ h => h
  saveRule _ _ _ := writes_saveRow_of_ok fun _ _ _ _ h => h
  deleteRule _ := Program.writes_execute fun _ h => h
  createCheck _ _ := writes_insertRow fun _ h => h
  createSnapshot _ _ := writes_insertRow fun _ h => h
  saveSnapshot _ _ _ := writes_saveFields fun _ h => h
  unsetGolden _ := Program.writes_execute fun _ h => h
  createReport _ := writes_insertRow fun _ h => h

/-- The operation is no update of the device. -/
def NoUpdateOf (id : DeviceId) (o : Operation) : Prop := particular o ≠ some (.saveDevice id)

theorem noUpdateOf_operation (w : Worker) (m : TaskMessage) : NoUpdateOf id (operation w m) := by
  cases m <;> exact fun h => by cases h

theorem writes_gone {o : Operation} (ho : NoUpdateOf id o) : o.program.Writes (KeepsGone id) := by
  refine vocabulary_gone.program o (fun s hs heq => ho (heq ▸ hs)) trivial fun hapart => ?_
  cases o with
  | get allows caller view => exact writes_get allows caller view
  | createProvisioningJob caller now data taskId =>
    refine Program.Writes.bind ?_ fun _ => trivial
    exact ProvisioningViews.writes_createProvisioningJob (fun _ _ _ h => h) (fun _ _ _ h => h)
      (fun _ _ h => h) fun _ _ h => h
  | executeProvisioningJob w jobId =>
    exact writes_executeProvisioningJob (fun _ h => h) (fun _ _ h => h) (fun _ _ _ _ h => h)
      (fun _ _ _ h => h) fun _ _ _ h => h
  | runDiscovery net jobId =>
    exact vocabulary_gone.runDiscovery net jobId fun set _ => writes_saveFields fun _ h => h
  | updateUserProfile caller now k role =>
    exact writes_updateUserProfile caller now k role fun _ _ h => h
  | destroyUserProfile caller k => exact writes_destroyUserProfile caller k fun _ h => h
  | _ => cases hapart

/-- An update does not find a device that is gone. -/
theorem keeps_updateDevice (caller : Option UserId) (method : Method) (now : DateTime)
    (data : DeviceData) :
    (updateDevice caller method now id data).Keeps (DeviceGone id) := by
  refine Program.Keeps.bind (Program.Writes.keeps (writes_permit _ _)) fun _ => ?_
  refine Program.keeps_statement_bind fun db d db' hgone hload => ?_
  simp [hgone.1] at hload

theorem keeps_gone (o : Operation) : o.program.Keeps (DeviceGone id) := by
  by_cases ho : NoUpdateOf id o
  · exact (writes_gone ho).keeps
  · cases o with
    | updateDevice caller method now k data =>
      obtain rfl : k = id := by simpa [NoUpdateOf, particular] using ho
      exact (keeps_updateDevice caller method now data).bind fun _ => trivial
    | _ => exact absurd (fun h => by cases h) ho

end

/-- A device that is gone stays gone, and nothing is on record about it in any later state, once
the updates of it that have arrived are answered. -/
theorem deleted_for_good (store : Platform) (hstore : Intact store) (id : DeviceId)
    (before after : List Move) (hgone : DeviceGone id (System.run { store := store } before).store)
    (hanswered : Answered (NoUpdateOf id) before (System.run { store := store } before)) :
    DeviceGone id (System.run { store := store } (before ++ after)).store ∧
      Unrecorded id (System.run { store := store } (before ++ after)).store := by
  have hlater := kept_from keeps_gone (fun o ho => writes_gone ho) noUpdateOf_operation
    (fun db n h => h) store before after hanswered hgone
  have hsteps : Relation.ReflTransGen Guards store
      (System.run { store := store } (before ++ after)).store :=
    steps_run provided_intact (balanced_start (Nat.le_refl 0)) _ fun _ _ => trivial
  have hintact := Program.keeps_steps (fun _ _ hstep hdb => hstep.1 hdb) hsteps hstore
  exact ⟨hlater, unrecorded_of_gone hintact.devices hlater⟩

/-- A device is updated and then deleted. -/
def labDeletion : List Move :=
  .receive (.updateDevice (some 1) .patch 5 1 { site := some "dc1" }) ::
    List.replicate 4 (.request 0) ++
  .receive (.destroyDevice (some 1) 1) :: List.replicate 3 (.request 1)

/-- It is asked for again, and another device is added. -/
def labLater : List Move :=
  .receive (.updateDevice (some 1) .patch 6 1 { site := some "dc2" }) ::
    List.replicate 2 (.request 2) ++
  .receive (.createDevice (some 1) 7 { hostname := some "r2", ipAddress := some "10.0.0.2" }) ::
    List.replicate 3 (.request 3)

theorem deleted_for_good_of_lab :
    DeviceGone 1 (System.run { store := labJob } (labDeletion ++ labLater)).store ∧
      Unrecorded 1 (System.run { store := labJob } (labDeletion ++ labLater)).store :=
  deleted_for_good labJob intact_labJob 1 labDeletion labLater (by decide)
    (answered_of_ended (by decide))

/-- An update that has loaded the device brings it back. -/
example : ((System.run { store := labJob } (
    .receive (.updateDevice (some 1) .patch 5 1 { site := some "dc1" }) ::
      List.replicate 2 (.request 0) ++
    .receive (.destroyDevice (some 1) 1) :: List.replicate 3 (.request 1) ++
      List.replicate 2 (.request 0))).store.devices.get? 1).map Device.site = some "dc1" := by
  decide

/-! ### Profiles -/

section

variable {id : ℕ}

def ProfileGone (id : ℕ) (db : Platform) : Prop := db.profiles.Gone id

instance (id : ℕ) (db : Platform) : Decidable (ProfileGone id db) :=
  inferInstanceAs (Decidable (db.profiles.Gone id))

/-- No permission class lets the user pass that asks for more than a login. -/
def Powerless (user : UserId) (db : Platform) : Prop :=
  ∀ u, authenticate (some user) db = some u → isAdminOnly (some u) = false ∧
    isAdminOrNetworkEngineer (some u) = false ∧
      ∀ m : Method, m.isSafe = false → readOnlyOrAbove m (some u) = false

theorem powerless_of_no_profile {user : UserId} {db : Platform}
    (hprofile : ∀ k p, db.profiles.get? k = some p → p.user ≠ user)
    (hsuper : ∀ row, db.users.get? user = some row → row.isSuperuser = false) :
    Powerless user db := by
  intro u hu
  obtain ⟨row, hrow, hactive⟩ := Option.bind_eq_some_iff.mp hu
  have hrole : profileRole db user = none := by
    rw [profileRole, Option.map_eq_none_iff, List.find?_eq_none]
    intro r hr
    simpa using hprofile r.1 r.2 ((Table.mem_rows_iff _ _ _).mp hr)
  split at hactive
  · obtain rfl := Option.some.inj hactive
    simp [isAdminOnly, isAdminOrNetworkEngineer, readOnlyOrAbove, hsuper row hrow, hrole,
      isEngineer]
  · cases hactive

def NoUpdateOfProfile (id : ℕ) (o : Operation) : Prop :=
  ∀ caller now role, o ≠ .updateUserProfile caller now id role

theorem writes_profileGone {o : Operation} (ho : NoUpdateOfProfile id o) :
    o.program.Writes (Program.Preserving (ProfileGone id)) := by
  refine (writes_program o).mono fun db db' h hgone => ?_
  cases h with
  | common hchange => cases hchange <;> exact hgone
  | saveProfile caller now k role _ p =>
    exact Table.Gone.store hgone (fun heq => ho caller now role (heq ▸ rfl)) p
  | deleteProfile caller k => exact Table.Gone.deleteWhere hgone _
  | _ => exact hgone

theorem keeps_updateProfile (caller : Option UserId) (now : DateTime) (role : Option Role) :
    (updateUserProfile caller now id role).Keeps (ProfileGone id) := by
  refine Program.Keeps.bind (Program.Writes.keeps (writes_permit _ _)) fun _ => ?_
  refine Program.keeps_statement_bind fun db p db' hgone hload => ?_
  simp [hgone.1] at hload

theorem keeps_profileGone (o : Operation) : o.program.Keeps (ProfileGone id) := by
  by_cases ho : NoUpdateOfProfile id o
  · exact (writes_profileGone ho).keeps
  · obtain ⟨caller, now, role, rfl⟩ :
        ∃ caller now role, o = .updateUserProfile caller now id role := by
      simpa [NoUpdateOfProfile] using ho
    exact (keeps_updateProfile caller now role).bind fun _ => trivial

theorem noUpdateOfProfile_operation (w : Worker) (m : TaskMessage) :
    NoUpdateOfProfile id (operation w m) := fun _ _ _ => writesProfiles_operation w m _ rfl

end

/-- A profile is of the user it was of at the start. -/
theorem owner_run (store : Platform) (moves : List Move) {k : ℕ} {p : UserProfile}
    (hp : (System.run { store := store } moves).store.profiles.get? k = some p) :
    (store.profiles.get? k).map UserProfile.user = some p.user := by
  have hstart : Confined administrators (fun _ => true) store store :=
    ⟨fun _ _ _ _ => rfl, fun id q hq => ⟨congrArg _ hq, fun _ => rfl⟩⟩
  have hrun := invariant_run (K := Confined administrators (fun _ => true) store)
    (fun o (_ : True) => keeps_program fun _ _ _ _ _ _ _ _ _ => rfl)
    (fun db n x h _ => ⟨h.of_eq rfl rfl, fun w => keeps_program fun _ _ _ _ _ _ _ _ _ => rfl⟩)
    hstart moves fun _ _ => trivial
  exact (hrun.profiles k p hp).owner

theorem users_run (store : Platform) (moves : List Move) :
    (System.run { store := store } moves).store.users = store.users := by
  have hsteps : Relation.ReflTransGen StoreStep store
      (System.run { store := store } moves).store :=
    steps_run provided_storeStep (balanced_start (Nat.le_refl 0)) moves fun _ _ => trivial
  refine Program.keeps_steps (K := fun db => db.users = store.users) (fun db db' h hdb => ?_)
    hsteps rfl
  cases h with
  | effect heffect => exact (users_of_effect heffect).trans hdb
  | dequeue => exact hdb

/-- A user who is no superuser and whose profile is gone has no role in any later state, once the
updates of the profile that have arrived are answered. -/
theorem revoked_for_good (store : Platform) (hstore : Distinct UserProfile.user store.profiles)
    (id : ℕ) (profile : UserProfile) (hprofile : store.profiles.get? id = some profile)
    (hsuper : ∀ row, store.users.get? profile.user = some row → row.isSuperuser = false)
    (before after : List Move)
    (hgone : ProfileGone id (System.run { store := store } before).store)
    (hanswered : Answered (NoUpdateOfProfile id) before (System.run { store := store } before)) :
    Powerless profile.user (System.run { store := store } (before ++ after)).store := by
  have hlater := kept_from keeps_profileGone (fun o ho => writes_profileGone ho)
    noUpdateOfProfile_operation (fun db n h => h) store before after hanswered hgone
  refine powerless_of_no_profile (fun k p hp huser => ?_) fun row hrow => ?_
  · obtain ⟨q, hq, howner⟩ := Option.map_eq_some_iff.mp (owner_run store (before ++ after) hp)
    obtain rfl := hstore k id q profile hq hprofile (howner.trans huser)
    rw [hlater.1] at hp
    cases hp
  · rw [users_run] at hrow
    exact hsuper row hrow

/-- A user is made an engineer, and loses its profile. -/
def labRevocation : List Move :=
  .receive (.updateUserProfile (some 1) 0 1 (some .networkEngineer)) ::
    List.replicate 4 (.request 0) ++
  .receive (.destroyUserProfile (some 1) 1) :: List.replicate 3 (.request 1)

/-- The administrator tries to give the role again. -/
def labRestoration : List Move :=
  .receive (.updateUserProfile (some 1) 0 1 (some .networkEngineer)) ::
    List.replicate 2 (.request 2)

theorem revoked_for_good_of_viewerLab :
    Powerless 2 (System.run { store := viewerLab } (labRevocation ++ labRestoration)).store :=
  revoked_for_good viewerLab (by decide) 1 ⟨2, .readOnly, 0⟩ rfl
    (fun row hrow => by
      obtain rfl : row = { username := "viewer" } := (Option.some.inj hrow).symm
      rfl)
    labRevocation labRestoration (by decide) (answered_of_ended (by decide))

end DevSecOpsPlatform.FinalDeletions
