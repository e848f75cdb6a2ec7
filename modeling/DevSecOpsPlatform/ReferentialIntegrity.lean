import DevSecOpsPlatform.ForeignKeys
import DevSecOpsPlatform.JobMessages

/-!
# Referential integrity

Every foreign key of the platform's tables refers to a row, and the unique columns hold no value
twice, in every state of every run: requests arrive, move statement by statement and may fail at
any of them, workers take messages, and deletions follow the `on_delete` rules of the keys. That
the job of a many-to-many row is there is known to the request that inserted it only because
nothing deletes jobs.
-/

namespace DevSecOpsPlatform.ReferentialIntegrity

open KeyedTables StatementPrograms PlatformModels PlatformStore RolePermissions PythonValues
open InventoryTasks InventoryViews ProvisioningTasks ProvisioningViews MonitoringViews
open SecurityTasks SecurityViews ProvisioningTasks
open PlatformOperations OperationStatements PlatformChanges
open JobHandoffs OrphanJobs JobMessages

/-- The keys of users. -/
structure ToUsers (db : Platform) : Prop where
  devices : References Device.createdBy db.devices db.users
  discoveryJobs : References DiscoveryJob.initiatedBy db.discoveryJobs db.users
  configTemplates : References ConfigTemplate.createdBy db.configTemplates db.users
  provisioningJobs : References ProvisioningJob.initiatedBy db.provisioningJobs db.users
  auditLogs : References AuditLog.actor db.auditLogs db.users
  complianceChecks : References ComplianceCheck.initiatedBy db.complianceChecks db.users
  configSnapshots : References ConfigSnapshot.takenBy db.configSnapshots db.users
  profiles : References (fun p => some p.user) db.profiles db.users

/-- The keys of devices. -/
structure ToDevices (db : Platform) (devices : Table Device) : Prop where
  jobDevices : ∀ m ∈ db.jobDevices, devices.HasKey (some m.2)
  provisioningResults : References (fun r => some r.device) db.provisioningResults devices
  auditLogs : References AuditLog.device db.auditLogs devices
  alerts : References Alert.device db.alerts devices
  complianceChecks : References (fun c => some c.device) db.complianceChecks devices
  configSnapshots : References (fun s => some s.device) db.configSnapshots devices
  driftReports : References (fun r => some r.device) db.driftReports devices

structure Intact (db : Platform) : Prop where
  users : ToUsers db
  devices : ToDevices db db.devices
  templates : References ProvisioningJob.template db.provisioningJobs db.configTemplates
  jobDevices : ∀ m ∈ db.jobDevices, db.provisioningJobs.HasKey (some m.1)
  results : References (fun r => some r.job) db.provisioningResults db.provisioningJobs
  rules : References (fun c => some c.rule) db.complianceChecks db.complianceRules
  golden : References DriftReport.goldenSnapshot db.driftReports db.configSnapshots
  current : References DriftReport.currentSnapshot db.driftReports db.configSnapshots
  hostnames : Distinct Device.hostname db.devices
  addresses : Distinct Device.ipAddress db.devices
  templateNames : Distinct ConfigTemplate.name db.configTemplates
  ruleNames : Distinct ComplianceRule.name db.complianceRules
  profileUsers : Distinct UserProfile.user db.profiles

theorem hasKey_of_refersToOrNull {β : Type} {u : Table β} {key : Option ℕ}
    (h : refersToOrNull u key = true) : u.HasKey key := by
  rintro k rfl
  exact h

theorem hasKey_of_refersTo {β : Type} {u : Table β} {k : ℕ} (h : refersTo u k = true) :
    u.HasKey (some k) := by
  rintro l hl
  exact Option.some.inj hl ▸ h

/-- A check that no other row has a property. -/
theorem of_select_isEmpty {α : Type} {t : Table α} {self : Option ℕ} {p : α → Bool}
    (h : (t.select fun id a => decide (some id ≠ self) && p a).isEmpty = true) (id : ℕ) (a : α)
    (ha : t.get? id = some a) (hid : some id ≠ self) : p a = false := by
  have hnone := Table.select_eq_nil.mp (List.isEmpty_iff.mp h) id a ha
  simpa [hid] using hnone

theorem ToDevices.mono {db : Platform} {u v : Table Device} (h : ToDevices db u)
    (huv : u.Within v) : ToDevices db v where
  jobDevices m hm := (h.jobDevices m hm).mono huv
  provisioningResults := h.provisioningResults.mono huv
  auditLogs := h.auditLogs.mono huv
  alerts := h.alerts.mono huv
  complianceChecks := h.complianceChecks.mono huv
  configSnapshots := h.configSnapshots.mono huv
  driftReports := h.driftReports.mono huv

/-! ### Inventory -/

variable {db : Platform}

theorem intact_createDevice (h : Intact db) {d : Device}
    (huser : refersToOrNull db.users d.createdBy = true)
    (hunique : deviceUnique db none d = true) :
    Intact { db with devices := db.devices.insert d } := by
  have hother (id : DeviceId) (e : Device) (he : db.devices.get? id = some e) :=
    of_select_isEmpty hunique id e he (by simp)
  exact { h with
    users := { h.users with devices := h.users.devices.insert (hasKey_of_refersToOrNull huser) }
    devices := { h.devices.mono (Table.within_insert _ _) with }
    hostnames := h.hostnames.insert fun id e he heq => by simpa [heq] using hother id e he
    addresses := h.addresses.insert fun id e he heq => by simpa [heq] using hother id e he }

theorem intact_saveDevice (h : Intact db) {id : DeviceId} {d : Device}
    (huser : refersToOrNull db.users d.createdBy = true)
    (hunique : deviceUnique db (some id) d = true) :
    Intact { db with devices := db.devices.store id d } := by
  have hother (k : DeviceId) (e : Device) (hk : k ≠ id) (he : db.devices.get? k = some e) :=
    of_select_isEmpty hunique k e he (by simpa using hk)
  exact { h with
    users := { h.users with devices := h.users.devices.store (hasKey_of_refersToOrNull huser) }
    devices := { h.devices.mono (Table.within_store _ _ _) with }
    hostnames := h.hostnames.store fun k e hk he heq => by simpa [heq] using hother k e hk he
    addresses := h.addresses.store fun k e hk he heq => by simpa [heq] using hother k e hk he }

theorem intact_setDeviceStatus (h : Intact db) (id : DeviceId) (status : DeviceStatus) :
    Intact { db with devices := db.devices.update id (fun d => { d with status := status }) } :=
  { h with
    users := { h.users with devices := h.users.devices.update fun _ hd => hd }
    devices := { h.devices.mono (Table.within_update _ _ _) with }
    hostnames := h.hostnames.update fun _ => rfl
    addresses := h.addresses.update fun _ => rfl }

/-- The snapshots of the device go, and the reports that are left let go of them. -/
theorem references_cascade {col : DriftReport → Option ℕ} {f : DriftReport → DriftReport}
    {id : DeviceId} {p : ℕ → DriftReport → Bool} (hf : ∀ r, col (f r) = (col r).filter
      fun s => !(db.configSnapshots.get? s).any (·.device = id))
    (h : References col db.driftReports db.configSnapshots) :
    References col ((db.driftReports.deleteWhere p).mapRows fun _ r => f r)
      (db.configSnapshots.deleteWhere fun _ s => s.device == id) := by
  intro k b hb l hl
  rw [Table.get?_mapRows] at hb
  obtain ⟨r, hr, rfl⟩ := Option.map_eq_some_iff.mp hb
  rw [hf, Option.filter_eq_some_iff] at hl
  obtain ⟨hcol, hkept⟩ := hl
  obtain ⟨s, hs⟩ := Option.isSome_iff_exists.mp (h.deleteWhere p k r hr l hcol)
  rw [hs] at hkept
  rw [Table.get?_deleteWhere, hs, Option.filter_some]
  simpa using hkept

theorem intact_deleteDevice (h : Intact db) (id : DeviceId) : Intact (Device.cascade id db) where
  users := { h.users with
    devices := h.users.devices.deleteWhere _
    auditLogs := h.users.auditLogs.updateWhere fun _ ha => ha
    complianceChecks := h.users.complianceChecks.deleteWhere _
    configSnapshots := h.users.configSnapshots.deleteWhere _ }
  devices := {
    jobDevices := by
      intro m hm
      obtain ⟨hmem, hne⟩ := List.mem_filter.mp hm
      have hkey := h.devices.jobDevices m hmem
      intro k hk
      obtain ⟨d, hd⟩ := Option.isSome_iff_exists.mp (hkey k hk)
      obtain rfl := Option.some.inj hk
      rw [Device.cascade, Table.delete, Table.get?_deleteWhere, hd, Option.filter_some]
      simpa using hne
    provisioningResults := h.devices.provisioningResults.cascade id fun _ r hr => by simpa using hr
    auditLogs := h.devices.auditLogs.setNull id (fun _ a ha => by simpa using ha) fun _ => rfl
    alerts := h.devices.alerts.setNull id (fun _ a ha => by simpa using ha) fun _ => rfl
    complianceChecks := h.devices.complianceChecks.cascade id fun _ c hc => by simpa using hc
    configSnapshots := h.devices.configSnapshots.cascade id fun _ s hs => by simpa using hs
    driftReports :=
      (h.devices.driftReports.cascade id fun _ r hr => by simpa using hr).mapRows fun _ _ hr => hr }
  templates := h.templates
  jobDevices m hm := h.jobDevices m (List.mem_filter.mp hm).1
  results := h.results.deleteWhere _
  rules := h.rules.deleteWhere _
  golden := references_cascade (fun _ => rfl) h.golden
  current := references_cascade (fun _ => rfl) h.current
  hostnames := h.hostnames.deleteWhere _
  addresses := h.addresses.deleteWhere _
  templateNames := h.templateNames
  ruleNames := h.ruleNames
  profileUsers := h.profileUsers

theorem intact_createDiscoveryJob (h : Intact db) {j : DiscoveryJob}
    (huser : refersToOrNull db.users j.initiatedBy = true) :
    Intact { db with discoveryJobs := db.discoveryJobs.insert j } :=
  { h with
    users := { h.users with
      discoveryJobs := h.users.discoveryJobs.insert (hasKey_of_refersToOrNull huser) }
    devices := { h.devices with } }

/-- A save of a discovery job that keeps who asked for it. -/
theorem intact_saveDiscoveryJob (h : Intact db) (id : DiscoveryJobId)
    {set : DiscoveryJob → DiscoveryJob} (hset : ∀ j, (set j).initiatedBy = j.initiatedBy) :
    Intact { db with discoveryJobs := db.discoveryJobs.update id set } :=
  { h with
    users := { h.users with
      discoveryJobs := h.users.discoveryJobs.update fun j hj => by rw [hset]; exact hj }
    devices := { h.devices with } }

/-! ### Provisioning -/

theorem intact_createTemplate (h : Intact db) {t : ConfigTemplate}
    (huser : refersToOrNull db.users t.createdBy = true)
    (hunique : (db.configTemplates.select fun _ u => u.name == t.name).isEmpty = true) :
    Intact { db with configTemplates := db.configTemplates.insert t } :=
  { h with
    users := { h.users with
      configTemplates := h.users.configTemplates.insert (hasKey_of_refersToOrNull huser) }
    devices := { h.devices with }
    templates := h.templates.mono (Table.within_insert _ _)
    templateNames := h.templateNames.insert fun id u hu heq => by
      have hnone := Table.select_eq_nil.mp (List.isEmpty_iff.mp hunique) id u hu
      simp [heq] at hnone }

theorem intact_saveTemplate (h : Intact db) {id : ConfigTemplateId} {t : ConfigTemplate}
    (huser : refersToOrNull db.users t.createdBy = true)
    (hunique : templateUnique db (some id) t.name = true) :
    Intact { db with configTemplates := db.configTemplates.store id t } :=
  { h with
    users := { h.users with
      configTemplates := h.users.configTemplates.store (hasKey_of_refersToOrNull huser) }
    devices := { h.devices with }
    templates := h.templates.mono (Table.within_store _ _ _)
    templateNames := h.templateNames.store fun k u hk hu heq => by
      have hnone := of_select_isEmpty hunique k u hu (by simpa using hk)
      simp [heq] at hnone }

theorem intact_deleteTemplate (h : Intact db) (id : ConfigTemplateId) :
    Intact { db with
      configTemplates := db.configTemplates.delete id
      provisioningJobs := db.provisioningJobs.updateWhere (fun _ j => j.template == some id)
        (fun j => { j with template := none }) } :=
  { h with
    users := { h.users with
      configTemplates := h.users.configTemplates.deleteWhere _
      provisioningJobs := h.users.provisioningJobs.updateWhere fun _ hj => hj }
    devices := { h.devices with }
    templates := h.templates.setNull id (fun _ j hj => by simpa using hj) fun _ => rfl
    jobDevices := fun m hm => (h.jobDevices m hm).mono (Table.within_mapRows _ _)
    results := h.results.mono (Table.within_mapRows _ _)
    templateNames := h.templateNames.deleteWhere _ }

theorem intact_createJob (h : Intact db) {j : ProvisioningJob}
    (htemplate : refersToOrNull db.configTemplates j.template = true)
    (huser : refersToOrNull db.users j.initiatedBy = true) :
    Intact { db with provisioningJobs := db.provisioningJobs.insert j } :=
  { h with
    users := { h.users with
      provisioningJobs := h.users.provisioningJobs.insert (hasKey_of_refersToOrNull huser) }
    devices := { h.devices with }
    templates := h.templates.insert (hasKey_of_refersToOrNull htemplate)
    jobDevices := fun m hm => (h.jobDevices m hm).mono (Table.within_insert _ _)
    results := h.results.mono (Table.within_insert _ _) }

theorem intact_setDevices (h : Intact db) {id : ProvisioningJobId} {devices : List DeviceId}
    (hjob : refersTo db.provisioningJobs id = true)
    (hdevices : devices.all (refersTo db.devices) = true) :
    Intact { db with jobDevices := db.jobDevices ++ devices.dedup.map fun d => (id, d) } :=
  { h with
    users := { h.users with }
    devices := { h.devices with
      jobDevices := fun m hm => by
        rcases List.mem_append.mp hm with hm | hm
        · exact h.devices.jobDevices m hm
        · obtain ⟨d, hd, rfl⟩ := List.mem_map.mp hm
          exact hasKey_of_refersTo (List.all_eq_true.mp hdevices d (List.mem_dedup.mp hd)) }
    jobDevices := fun m hm => by
      rcases List.mem_append.mp hm with hm | hm
      · exact h.jobDevices m hm
      · obtain ⟨d, -, rfl⟩ := List.mem_map.mp hm
        exact hasKey_of_refersTo hjob }

/-- A save of a provisioning job that keeps its template and who asked for it. -/
theorem intact_saveJob (h : Intact db) (id : ProvisioningJobId)
    {set : ProvisioningJob → ProvisioningJob} (htemplate : ∀ j, (set j).template = j.template)
    (huser : ∀ j, (set j).initiatedBy = j.initiatedBy) :
    Intact { db with provisioningJobs := db.provisioningJobs.update id set } :=
  { h with
    users := { h.users with
      provisioningJobs := h.users.provisioningJobs.update fun j hj => by rw [huser]; exact hj }
    devices := { h.devices with }
    templates := h.templates.update fun j hj => by rw [htemplate]; exact hj
    jobDevices := fun m hm => (h.jobDevices m hm).mono (Table.within_update _ _ _)
    results := h.results.mono (Table.within_update _ _ _) }

theorem intact_createResult (h : Intact db) {r : ProvisioningResult}
    (hjob : refersTo db.provisioningJobs r.job = true)
    (hdevice : refersTo db.devices r.device = true) :
    Intact { db with provisioningResults := db.provisioningResults.insert r } :=
  { h with
    users := { h.users with }
    devices := { h.devices with
      provisioningResults := h.devices.provisioningResults.insert (hasKey_of_refersTo hdevice) }
    results := h.results.insert (hasKey_of_refersTo hjob) }

theorem intact_createLog (h : Intact db) {a : AuditLog}
    (huser : refersToOrNull db.users a.actor = true)
    (hdevice : refersToOrNull db.devices a.device = true) :
    Intact { db with auditLogs := db.auditLogs.insert a } :=
  { h with
    users := { h.users with
      auditLogs := h.users.auditLogs.insert (hasKey_of_refersToOrNull huser) }
    devices := { h.devices with
      auditLogs := h.devices.auditLogs.insert (hasKey_of_refersToOrNull hdevice) } }

/-! ### Monitoring -/

theorem intact_upsertAlert (h : Intact db) {row : Alert}
    (hdevice : refersToOrNull db.devices row.device = true) :
    Intact { db with alerts := (upsert db.alerts row).2 } := by
  have halerts : References Alert.device (upsert db.alerts row).2 db.devices := by
    unfold upsert
    split
    · exact h.devices.alerts.insert (hasKey_of_refersToOrNull hdevice)
    · exact h.devices.alerts.update fun _ _ => hasKey_of_refersToOrNull hdevice
  exact { h with
    users := { h.users with }
    devices := { h.devices with alerts := halerts } }

theorem intact_saveAlert (h : Intact db) {id : AlertId} {a : Alert}
    (hdevice : refersToOrNull db.devices a.device = true) :
    Intact { db with alerts := db.alerts.store id a } :=
  { h with
    users := { h.users with }
    devices := { h.devices with
      alerts := h.devices.alerts.store (hasKey_of_refersToOrNull hdevice) } }

theorem intact_saveAcknowledged (h : Intact db) (id : AlertId) (now : DateTime) :
    Intact { db with alerts := db.alerts.update id (acknowledgedRow now) } :=
  { h with
    users := { h.users with }
    devices := { h.devices with alerts := h.devices.alerts.update fun _ ha => ha } }

/-! ### Security -/

theorem intact_createRule (h : Intact db) {r : ComplianceRule}
    (hunique : (db.complianceRules.select fun _ u => u.name == r.name).isEmpty = true) :
    Intact { db with complianceRules := db.complianceRules.insert r } :=
  { h with
    users := { h.users with }
    devices := { h.devices with }
    rules := h.rules.mono (Table.within_insert _ _)
    ruleNames := h.ruleNames.insert fun id u hu heq => by
      have hnone := Table.select_eq_nil.mp (List.isEmpty_iff.mp hunique) id u hu
      simp [heq] at hnone }

theorem intact_saveRule (h : Intact db) {id : ComplianceRuleId} {r : ComplianceRule}
    (hunique : ruleUnique db (some id) r.name = true) :
    Intact { db with complianceRules := db.complianceRules.store id r } :=
  { h with
    users := { h.users with }
    devices := { h.devices with }
    rules := h.rules.mono (Table.within_store _ _ _)
    ruleNames := h.ruleNames.store fun k u hk hu heq => by
      have hnone := of_select_isEmpty hunique k u hu (by simpa using hk)
      simp [heq] at hnone }

theorem intact_deleteRule (h : Intact db) (id : ComplianceRuleId) :
    Intact { db with
      complianceRules := db.complianceRules.delete id
      complianceChecks := db.complianceChecks.deleteWhere (fun _ c => c.rule == id) } :=
  { h with
    users := { h.users with complianceChecks := h.users.complianceChecks.deleteWhere _ }
    devices := { h.devices with complianceChecks := h.devices.complianceChecks.deleteWhere _ }
    rules := h.rules.cascade id fun _ c hc => by simpa using hc
    ruleNames := h.ruleNames.deleteWhere _ }

theorem intact_createCheck (h : Intact db) {c : ComplianceCheck}
    (hdevice : refersTo db.devices c.device = true)
    (hrule : refersTo db.complianceRules c.rule = true)
    (huser : refersToOrNull db.users c.initiatedBy = true) :
    Intact { db with complianceChecks := db.complianceChecks.insert c } :=
  { h with
    users := { h.users with
      complianceChecks := h.users.complianceChecks.insert (hasKey_of_refersToOrNull huser) }
    devices := { h.devices with
      complianceChecks := h.devices.complianceChecks.insert (hasKey_of_refersTo hdevice) }
    rules := h.rules.insert (hasKey_of_refersTo hrule) }

theorem intact_createSnapshot (h : Intact db) {s : ConfigSnapshot}
    (hdevice : refersTo db.devices s.device = true)
    (huser : refersToOrNull db.users s.takenBy = true) :
    Intact { db with configSnapshots := db.configSnapshots.insert s } :=
  { h with
    users := { h.users with
      configSnapshots := h.users.configSnapshots.insert (hasKey_of_refersToOrNull huser) }
    devices := { h.devices with
      configSnapshots := h.devices.configSnapshots.insert (hasKey_of_refersTo hdevice) }
    golden := h.golden.mono (Table.within_insert _ _)
    current := h.current.mono (Table.within_insert _ _) }

/-- A change of snapshots that keeps what they are readings of. -/
theorem intact_mapSnapshots (h : Intact db) {f : ℕ → ConfigSnapshot → ConfigSnapshot}
    (hf : ∀ id s, SameReading s (f id s)) :
    Intact { db with configSnapshots := db.configSnapshots.mapRows f } :=
  { h with
    users := { h.users with
      configSnapshots := h.users.configSnapshots.mapRows fun id s hs => by
        rw [(hf id s).takenBy]; exact hs }
    devices := { h.devices with
      configSnapshots := h.devices.configSnapshots.mapRows fun id s hs => by
        rw [(hf id s).device]; exact hs }
    golden := h.golden.mono (Table.within_mapRows _ _)
    current := h.current.mono (Table.within_mapRows _ _) }

theorem intact_createReport (h : Intact db) {r : DriftReport}
    (hdevice : refersTo db.devices r.device = true)
    (hgolden : refersToOrNull db.configSnapshots r.goldenSnapshot = true)
    (hcurrent : refersToOrNull db.configSnapshots r.currentSnapshot = true) :
    Intact { db with driftReports := db.driftReports.insert r } :=
  { h with
    users := { h.users with }
    devices := { h.devices with
      driftReports := h.devices.driftReports.insert (hasKey_of_refersTo hdevice) }
    golden := h.golden.insert (hasKey_of_refersToOrNull hgolden)
    current := h.current.insert (hasKey_of_refersToOrNull hcurrent) }

theorem intact_saveProfile (h : Intact db) {id : ℕ} {p : UserProfile}
    (huser : refersTo db.users p.user = true)
    (hunique : (db.profiles.select fun k q => decide (k ≠ id) && q.user == p.user).isEmpty = true) :
    Intact { db with profiles := db.profiles.store id p } :=
  { h with
    users := { h.users with profiles := h.users.profiles.store (hasKey_of_refersTo huser) }
    devices := { h.devices with }
    profileUsers := h.profileUsers.store fun k q hk hq heq => by
      have hnone := Table.select_eq_nil.mp (List.isEmpty_iff.mp hunique) k q hq
      simp [heq, hk] at hnone }

theorem intact_deleteProfile (h : Intact db) (id : ℕ) :
    Intact { db with profiles := db.profiles.delete id } :=
  { h with
    users := { h.users with profiles := h.users.profiles.deleteWhere _ }
    devices := { h.devices with }
    profileUsers := h.profileUsers.deleteWhere _ }

/-! ### Statements -/

/-- The statement keeps the references intact. -/
def KeepsIntact (db db' : Platform) : Prop := Intact db → Intact db'

instance : Std.Refl KeepsIntact := ⟨fun _ h => h⟩

theorem Intact.of_queue (h : Intact db) (queue : List (String × TaskMessage)) :
    Intact { db with queue := queue } :=
  { h with users := { h.users with }, devices := { h.devices with } }

/-- Two checks of which both passed, after a check of what is to be stored. -/
theorem both_of_require {storable a b : Bool} {e e' : Exn} {u : Unit}
    (h : (require storable e >>= fun _ => require (a && b) e') = .ok u) : a = true ∧ b = true :=
  Bool.and_eq_true_iff.mp (require_bind_eq_ok h).2

theorem writes_createDevice (d : Device) : (Device.create d).Writes KeepsIntact := by
  refine writes_insertRow_of_ok fun db u hok h => ?_
  obtain ⟨_, -, hok⟩ := ok_of_bind hok
  obtain ⟨_, -, hok⟩ := ok_of_bind hok
  obtain ⟨_, -, hok⟩ := ok_of_bind hok
  obtain ⟨_, huser, hok⟩ := ok_of_bind hok
  exact intact_createDevice h (require_eq_ok huser) (require_eq_ok hok)

theorem writes_createLog (a : AuditLog) : (AuditLog.create a).Writes KeepsIntact :=
  writes_insertRow_of_ok fun _ _ hok h =>
    intact_createLog h (both_of_require hok).1 (both_of_require hok).2

theorem writes_createResult (r : ProvisioningResult) :
    (ProvisioningResult.create r).Writes KeepsIntact :=
  writes_insertRow_of_ok fun _ _ hok h =>
    intact_createResult h (both_of_require hok).1 (both_of_require hok).2

theorem vocabulary_intact :
    Vocabulary (fun _ p => p.Writes KeepsIntact) (fun _ => True) (fun _ => True) where
  ret _ := trivial
  raise _ := trivial
  bind hp hf := hp.bind hf
  attempt hp := hp.attempt
  nobody := trivial
  lookUp hf := writes_lookUp hf
  gated _ _ _ hf := writes_permit_bind hf
  query _ := Program.writes_query _
  getAlert _ _ hf := (writes_getObject _).bind fun _ => hf _ _
  delay taskId m _ := fun db => ⟨fun h => h.of_queue _, trivial⟩
  createDevice d _ := writes_createDevice d
  saveDevice id d _ := writes_saveRow_of_ok fun db b hok hb h => by
    obtain ⟨_, -, hok⟩ := ok_of_bind hok
    obtain ⟨_, huser, hok⟩ := ok_of_bind hok
    rcases hb with rfl | rfl <;> exact intact_saveDevice h (require_eq_ok huser) (require_eq_ok hok)
  setDeviceStatus id status _ :=
    Program.writes_execute fun db h => intact_setDeviceStatus h id status
  deleteDevice id _ := Program.writes_execute fun db h => intact_deleteDevice h id
  createDiscoveryJob j _ _ :=
    writes_insertRow_of_ok fun db u hok h => intact_createDiscoveryJob h (require_eq_ok hok)
  setDiscoveryTask id task :=
    writes_saveFields fun db h => intact_saveDiscoveryJob h id fun _ => rfl
  createTemplate t _ := writes_insertRow_of_ok fun db u hok h => by
    obtain ⟨_, -, hok⟩ := ok_of_bind hok
    obtain ⟨_, huser, hok⟩ := ok_of_bind hok
    exact intact_createTemplate h (require_eq_ok huser) (require_eq_ok hok)
  saveTemplate id t := writes_saveRow_of_ok fun db b hok hb h => by
    obtain ⟨_, -, hok⟩ := ok_of_bind hok
    obtain ⟨_, huser, hok⟩ := ok_of_bind hok
    rcases hb with rfl | rfl <;>
      exact intact_saveTemplate h (require_eq_ok huser) (require_eq_ok hok)
  deleteTemplate id := Program.writes_execute fun db h => intact_deleteTemplate h id
  createLog a _ _ hq := (writes_createLog a).bind fun _ => hq
  updateOrCreateAlert := writes_updateOrCreate_of fun _ _ hdevice h => intact_upsertAlert h hdevice
  saveAcknowledged id now := writes_saveFields fun db h => intact_saveAcknowledged h id now
  saveAlert id a := writes_saveRow_of_ok fun db b hok hb h => by
    obtain ⟨_, -, hok⟩ := ok_of_bind hok
    rcases hb with rfl | rfl <;> exact intact_saveAlert h (require_eq_ok hok)
  createRule r := writes_insertRow_of_ok fun db u hok h => intact_createRule h (require_eq_ok hok)
  saveRule id r now := writes_saveRow_of_ok fun db b hok hb h => by
    rcases hb with rfl | rfl <;> exact intact_saveRule h (require_eq_ok hok)
  deleteRule id := Program.writes_execute fun db h => intact_deleteRule h id
  createCheck c _ := writes_insertRow_of_ok fun db u hok h => by
    obtain ⟨hkeys, huser⟩ := both_of_require hok
    obtain ⟨hdevice, hrule⟩ := Bool.and_eq_true_iff.mp hkeys
    exact intact_createCheck h hdevice hrule huser
  createSnapshot s _ := writes_insertRow_of_ok fun db u hok h =>
    intact_createSnapshot h (both_of_require hok).1 (both_of_require hok).2
  saveSnapshot id set hset := writes_saveFields fun db h => intact_mapSnapshots h fun k s => by
    split
    · exact hset s
    · exact ⟨rfl, rfl, rfl, rfl⟩
  unsetGolden deviceId := Program.writes_execute fun db h => intact_mapSnapshots h fun k s => by
    split <;> exact ⟨rfl, rfl, rfl, rfl⟩
  createReport r := writes_insertRow_of_ok fun db u hok h => by
    obtain ⟨hkeys, hcurrent⟩ := both_of_require hok
    obtain ⟨hdevice, hgolden⟩ := Bool.and_eq_true_iff.mp hkeys
    exact intact_createReport h hdevice hgolden hcurrent

theorem writes_saveJob (id : ProvisioningJobId) {set : ProvisioningJob → ProvisioningJob}
    (htemplate : ∀ j, (set j).template = j.template)
    (huser : ∀ j, (set j).initiatedBy = j.initiatedBy) :
    (ProvisioningJob.save id set).Writes KeepsIntact :=
  writes_saveFields fun _ h => intact_saveJob h id htemplate huser

theorem writes_executeJob (w : PushWorld) (jobId : ProvisioningJobId) :
    (executeProvisioningJob w jobId).Writes KeepsIntact := by
  have hload : (loadJob jobId).Writes KeepsIntact := by
    refine Program.writes_statement fun db job db' h => ?_
    split at h
    · obtain ⟨-, rfl⟩ := Prod.mk.inj (Except.ok.inj h)
      exact refl db
    · cases h
  refine hload.bind fun job => (Program.writes_query _).bind fun devices => ?_
  refine (writes_saveJob _ (by intro _; rfl) (by intro _; rfl)).bind fun _ => ?_
  refine (Program.writes_ofExcept _).bind fun rendered => ?_
  refine Program.Writes.bind (writes_saveRendered fun db h => ?_) fun _ => ?_
  · exact intact_saveJob h _ (fun _ => rfl) fun _ => rfl
  refine (writes_pushDevices (fun r _ => writes_createResult r) (fun a _ => writes_createLog a)
    _ 0 _).bind fun results => ?_
  exact (writes_saveJob _ (by intro _; rfl) (by intro _; rfl)).bind fun _ => trivial

theorem writes_discovery (net : Network) (jobId : DiscoveryJobId) :
    (runDiscovery net jobId).Writes KeepsIntact := by
  have hsave {set : DiscoveryJob → DiscoveryJob} (hset : ∀ j, (set j).initiatedBy = j.initiatedBy) :
      (DiscoveryJob.save jobId set).Writes KeepsIntact :=
    writes_saveFields fun _ h => intact_saveDiscoveryJob h jobId hset
  refine (vocabulary_intact.getDiscoveryJob jobId).bind fun job => ?_
  refine (hsave (by intro _; rfl)).bind fun _ => ?_
  refine (writes_discoverSubnet net writes_createDevice job.subnet _).bind fun result => ?_
  exact (hsave (by intro _; rfl)).bind fun _ => trivial

/-- Every operation but the creation of a provisioning job keeps the references intact at each
of its statements, wherever that finds the store. -/
theorem writes_intact {o : Operation}
    (ho : ∀ caller now data taskId, o ≠ .createProvisioningJob caller now data taskId) :
    o.program.Writes KeepsIntact := by
  refine vocabulary_intact.program o (fun _ _ => trivial) trivial fun hapart => ?_
  cases o with
  | get allows caller view => exact writes_get allows caller view
  | createProvisioningJob caller now data taskId => exact absurd rfl (ho caller now data taskId)
  | executeProvisioningJob w jobId => exact writes_executeJob w jobId
  | runDiscovery net jobId => exact writes_discovery net jobId
  | updateUserProfile caller now id role =>
    refine Program.Writes.bind ?_ (fun _ => trivial)
    refine (writes_permit _ _).bind fun _ => (writes_getObject _).bind fun profile => ?_
    refine Program.Writes.bind ?_ fun _ => (Program.writes_query _).bind fun _ => trivial
    refine writes_saveRow_of_ok fun db b hok hb h => ?_
    obtain ⟨_, huser, hok⟩ := ok_of_bind hok
    rcases hb with rfl | rfl <;> exact intact_saveProfile h (require_eq_ok huser) (require_eq_ok hok)
  | destroyUserProfile caller id =>
    exact writes_destroyUserProfile caller id fun db h => intact_deleteProfile h id
  | _ => cases hapart

/-! ### Runs -/

/-- What every statement of a run does. -/
def Guards (db db' : Platform) : Prop :=
  KeepsIntact db db' ∧ db.provisioningJobs.Within db'.provisioningJobs

instance : Std.Refl Guards := ⟨fun _ => ⟨fun h => h, fun _ h => h⟩⟩

theorem within_of_effect {o : Operation} {db db' : Platform} (h : Effect o db db') :
    db.provisioningJobs.Within db'.provisioningJobs :=
  fun id hid => hasRow_of_effect h (m := .executeProvisioningJob id) hid

theorem guards_of_eq {db db' : Platform} (hjobs : db'.provisioningJobs = db.provisioningJobs)
    (h : KeepsIntact db db') : Guards db db' :=
  ⟨h, by rw [hjobs]; exact fun _ h => h⟩

/-- The request may rely on it that the job it has inserted is still there. -/
theorem spends_createProvisioningJob (caller : Option UserId) (now : DateTime)
    (data : ProvisioningJobData) (taskId : String) (db : Platform) :
    (ProvisioningViews.createProvisioningJob caller now data taskId).Spends 0 (fun _ => 0) Guards
      0 db := by
  refine Program.Writes.spends_bind (K := fun _ => True) (writes_permit _ caller)
    (fun _ _ _ _ => trivial) trivial fun user t _ => ?_
  refine Program.Writes.spends_bind (K := fun _ => True) (writes_validateJob data)
    (fun _ _ _ _ => trivial) trivial fun deviceIds t _ => ?_
  refine spends_insertRow_bind fun u _ _ _ hok => ?_
  obtain ⟨_, -, hok⟩ := ok_of_bind hok
  obtain ⟨_, htemplate, huser⟩ := ok_of_bind hok
  have hinserted : refersTo
      (u.provisioningJobs.insert (ProvisioningJob.stored (data.row user.id now)))
      u.provisioningJobs.nextId = true := refersTo_of_get? (Table.get?_insert_nextId _ _)
  refine ⟨⟨fun h => intact_createJob h (require_eq_ok htemplate) (require_eq_ok huser),
    Table.within_insert _ _⟩, 0, Nat.le_refl _, ?_⟩
  refine Program.spends_statement_bind fun v _ t hv _ hset => ?_
  have hjob : refersTo v.provisioningJobs u.provisioningJobs.nextId = true :=
    Program.keeps_steps (K := fun x => refersTo x.provisioningJobs u.provisioningJobs.nextId = true)
      (fun _ _ h hx => h.2 _ hx) hv hinserted
  split at hset
  · rename_i hdevices
    obtain ⟨-, rfl⟩ := Prod.mk.inj (Except.ok.inj hset)
    refine ⟨guards_of_eq rfl fun h => intact_setDevices h hjob hdevices, 0, Nat.le_refl _, ?_⟩
    refine Program.Writes.spends ?_
    refine writes_delay_bind (fun db => guards_of_eq rfl fun h => h.of_queue _) ?_
    refine Program.Writes.bind (writes_saveFields fun db => ⟨fun h => ?_, ?_⟩) fun _ => ?_
    · exact intact_saveJob h _ (fun _ => rfl) fun _ => rfl
    · exact Table.within_update _ _ _
    · exact (Program.writes_query _).bind fun _ => trivial
  · cases hset

theorem spends_reply (o : Operation) (db : Platform) :
    o.reply.Spends 0 (fun _ => 0) Guards 0 db := by
  by_cases ho : ∀ caller now data taskId, o ≠ .createProvisioningJob caller now data taskId
  · refine Program.Writes.spends (writes_reply ?_)
    exact ((writes_intact ho).and (writes_program o)).mono fun _ _ h => ⟨h.1, within_of_effect h.2⟩
  · obtain ⟨caller, now, data, taskId, rfl⟩ :
        ∃ caller now data taskId, o = .createProvisioningJob caller now data taskId := by
      simpa using ho
    exact spends_createProvisioningJob caller now data taskId db

theorem writes_task (w : Worker) (m : TaskMessage) : (w.task m).Writes Guards := by
  rw [task_eq]
  refine ((writes_intact ?_).and (writes_program _)).mono fun _ _ h => ⟨h.1, within_of_effect h.2⟩
  intro caller now data taskId h
  have hcreates := createsJob_operation w m
  rw [h] at hcreates
  cases hcreates

theorem provided_intact :
    Provided 0 (fun _ => 0) Guards (fun _ => 0) (fun _ => True) where
  reply o _ db := spends_reply o db
  dequeue _ _ := guards_of_eq rfl fun h => h.of_queue _
  task _ _ x _ _ := ⟨0, Nat.le_refl _, fun w _ => (writes_task w x.2).spends⟩

/-- In every state of every run each foreign key refers to a row and the unique columns hold no
value twice, when this is so at the start. -/
theorem intact_run (store : Platform) (h : Intact store) (moves : List Move) :
    Intact (System.run { store := store } moves).store := by
  have hsteps : Relation.ReflTransGen Guards store (System.run { store := store } moves).store :=
    steps_run provided_intact (balanced_start (Nat.le_refl 0)) moves fun _ _ => trivial
  exact Program.keeps_steps (fun _ _ hstep hdb => hstep.1 hdb) hsteps h

/-! ### A job, its result and the deletion of its device -/

def labMoves : List Move :=
  [.receive (.createProvisioningJob (some 1) 0
    { template := some 1, deviceIds := some [1] } "t")] ++
    List.replicate 7 (.request 0) ++ [.take 0 labWorker, .receive (.destroyDevice (some 1) 1)] ++
    List.replicate 5 (.task 0) ++ List.replicate 3 (.request 1) ++ List.replicate 3 (.task 0)

theorem intact_labJob : Intact labJob where
  users := by constructor <;> decide
  devices := by constructor <;> decide
  templates := by decide
  jobDevices := by decide
  results := by decide
  rules := by decide
  golden := by decide
  current := by decide
  hostnames := by decide
  addresses := by decide
  templateNames := by decide
  ruleNames := by decide
  profileUsers := by decide

theorem intact_run_of_lab : Intact (System.run { store := labJob } labMoves).store :=
  intact_run labJob intact_labJob labMoves

example : ((System.run { store := labJob } labMoves).store.jobDevices,
    (System.run { store := labJob } labMoves).store.provisioningResults.rows.length) =
      ([], 0) := rfl

end DevSecOpsPlatform.ReferentialIntegrity
