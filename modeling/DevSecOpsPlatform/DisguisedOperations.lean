import DevSecOpsPlatform.DisguisedPasswords

/-!
# The operations on disguised passwords

An operation that loads a device shows neither its password nor what depends on it: an update
saves the password that it has loaded, and a task hands it to the connection, which takes the
disguised password as it took the other.
-/

namespace DevSecOpsPlatform.DisguisedOperations

open KeyedTables StatementPrograms PlatformModels PlatformStore RolePermissions PythonValues
open PlatformSerializers NetmikoSessions InventoryTasks InventoryViews ProvisioningTasks
open ProvisioningViews MonitoringViews SecurityTasks SecurityViews DisguisedPasswords

variable {D : Disguise} {db : Platform}

/-! ### Inventory -/

theorem deviceUnique_store (self : Option DeviceId) (d : Device) :
    deviceUnique (D.store db) self d = deviceUnique db self d :=
  isEmpty_select_devices fun _ _ => rfl

theorem deviceUnique_device (self : Option DeviceId) (d : Device) :
    deviceUnique (D.store db) self (D.device d) = deviceUnique db self d :=
  isEmpty_select_devices fun _ _ => rfl

theorem devices_insert {d : Device} (hd : d.sshPassword = "") :
    { D.store db with devices := (D.store db).devices.insert d } =
      D.store { db with devices := db.devices.insert d } := by
  have hself : D.device d = d := by
    rw [Disguise.device, hd, D.empty, ← hd]
  simp only [Disguise.store]
  congr 1
  ext1
  · simp [Table.insert, Table.mapRows, hself]
  · rfl

/-- A device that is added has no password. -/
theorem alike_createDevice {d : Device} (hd : d.sshPassword = "") :
    D.Alike (Device.create d) (Device.create d) := by
  refine alike_insertRow (fun db => ?_) (fun _ => rfl) fun db => devices_insert hd
  simp only [deviceUnique_store]
  rfl

theorem devices_update (id : DeviceId) {set set' : Device → Device}
    (hset : ∀ d, set' (D.device d) = D.device (set d)) :
    { D.store db with devices := (D.store db).devices.update id set' } =
      D.store { db with devices := db.devices.update id set } := by
  simp only [Disguise.store]
  congr 1
  rw [Table.update, Table.update, Table.mapRows_mapRows, Table.mapRows_mapRows]
  refine Table.mapRows_congr fun k d _ => ?_
  split
  · exact hset d
  · rfl

theorem devices_put (id : DeviceId) (d : Device) :
    { D.store db with devices := (D.store db).devices.put id (D.device d) } =
      D.store { db with devices := db.devices.put id d } := by
  simp only [Disguise.store]
  congr 1
  unfold Table.put
  by_cases h : id < db.devices.nextId
  · rw [dif_pos h, dif_pos (show id < (db.devices.mapRows fun _ => D.device).nextId from h)]
    ext1
    · simp [Table.delete, Table.deleteWhere, Table.mapRows, List.filter_map, Function.comp_def]
    · rfl
  · rw [dif_neg h, dif_neg (show ¬ id < (db.devices.mapRows fun _ => D.device).nextId from h)]

/-- The object that is saved is answered from. -/
theorem mirrors_saveDevice (id : DeviceId) (d : Device) :
    (saveDevice id d).Mirrors (fun db db' => db' = D.store db) (fun a b => b = D.device a)
      (saveDevice id (D.device d)) := by
  refine Program.mirrors_statement fun db db' hdb => ?_
  subst hdb
  have hok : (do
      require (!(D.device d).tags.hasNul) nulJsonError
      require (refersToOrNull (D.store db).users (D.device d).createdBy) foreignKeyError
      require (deviceUnique (D.store db) (some id) (D.device d)) uniqueError) = (do
      require (!d.tags.hasNul) nulJsonError
      require (refersToOrNull db.users d.createdBy) foreignKeyError
      require (deviceUnique db (some id) d) uniqueError) := by
    rw [deviceUnique_device]
    rfl
  dsimp only
  rw [hok]
  cases (do
      require (!d.tags.hasNul) nulJsonError
      require (refersToOrNull db.users d.createdBy) foreignKeyError
      require (deviceUnique db (some id) d) uniqueError : Except Exn Unit) with
  | error e => exact rfl
  | ok u =>
    rw [get?_devices]
    cases db.devices.get? id with
    | none => exact ⟨rfl, devices_put id { d with createdAt := d.updatedAt }⟩
    | some old => exact ⟨rfl, devices_update id fun _ => rfl⟩

theorem alike_validateDevice (self : Option DeviceId) (data : DeviceData) :
    D.Alike (validateDevice self data) (validateDevice self data) := by
  refine alike_statement (respects_bind (fun _ => rfl) fun _ => ?_)
  refine respects_bind (fun _ => rfl) fun address => respects_bind (fun db => ?_) fun _ => ?_
  · rw [isEmpty_select_devices fun _ _ => rfl]
  · exact respects_ok address

theorem alike_createDeviceView (caller : Option UserId) (now : DateTime) (data : DeviceData) :
    D.Alike (InventoryViews.createDevice caller now data)
      (InventoryViews.createDevice caller now data) := by
  refine alike_bind (alike_permit _ caller) fun user => ?_
  refine alike_bind (alike_validateDevice none data) fun address => ?_
  split
  · exact alike_bind (alike_createDevice rfl) fun id => alike_ret _
  · exact alike_raise _

/-- An update saves the password that it has loaded. -/
theorem alike_updateDevice (caller : Option UserId) (method : Method) (now : DateTime)
    (id : DeviceId) (data : DeviceData) :
    D.Alike (InventoryViews.updateDevice caller method now id data)
      (InventoryViews.updateDevice caller method now id data) := by
  refine alike_bind (alike_permit _ caller) fun _ => ?_
  refine alike_getObject_bind D.device (fun db => get?_devices id) fun device => ?_
  refine alike_bind (alike_validateDevice (some id) data) fun address => ?_
  split
  · exact alike_raise _
  · refine Program.Mirrors.bind
      (mirrors_saveDevice id { data.apply address device with updatedAt := now })
      fun saved saved' hsaved => ?_
    rw [hsaved]
    exact alike_ret _

theorem alike_destroyDevice (caller : Option UserId) (id : DeviceId) :
    D.Alike (InventoryViews.destroyDevice caller id)
      (InventoryViews.destroyDevice caller id) := by
  refine alike_bind (alike_permit _ caller) fun _ => ?_
  refine alike_getObject_bind D.device (fun db => get?_devices id) fun _ => ?_
  exact alike_bind (alike_execute fun db => cascade_store id) fun _ => alike_ret _

theorem alike_checkReachability (caller : Option UserId) (id : DeviceId) (taskId : String) :
    D.Alike (InventoryViews.checkReachability caller id taskId)
      (InventoryViews.checkReachability caller id taskId) := by
  refine alike_bind (alike_permit _ caller) fun _ => ?_
  refine alike_getObject_bind D.device (fun db => get?_devices id) fun device => ?_
  exact alike_bind (alike_delay taskId _) fun _ => alike_ret _

theorem alike_createDiscoveryJob (caller : Option UserId) (now : DateTime)
    (subnet : Option String) (taskId : String) :
    D.Alike (InventoryViews.createDiscoveryJob caller now subnet taskId)
      (InventoryViews.createDiscoveryJob caller now subnet taskId) := by
  refine alike_bind (alike_permit _ caller) fun user => ?_
  split
  · exact alike_raise _
  · split
    · exact alike_raise _
    · refine alike_bind (alike_insertRow (fun _ => rfl) (fun _ => rfl) fun _ => rfl) fun jobId => ?_
      refine alike_bind (alike_delay taskId _) fun taskId => ?_
      refine alike_bind (alike_saveFields jobId _ (fun _ => rfl) fun _ _ => rfl) fun _ => ?_
      exact alike_bind (alike_query fun _ => rfl) fun data => alike_ret _

theorem alike_discoverHosts (net : Network) (n : ℕ) (hosts : List IpAddresses.IpAddress)
    (acc : Discovered) :
    D.Alike (discoverHosts net n hosts acc) (discoverHosts net n hosts acc) := by
  induction hosts generalizing n acc with
  | nil => exact alike_ret _
  | cons host hosts ih =>
    unfold discoverHosts
    dsimp only
    split
    · exact alike_ret _
    · exact ih (n + 1) acc
    · refine alike_bind (alike_query fun db => ?_) fun known => ?_
      · rw [isEmpty_select_devices fun _ _ => rfl]
      · split
        · exact ih (n + 1) _
        · split
          · exact alike_ret _
          · refine alike_bind (Program.Mirrors.attempt (alike_createDevice rfl)) fun created => ?_
            split
            · exact alike_ret _
            · exact ih (n + 1) _

theorem alike_runDiscovery (net : Network) (jobId : DiscoveryJobId) :
    D.Alike (InventoryTasks.runDiscovery net jobId) (InventoryTasks.runDiscovery net jobId) := by
  have hsave (set : DiscoveryJob → DiscoveryJob) :
      D.Alike (DiscoveryJob.save jobId set) (DiscoveryJob.save jobId set) :=
    alike_saveFields jobId set (fun _ => rfl) fun _ _ => rfl
  refine alike_bind (alike_statement fun db => ?_) fun job => ?_
  · have hjobs : (D.store db).discoveryJobs = db.discoveryJobs := rfl
    rw [hjobs]
    cases db.discoveryJobs.get? jobId <;> rfl
  · refine alike_bind (hsave _) fun _ => ?_
    refine alike_bind ?_ fun result => alike_bind (hsave _) fun _ => alike_ret _
    unfold discoverSubnet
    split
    · exact alike_ret _
    · exact alike_discoverHosts net 0 _ _

theorem alike_checkDeviceReachability (net : Network) (id : DeviceId) :
    D.Alike (InventoryTasks.checkDeviceReachability net id)
      (InventoryTasks.checkDeviceReachability net id) := by
  refine alike_getDevice_bind id fun device => alike_bind (alike_ofExcept _) fun reachable => ?_
  exact alike_bind (alike_execute fun db => devices_update id fun _ => rfl) fun _ => alike_ret _

theorem alike_refreshAllDeviceStatus (taskId : ℕ → String) :
    D.Alike (InventoryTasks.refreshAllDeviceStatus taskId)
      (InventoryTasks.refreshAllDeviceStatus taskId) := by
  have hqueue (n : ℕ) (ids : List DeviceId) :
      D.Alike (queueChecks taskId n ids) (queueChecks taskId n ids) := by
    induction ids generalizing n with
    | nil => exact alike_ret _
    | cons id ids ih => exact alike_bind (alike_delay (taskId n) _) fun _ => ih (n + 1)
  refine alike_bind (alike_query fun db => ?_) fun ids => ?_
  · have hrows : (D.store db).devices.rows = db.devices.rows.map fun r => (r.1, D.device r.2) := rfl
    rw [hrows, byHostname_map, List.map_map]
    rfl
  · exact alike_bind (hqueue 0 ids) fun _ => alike_ret _

/-! ### Provisioning -/

theorem alike_validateTemplate (self : Option ConfigTemplateId) (data : ConfigTemplateData) :
    D.Alike (validateTemplate self data) (validateTemplate self data) := by
  refine alike_statement (respects_bind (fun _ => rfl) fun _ => ?_)
  exact respects_bind (fun _ => rfl) fun _ => respects_ok ()

theorem alike_createTemplate (caller : Option UserId) (now : DateTime)
    (data : ConfigTemplateData) :
    D.Alike (ProvisioningViews.createTemplate caller now data)
      (ProvisioningViews.createTemplate caller now data) := by
  refine alike_bind (alike_permit _ caller) fun user => ?_
  refine alike_bind (alike_validateTemplate none data) fun _ => ?_
  split
  · refine alike_bind (alike_insertRow (fun _ => rfl) (fun _ => rfl) fun _ => rfl) fun id => ?_
    exact alike_bind (alike_query fun _ => rfl) fun data => alike_ret _
  · exact alike_raise _

theorem alike_updateTemplate (caller : Option UserId) (method : Method) (now : DateTime)
    (id : ConfigTemplateId) (data : ConfigTemplateData) :
    D.Alike (ProvisioningViews.updateTemplate caller method now id data)
      (ProvisioningViews.updateTemplate caller method now id data) := by
  refine alike_bind (alike_permit _ caller) fun _ => ?_
  refine alike_bind (alike_getObject fun _ => rfl) fun template => ?_
  refine alike_bind (alike_validateTemplate (some id) data) fun _ => ?_
  split
  · exact alike_raise _
  · refine alike_bind (alike_saveRow id _ _ (fun _ => rfl) (fun _ => rfl) fun _ _ => rfl) fun _ => ?_
    exact alike_bind (alike_query fun _ => rfl) fun data => alike_ret _

theorem alike_destroyTemplate (caller : Option UserId) (id : ConfigTemplateId) :
    D.Alike (ProvisioningViews.destroyTemplate caller id)
      (ProvisioningViews.destroyTemplate caller id) := by
  refine alike_bind (alike_permit _ caller) fun _ => ?_
  refine alike_bind (alike_getObject fun _ => rfl) fun _ => ?_
  exact alike_bind (alike_execute fun _ => rfl) fun _ => alike_ret _

theorem alike_preview (jinja : TemplateRendering.Jinja) (caller : Option UserId)
    (id : ConfigTemplateId) (vars : Option Json) :
    D.Alike (ProvisioningViews.preview jinja caller id vars)
      (ProvisioningViews.preview jinja caller id vars) := by
  refine alike_bind (alike_permit _ caller) fun _ => ?_
  refine alike_bind (alike_getObject fun _ => rfl) fun template => ?_
  split
  · exact alike_ret _
  · split
    · exact alike_raise _
    · exact alike_ret _

theorem alike_validateJob (data : ProvisioningJobData) :
    D.Alike (validateJob data) (validateJob data) := by
  obtain ⟨template, deviceIds, jobVariables⟩ := data
  cases deviceIds with
  | none => exact alike_statement (respects_error _)
  | some deviceIds =>
    refine alike_statement (respects_bind (fun db => ?_) fun _ => ?_)
    · rw [refersTo_store]
      rfl
    · exact respects_bind (fun _ => rfl) fun _ => respects_ok deviceIds

theorem alike_createProvisioningJob (caller : Option UserId) (now : DateTime)
    (data : ProvisioningJobData) (taskId : String) :
    D.Alike (ProvisioningViews.createProvisioningJob caller now data taskId)
      (ProvisioningViews.createProvisioningJob caller now data taskId) := by
  refine alike_bind (alike_permit _ caller) fun user => ?_
  refine alike_bind (alike_validateJob data) fun deviceIds => ?_
  refine alike_bind (alike_insertRow (fun _ => rfl) (fun _ => rfl) fun _ => rfl) fun jobId => ?_
  refine alike_bind (alike_statement fun db => ?_) fun _ => ?_
  · rw [refersTo_store]
    split <;> rfl
  · refine alike_bind (alike_delay taskId _) fun taskId => ?_
    refine alike_bind (alike_saveFields jobId _ (fun _ => rfl) fun _ _ => rfl) fun _ => ?_
    exact alike_bind (alike_query fun db => provisioningJobData_store jobId _) fun data =>
      alike_ret _

theorem pushOutcome_device (s : SshSession) (d : Device) (lines : List String) :
    pushOutcome s (D.device d) lines = pushOutcome (D.session s) d lines := by
  simp only [pushOutcome, pushConfig, connect_device]
  rfl

/-- The loop pushes over the sessions before the disguise what it pushes over the others. -/
theorem pushDevices_device (w : PushWorld) (job : LoadedJob) (lines : List String) (n : ℕ)
    (devices : List (DeviceId × Device)) :
    pushDevices w job lines n (devices.map fun r => (r.1, D.device r.2)) =
      pushDevices (D.push w) job lines n devices := by
  induction devices generalizing n with
  | nil => rfl
  | cons device devices ih =>
    rw [List.map_cons, pushDevices, pushDevices, pushDevice, pushDevice, pushOutcome_device]
    simp only [ih]
    rfl

theorem alike_pushDevices (w : PushWorld) (job : LoadedJob) (lines : List String) (n : ℕ)
    (devices : List (DeviceId × Device)) :
    D.Alike (pushDevices w job lines n devices) (pushDevices w job lines n devices) := by
  induction devices generalizing n with
  | nil => exact alike_ret _
  | cons device devices ih =>
    have hresult (r : ProvisioningResult) :
        D.Alike (ProvisioningResult.create r) (ProvisioningResult.create r) :=
      alike_insertRow (fun db => by rw [refersTo_devices]; rfl) (fun _ => rfl) fun _ => rfl
    refine alike_bind ?_ fun success => alike_bind (ih (n + 1)) fun _ => alike_ret _
    exact alike_bind (hresult _) fun _ => alike_bind (alike_createLog _) fun _ => alike_ret _

theorem alike_executeProvisioningJob (w : PushWorld) (jobId : ProvisioningJobId) :
    D.Alike (executeProvisioningJob (D.push w) jobId) (executeProvisioningJob w jobId) := by
  have hsave (id : ProvisioningJobId) (set : ProvisioningJob → ProvisioningJob) :
      D.Alike (ProvisioningJob.save id set) (ProvisioningJob.save id set) :=
    alike_saveFields id set (fun _ => rfl) fun _ _ => rfl
  refine alike_bind (alike_statement fun db => ?_) fun job => ?_
  · have hjobs : (D.store db).provisioningJobs = db.provisioningJobs := rfl
    rw [hjobs]
    cases db.provisioningJobs.get? jobId <;> rfl
  · refine Program.Mirrors.bind (V := fun rows rows' =>
      rows' = rows.map fun r => (r.1, D.device r.2)) ?_ fun devices devices' hdevices => ?_
    · exact Program.mirrors_query fun db db' hdb => hdb ▸ jobDeviceRows_store jobId
    · refine alike_bind (hsave _ _) fun _ => alike_bind (alike_ofExcept _) fun rendered => ?_
      refine alike_bind (alike_bind (alike_ofExcept _) fun _ => hsave _ _) fun _ => ?_
      rw [hdevices, pushDevices_device]
      refine alike_bind (alike_pushDevices (D.push w) job _ 0 devices) fun results => ?_
      exact alike_bind (hsave _ _) fun _ => alike_ret _

/-! ### Monitoring -/

theorem alike_firstDevice (ip : String) : D.Alike (firstDevice ip) (firstDevice ip) := by
  refine alike_statement fun db => ?_
  split
  · rfl
  · cases IpAddresses.ipAddress ip with
    | none => rfl
    | some address =>
      have hdevices : (devicesAt (D.store db) address).head?.map Prod.fst =
          (devicesAt db address).head?.map Prod.fst := by
        have hselect : devicesAt (D.store db) address =
            (devicesAt db address).map fun r => (r.1, D.device r.2) :=
          Table.select_mapRows db.devices (fun _ d => d.ipAddress == address) fun _ => D.device
        rw [hselect, List.head?_map, Option.map_map]
        rfl
      dsimp only
      rw [hdevices]
      rfl

theorem alike_updateOrCreate (w : WebhookWorld) (now : DateTime) (fingerprint : Json)
    (d : AlertDefaults) : D.Alike (Alert.updateOrCreate w now fingerprint d)
      (Alert.updateOrCreate w now fingerprint d) := by
  refine alike_statement (respects_bind (fun _ => rfl) fun fingerprint => ?_)
  refine respects_bind (fun _ => rfl) fun _ => respects_bind (fun _ => rfl) fun row => ?_
  refine respects_bind (fun db => ?_) fun _ => fun _ => rfl
  rw [refersToOrNull_devices]

theorem alike_alertmanagerWebhook (w : WebhookWorld) (body : Json) :
    D.Alike (MonitoringViews.alertmanagerWebhook w body)
      (MonitoringViews.alertmanagerWebhook w body) := by
  have hloop (k : ℕ) (raws : List (List (String × Json))) :
      D.Alike (processAlerts w k raws) (processAlerts w k raws) := by
    induction raws generalizing k with
    | nil => exact alike_ret _
    | cons raw raws ih =>
      refine alike_bind ?_ fun created => alike_bind (ih (k + 1)) fun count => alike_ret _
      refine alike_bind (alike_ofExcept _) fun input => ?_
      refine alike_bind (alike_firstDevice input.ip) fun device => ?_
      exact alike_bind (alike_ofExcept _) fun d => alike_updateOrCreate w _ _ d
  unfold MonitoringViews.alertmanagerWebhook
  split
  · exact alike_ret _
  · exact alike_bind (hloop 0 _) fun created => alike_ret _

/-- An alert is answered from the store that it was loaded from. -/
theorem alike_getAlert_bind {β : Type} {f g : Alert × Platform → Statement β} (id : AlertId)
    (hf : ∀ a db, D.Alike (f (a, db)) (g (a, D.store db))) :
    D.Alike (getAlert id >>= f) (getAlert id >>= g) := by
  refine alike_getObject_bind (fun r => (r.1, D.store r.2)) (fun db => ?_) fun r => ?_
  · rw [Option.map_map]
    rfl
  · exact hf r.1 r.2

theorem alike_acknowledge (caller : Option UserId) (now : DateTime) (id : AlertId) :
    D.Alike (MonitoringViews.acknowledge caller now id)
      (MonitoringViews.acknowledge caller now id) := by
  refine alike_bind (alike_permit _ caller) fun _ => alike_getAlert_bind id fun alert db => ?_
  refine alike_bind (alike_saveFields id _ (fun _ => rfl) fun _ _ => rfl) fun _ => ?_
  rw [alertData_store]
  exact alike_ret _

theorem alike_partialUpdateAlert (caller : Option UserId) (id : AlertId) (patch : AlertPatch) :
    D.Alike (MonitoringViews.partialUpdateAlert caller id patch)
      (MonitoringViews.partialUpdateAlert caller id patch) := by
  refine alike_bind (alike_permit _ caller) fun _ => alike_getAlert_bind id fun alert db => ?_
  dsimp only
  split
  · exact alike_raise _
  · refine alike_bind (alike_saveRow id _ _ (fun db => ?_) (fun _ => rfl) fun _ _ => rfl) fun _ => ?_
    · rw [refersToOrNull_devices]
    · rw [alertData_store]
      exact alike_ret _

/-! ### Security -/

theorem alike_validateRule (self : Option ComplianceRuleId) (data : ComplianceRuleData) :
    D.Alike (validateRule self data) (validateRule self data) := by
  refine alike_statement (respects_bind (fun _ => rfl) fun _ => ?_)
  exact respects_bind (fun _ => rfl) fun _ => respects_ok ()

theorem alike_createRule (caller : Option UserId) (now : DateTime) (data : ComplianceRuleData) :
    D.Alike (SecurityViews.createRule caller now data)
      (SecurityViews.createRule caller now data) := by
  refine alike_bind (alike_permit _ caller) fun _ => ?_
  refine alike_bind (alike_validateRule none data) fun _ => ?_
  split
  · exact alike_bind (alike_insertRow (fun _ => rfl) (fun _ => rfl) fun _ => rfl) fun id =>
      alike_ret _
  · exact alike_raise _

theorem alike_updateRule (caller : Option UserId) (method : Method) (now : DateTime)
    (id : ComplianceRuleId) (data : ComplianceRuleData) :
    D.Alike (SecurityViews.updateRule caller method now id data)
      (SecurityViews.updateRule caller method now id data) := by
  refine alike_bind (alike_permit _ caller) fun _ => ?_
  refine alike_bind (alike_getObject fun _ => rfl) fun rule => ?_
  refine alike_bind (alike_validateRule (some id) data) fun _ => ?_
  split
  · exact alike_raise _
  · exact alike_bind (alike_saveRow id _ _ (fun _ => rfl) (fun _ => rfl) fun _ _ => rfl) fun _ =>
      alike_ret _

theorem alike_destroyRule (caller : Option UserId) (id : ComplianceRuleId) :
    D.Alike (SecurityViews.destroyRule caller id) (SecurityViews.destroyRule caller id) := by
  refine alike_bind (alike_permit _ caller) fun _ => ?_
  refine alike_bind (alike_getObject fun _ => rfl) fun _ => ?_
  exact alike_bind (alike_execute fun _ => rfl) fun _ => alike_ret _

theorem alike_setGolden (caller : Option UserId) (pk : ConfigSnapshotId) :
    D.Alike (SecurityTasks.setGolden caller pk) (SecurityTasks.setGolden caller pk) := by
  refine alike_bind (alike_permit _ caller) fun _ => ?_
  refine alike_getObject_bind (fun r => (r.1, D.device r.2)) (fun db => ?_) fun r => ?_
  · have hsnapshots : (D.store db).configSnapshots = db.configSnapshots := rfl
    simp only [snapshotWithDevice, hsnapshots, get?_devices]
    cases db.configSnapshots.get? pk with
    | none => rfl
    | some snap =>
      simp only [Option.bind_eq_bind, Option.bind_some]
      cases db.devices.get? snap.device <;> rfl
  · refine alike_bind (alike_execute fun _ => rfl) fun _ => ?_
    exact alike_bind (alike_saveFields pk _ (fun _ => rfl) fun _ _ => rfl) fun _ => alike_ret _

theorem alike_deviceAction (caller : Option UserId) (deviceId : Option DeviceId)
    (taskId : String) (message : DeviceId → UserId → TaskMessage) :
    D.Alike (deviceAction caller deviceId taskId message)
      (deviceAction caller deviceId taskId message) := by
  refine alike_bind (alike_permit _ caller) fun user => ?_
  split
  · exact alike_ret _
  · exact alike_ret _
  · exact alike_bind (alike_delay taskId _) fun _ => alike_ret _

theorem alike_updateUserProfile (caller : Option UserId) (now : DateTime) (id : ℕ)
    (role : Option Role) :
    D.Alike (SecurityViews.updateUserProfile caller now id role)
      (SecurityViews.updateUserProfile caller now id role) := by
  refine alike_bind (alike_permit _ caller) fun _ => ?_
  refine alike_bind (alike_getObject fun _ => rfl) fun profile => ?_
  refine alike_bind (alike_saveRow id _ _ (fun _ => rfl) (fun _ => rfl) fun _ _ => rfl) fun _ => ?_
  exact alike_bind (alike_query fun _ => rfl) fun data => alike_ret _

theorem alike_destroyUserProfile (caller : Option UserId) (id : ℕ) :
    D.Alike (SecurityViews.destroyUserProfile caller id)
      (SecurityViews.destroyUserProfile caller id) := by
  refine alike_bind (alike_permit _ caller) fun _ => ?_
  refine alike_bind (alike_getObject fun _ => rfl) fun _ => ?_
  exact alike_bind (alike_execute fun _ => rfl) fun _ => alike_ret _

theorem checkRules_device (w : ComplianceWorld) (deviceId : DeviceId) (d : Device)
    (user : Option UserId) (n : ℕ) (rules : List (ComplianceRuleId × ComplianceRule)) :
    checkRules w deviceId (D.device d) user n rules =
      checkRules (D.compliance w) deviceId d user n rules := by
  have hrule (n : ℕ) (rule : ComplianceRule) :
      checkRule w (D.device d) n rule = checkRule (D.compliance w) d n rule := by
    simp only [checkRule, sendCommand, connect_device]
    rfl
  induction rules generalizing n with
  | nil => rfl
  | cons rule rules ih =>
    rw [checkRules, checkRules, hrule]
    simp only [ih]
    rfl

theorem alike_runComplianceCheck (w : ComplianceWorld) (deviceId : DeviceId)
    (ruleIds : Option (List ComplianceRuleId)) (user : Option UserId) :
    D.Alike (SecurityTasks.runComplianceCheck (D.compliance w) deviceId ruleIds user)
      (SecurityTasks.runComplianceCheck w deviceId ruleIds user) := by
  have hrules (device : Device) (n : ℕ) (rules : List (ComplianceRuleId × ComplianceRule)) :
      D.Alike (checkRules (D.compliance w) deviceId device user n rules)
        (checkRules (D.compliance w) deviceId device user n rules) := by
    induction rules generalizing n with
    | nil => exact alike_ret _
    | cons rule rules ih =>
      refine alike_bind ?_ fun _ => alike_bind (ih (n + 1)) fun _ => alike_ret _
      exact alike_insertRow (fun db => by rw [refersTo_devices]; rfl) (fun _ => rfl) fun _ => rfl
  refine alike_getDevice_bind deviceId fun device => ?_
  refine alike_bind (alike_query fun _ => rfl) fun rules => ?_
  rw [checkRules_device]
  refine alike_bind (hrules device 0 rules) fun results => ?_
  exact alike_bind (alike_createLog _) fun _ => alike_ret _

theorem getRunningConfig_device (s : SshSession) (d : Device) :
    getRunningConfig s (D.device d) = getRunningConfig (D.session s) d := connect_device s d _

theorem alike_createSnapshot (s : ConfigSnapshot) :
    D.Alike (ConfigSnapshot.create s) (ConfigSnapshot.create s) :=
  alike_insertRow (fun db => by rw [refersTo_devices]; rfl) (fun _ => rfl) fun _ => rfl

theorem alike_createReport (r : DriftReport) :
    D.Alike (DriftReport.create r) (DriftReport.create r) :=
  alike_insertRow (fun db => by rw [refersTo_devices]; rfl) (fun _ => rfl) fun _ => rfl

theorem alike_runDriftDetection (w : DriftWorld) (deviceId : DeviceId) (user : Option UserId) :
    D.Alike (SecurityTasks.runDriftDetection (D.drift w) deviceId user)
      (SecurityTasks.runDriftDetection w deviceId user) := by
  refine alike_getDevice_bind deviceId fun device => ?_
  have hconfig : getRunningConfig (D.drift w).session device =
      getRunningConfig w.session (D.device device) := (getRunningConfig_device _ _).symm
  rw [hconfig]
  cases getRunningConfig w.session (D.device device) with
  | error exc =>
    dsimp only
    split
    · exact alike_raise _
    · exact alike_bind (alike_createReport _) fun _ => alike_ret _
  | ok config =>
    refine alike_bind (alike_createSnapshot _) fun snap => ?_
    refine alike_bind (alike_query fun _ => rfl) fun golden => ?_
    cases golden with
    | none =>
      refine alike_bind (alike_saveFields snap _ (fun _ => rfl) fun _ _ => rfl) fun _ => ?_
      exact alike_bind (alike_createReport _) fun _ => alike_ret _
    | some golden =>
      refine alike_bind (alike_createReport _) fun report => ?_
      exact alike_bind (alike_createLog _) fun _ => alike_ret _

theorem alike_takeConfigSnapshot (w : SnapshotWorld) (deviceId : DeviceId) (golden : Bool)
    (user : Option UserId) :
    D.Alike (SecurityTasks.takeConfigSnapshot (D.snapshot w) deviceId golden user)
      (SecurityTasks.takeConfigSnapshot w deviceId golden user) := by
  refine alike_getDevice_bind deviceId fun device => ?_
  have hconfig : getRunningConfig (D.snapshot w).session device =
      getRunningConfig w.session (D.device device) := (getRunningConfig_device _ _).symm
  rw [hconfig]
  cases getRunningConfig w.session (D.device device) with
  | error exc =>
    dsimp only
    split
    · exact alike_raise _
    · exact alike_ret _
  | ok config =>
    refine alike_bind (alike_createSnapshot _) fun snap => ?_
    exact alike_bind (alike_createLog _) fun _ => alike_ret _

end DevSecOpsPlatform.DisguisedOperations
