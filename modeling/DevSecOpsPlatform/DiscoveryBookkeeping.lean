import DevSecOpsPlatform.PlatformChanges

/-!
# The books of a discovery

A discovery counts the hosts it finds and the devices it adds while any other requests and
tasks run. Its history says which devices it inserted; the counters are followed along its
loop, where an insertion that fails ends the loop with the counters as they are. The
unique columns are the database's: no statement leaves two devices at one address.
-/

namespace DevSecOpsPlatform.DiscoveryBookkeeping

open KeyedTables StatementPrograms PlatformModels PlatformStore PythonValues IpAddresses
open InventoryTasks InventoryViews ProgramInterleaving PlatformOperations PlatformChanges

/-! ### Addresses -/

def UniqueAddresses (db : Platform) : Prop :=
  ∀ id id' d d', db.devices.get? id = some d → db.devices.get? id' = some d' →
    d.ipAddress = d'.ipAddress → id = id'

theorem ne_of_deviceUnique {db : Platform} {self : Option DeviceId} {d e : Device} {id : DeviceId}
    (h : deviceUnique db self d = true) (he : db.devices.get? id = some e)
    (hid : some id ≠ self) : d.ipAddress ≠ e.ipAddress := by
  intro heq
  have hnil := Table.select_eq_nil.mp (List.isEmpty_iff.mp h) id e he
  simp [hid, heq] at hnil

/-- One row written, the others as they were or gone. -/
theorem uniqueAddresses_of_write {db db' : Platform} (h : UniqueAddresses db) (k : DeviceId)
    (d : Device) (hk : ∀ e, db'.devices.get? k = some e → e.ipAddress = d.ipAddress)
    (hother : ∀ id e, id ≠ k → db'.devices.get? id = some e → db.devices.get? id = some e)
    (hunique : ∀ id e, id ≠ k → db.devices.get? id = some e → d.ipAddress ≠ e.ipAddress) :
    UniqueAddresses db' := by
  intro id id' e e' he he' heq
  by_cases hid : id = k
  · by_cases hid' : id' = k
    · exact hid.trans hid'.symm
    · have hne := hunique id' e' hid' (hother id' e' hid' he')
      exact absurd ((hk e (hid ▸ he)).symm.trans heq) hne
  · by_cases hid' : id' = k
    · have hne := hunique id e hid (hother id e hid he)
      exact absurd ((hk e' (hid' ▸ he')).symm.trans heq.symm) hne
    · exact h id id' e e' (hother id e hid he) (hother id' e' hid' he') heq

/-- No row written, or none to another address. -/
theorem uniqueAddresses_of_kept {db db' : Platform} (h : UniqueAddresses db)
    (hkept : ∀ id e', db'.devices.get? id = some e' →
      ∃ e, db.devices.get? id = some e ∧ e.ipAddress = e'.ipAddress) : UniqueAddresses db' := by
  intro id id' e' f' he' hf' heq
  obtain ⟨e, he, hee⟩ := hkept id e' he'
  obtain ⟨f, hf, hff⟩ := hkept id' f' hf'
  exact h id id' e f he hf (hee.trans (heq.trans hff.symm))

theorem uniqueAddresses_change {db db' : Platform} (hchange : Change db db')
    (h : UniqueAddresses db) : UniqueAddresses db' := by
  cases hchange with
  | createDevice d hunique =>
    refine uniqueAddresses_of_write h db.devices.nextId d (fun e he => ?_) (fun id e hid he => ?_)
      (fun id e hid he => ne_of_deviceUnique hunique he (by simp))
    · rw [Table.get?_insert_nextId] at he
      exact congrArg Device.ipAddress (Option.some.inj he).symm
    · rwa [Table.get?_insert, if_neg hid] at he
  | saveDevice id d hunique =>
    refine uniqueAddresses_of_write h id d (fun e he => ?_) (fun k e hk he => ?_)
      (fun k e hk he => ne_of_deviceUnique hunique he (by simpa using hk))
    · rw [Table.get?_store_self] at he
      split at he
      · exact congrArg Device.ipAddress (Option.some.inj he).symm
      · cases he
    · rwa [Table.get?_store_of_ne _ _ hk] at he
  | setDeviceStatus id status =>
    refine uniqueAddresses_of_kept h (fun k e' he' => ?_)
    rw [Table.get?_update] at he'
    split at he'
    · obtain ⟨e, he, rfl⟩ := Option.map_eq_some_iff.mp he'
      exact ⟨e, he, rfl⟩
    · exact ⟨e', he', rfl⟩
  | deleteDevice id =>
    refine uniqueAddresses_of_kept h (fun k e he => ⟨e, ?_, rfl⟩)
    simp only [Device.cascade, Table.delete, Table.get?_deleteWhere] at he
    exact (Option.filter_eq_some_iff.mp he).1
  | _ => exact uniqueAddresses_of_kept h fun id e he => ⟨e, he, rfl⟩

theorem uniqueAddresses_effect {o : Operation} {db db' : Platform} (heffect : Effect o db db')
    (h : UniqueAddresses db) : UniqueAddresses db' := by
  cases heffect with
  | common hchange => exact uniqueAddresses_change hchange h
  | _ => exact uniqueAddresses_of_kept h fun id e he => ⟨e, he, rfl⟩

/-! ### What a history inserted -/

/-- The devices that are in the inventory after and were not before. -/
def newDevices (before after : Platform) : List (DeviceId × Device) :=
  after.devices.select (fun id _ => (before.devices.get? id).isNone)

/-- The rows of `Device` that the statements of a history inserted. -/
def insertedDevices (h : History Platform) : List (DeviceId × Device) :=
  h.flatMap (fun p => newDevices p.1 p.2)

theorem newDevices_of_eq {db db' : Platform} (h : db'.devices = db.devices) :
    newDevices db db' = [] := by
  rw [newDevices, h]
  exact Table.select_eq_nil.mpr fun id a ha => by simp [ha]

theorem newDevices_insert (db : Platform) (d : Device) :
    newDevices db { db with devices := db.devices.insert d } = [(db.devices.nextId, d)] := by
  have hold : db.devices.select (fun id _ => (db.devices.get? id).isNone) = [] :=
    newDevices_of_eq (rfl : db.devices = db.devices)
  simp [newDevices, Table.select_insert, hold]

theorem insertedDevices_of_eq (h : History Platform) {db db' : Platform}
    (hdevices : db'.devices = db.devices) :
    insertedDevices (h ++ [(db, db')]) = insertedDevices h := by
  simp [insertedDevices, newDevices_of_eq hdevices]

theorem insertedDevices_insert (h : History Platform) (db : Platform) (d : Device) :
    insertedDevices (h ++ [(db, { db with devices := db.devices.insert d })]) =
      insertedDevices h ++ [(db.devices.nextId, d)] := by
  simp [insertedDevices, newDevices_insert]

/-! ### The loop -/

/-- Every device that the history inserted has one of the addresses. -/
def Within (hosts : List IpAddress) (h : History Platform) : Prop :=
  ∀ r ∈ insertedDevices h, r.2.ipAddress ∈ hosts

theorem Within.of_eq {hosts : List IpAddress} {h : History Platform} (hh : Within hosts h)
    {db db' : Platform} (hdevices : db'.devices = db.devices) :
    Within hosts (h ++ [(db, db')]) := by
  unfold Within
  rw [insertedDevices_of_eq h hdevices]
  exact hh

/-- The counters of a discovery with its history, when `remaining` hosts are left. -/
structure Tally (hosts : List IpAddress) (h : History Platform) (acc : Discovered)
    (remaining : ℕ) : Prop where
  added : acc.added = (insertedDevices h).length
  addedLe : acc.added ≤ acc.found
  foundLe : acc.found + remaining ≤ hosts.length
  within : Within hosts h

theorem tally_start {h : History Platform} (hh : insertedDevices h = []) (hosts : List IpAddress)
    (lines : List String) : Tally hosts h { logLines := lines } hosts.length := by
  refine ⟨?_, Nat.le_refl 0, ?_, fun r hr => ?_⟩
  · rw [hh]
    rfl
  · simp
  · simp [hh] at hr

theorem Tally.of_eq {hosts : List IpAddress} {h : History Platform} {acc : Discovered} {n : ℕ}
    (ht : Tally hosts h acc n) {db db' : Platform} (hdevices : db'.devices = db.devices) :
    Tally hosts (h ++ [(db, db')]) acc n := by
  obtain ⟨hadded, hle, hfound, hwithin⟩ := ht
  rw [← insertedDevices_of_eq h hdevices] at hadded
  exact ⟨hadded, hle, hfound, hwithin.of_eq hdevices⟩

/-- One more host found, and nothing inserted. -/
theorem Tally.find {hosts : List IpAddress} {h : History Platform} {acc : Discovered} {n : ℕ}
    (ht : Tally hosts h acc (n + 1)) (lines : List String) :
    Tally hosts h { acc with found := acc.found + 1, logLines := lines } n := by
  obtain ⟨hadded, hle, hfound, hwithin⟩ := ht
  refine ⟨hadded, Nat.le_succ_of_le hle, ?_, hwithin⟩
  simpa [Nat.add_assoc, Nat.add_comm 1] using hfound

/-- The device that was not in the inventory is inserted at the address just found. -/
theorem Tally.insert {hosts : List IpAddress} {h : History Platform} {acc : Discovered} {n : ℕ}
    (ht : Tally hosts h acc n) (hfound : acc.added < acc.found) (db : Platform) {d : Device}
    (hd : d.ipAddress ∈ hosts) (lines : List String) :
    Tally hosts (h ++ [(db, { db with devices := db.devices.insert d })])
      { acc with added := acc.added + 1, logLines := lines } n := by
  refine ⟨?_, hfound, ht.foundLe, ?_⟩
  · rw [insertedDevices_insert, List.length_append, ← ht.added]
    rfl
  · intro r hr
    rw [insertedDevices_insert] at hr
    rcases List.mem_append.mp hr with hr | hr
    · exact ht.within r hr
    · rw [List.mem_singleton.mp hr]
      exact hd

/-- Hosts that are not looked at, and other lines in the log. -/
theorem Tally.weaken {hosts : List IpAddress} {h : History Platform} {acc : Discovered} {m n : ℕ}
    (ht : Tally hosts h acc n) (hmn : m ≤ n) (lines : List String) :
    Tally hosts h { acc with logLines := lines } m :=
  ⟨ht.added, ht.addedLe, (Nat.add_le_add_left hmn _).trans ht.foundLe, ht.within⟩

theorem along_createDevice {β : Type} {I : History Platform → Prop}
    {P : History Platform → Except Exn β → Prop} {h : History Platform} (hI : I h) (d : Device)
    {g : Except Exn DeviceId → Statement β}
    (hok : ∀ db id, (g (.ok id)).Along Program.anyStore I P
      (h ++ [(db, { db with devices := db.devices.insert d })]))
    (herror : ∀ db e, (g (.error e)).Along Program.anyStore I P (h ++ [(db, db)])) :
    ((Device.create d).attempt >>= g).Along Program.anyStore I P h := by
  refine Program.along_attempt_bind hI (fun db id db' _ hrun => ?_) (fun db e _ _ => herror db e)
  obtain ⟨-, rfl⟩ := eq_of_insertRow hrun
  exact hok db id

/-- The loop keeps its books, whatever answers it gets and however it ends. -/
theorem along_discoverHosts (net : Network) (total : List IpAddress) {I : History Platform → Prop}
    (hI : ∀ h, Within total h → I h) (n : ℕ) (hosts : List IpAddress)
    (hhosts : ∀ a ∈ hosts, a ∈ total) (acc : Discovered) (h : History Platform)
    (ht : Tally total h acc hosts.length) :
    (discoverHosts net n hosts acc).Along Program.anyStore I
      (fun h r => ∃ acc failure, r = .ok (acc, failure) ∧ Tally total h acc 0) h := by
  induction hosts generalizing n acc h with
  | nil => exact ⟨acc, none, rfl, ht⟩
  | cons host hosts ih =>
    have hrest : ∀ a ∈ hosts, a ∈ total := fun a ha => hhosts a (List.mem_cons_of_mem _ ha)
    unfold discoverHosts
    dsimp only
    split
    · exact ⟨acc, _, rfl, ht.weaken (Nat.zero_le _) acc.logLines⟩
    · exact ih (n + 1) hrest acc h (ht.weaken (Nat.le_succ _) acc.logLines)
    · have hfind := ht.find (acc.logLines ++ ["[ALIVE] " ++ host.text])
      refine Program.along_query_bind (hI h ht.within) (fun db _ => ?_)
      have hasked := hfind.of_eq (rfl : db.devices = db.devices)
      split
      · exact ih (n + 1) hrest _ _ (hasked.weaken (Nat.le_refl _) _)
      · split
        · exact ⟨_, _, rfl, hasked.weaken (Nat.zero_le _) _⟩
        · refine along_createDevice (hI _ hasked.within) _ (fun db' id => ?_) (fun db' e => ?_)
          · refine ih (n + 1) hrest _ _ ?_
            exact hasked.insert (Nat.lt_succ_of_le ht.addedLe) db' (hhosts host (by simp)) _
          · exact ⟨_, _, rfl, (hasked.of_eq rfl).weaken (Nat.zero_le _) _⟩

/-! ### The task -/

/-- The addresses that a discovery of the subnet looks at. -/
def subnetHosts (net : Network) (subnet : String) : List IpAddress :=
  match net.hosts subnet with
  | .ok hosts => hosts
  | .error _ => []

/-- The history starts with the load of a job of the subnet. -/
def Loads (jobId : DiscoveryJobId) (subnet : String) (h : History Platform) : Prop :=
  ∃ db job, [(db, db)] <+: h ∧ db.discoveryJobs.get? jobId = some job ∧ job.subnet = subnet

/-- Every device that the history inserted has an address of the subnet it loaded. -/
def FromSubnet (net : Network) (jobId : DiscoveryJobId) (h : History Platform) : Prop :=
  ∀ r ∈ insertedDevices h, ∃ subnet, Loads jobId subnet h ∧
    r.2.ipAddress ∈ subnetHosts net subnet

theorem fromSubnet_of_within {net : Network} {jobId : DiscoveryJobId} {subnet : String}
    {h : History Platform} (hload : Loads jobId subnet h)
    (hwithin : Within (subnetHosts net subnet) h) : FromSubnet net jobId h :=
  fun r hr => ⟨subnet, hload, hwithin r hr⟩

/-- The row of a discovery of the subnet that ended, having inserted the given devices. -/
structure Bookkept (net : Network) (subnet : String) (inserted : List (DeviceId × Device))
    (job : DiscoveryJob) : Prop where
  status : job.status = .completed ∨ job.status = .failed
  completedAt : job.completedAt ≠ none
  devicesAdded : job.devicesAdded = inserted.length
  addedLe : job.devicesAdded ≤ job.devicesFound
  foundLe : job.devicesFound ≤ (subnetHosts net subnet).length
  within : ∀ r ∈ inserted, r.2.ipAddress ∈ subnetHosts net subnet

/-- What the last statement of a discovery leaves of its row, if there is one. -/
def Closes (net : Network) (jobId : DiscoveryJobId) (h : History Platform) : Prop :=
  ∃ g db db', h = g ++ [(db, db')] ∧ ∀ job, db'.discoveryJobs.get? jobId = some job →
    ∃ subnet, Loads jobId subnet h ∧ Bookkept net subnet (insertedDevices h) job

theorem along_discoverSubnet (net : Network) (subnet : String) {I : History Platform → Prop}
    (hI : ∀ h, Within (subnetHosts net subnet) h → I h) (acc : Discovered)
    (h : History Platform) (ht : Tally (subnetHosts net subnet) h acc
      (subnetHosts net subnet).length) :
    (discoverSubnet net subnet acc).Along Program.anyStore I
      (fun h r => ∃ acc failure, r = .ok (acc, failure) ∧
        Tally (subnetHosts net subnet) h acc 0) h := by
  cases hhosts : net.hosts subnet with
  | error exc =>
    simp only [discoverSubnet, hhosts]
    exact ⟨acc, _, rfl, ht.weaken (Nat.zero_le _) acc.logLines⟩
  | ok hosts =>
    have htotal : subnetHosts net subnet = hosts := by simp [subnetHosts, hhosts]
    simp only [discoverSubnet, hhosts]
    rw [htotal] at hI ht ⊢
    exact along_discoverHosts net hosts hI 0 hosts (fun a ha => ha) acc h ht

theorem closes_of_none {net : Network} {jobId : DiscoveryJobId} (h : History Platform)
    {db : Platform} (hnone : db.discoveryJobs.get? jobId = none) :
    Closes net jobId (h ++ [(db, db)]) :=
  ⟨h, db, db, rfl, fun job hjob => by simp [hnone] at hjob⟩

/-- The row that the last statement leaves says what the loop counted. -/
theorem closes_of_tally {net : Network} {jobId : DiscoveryJobId} {subnet : String}
    {h : History Platform} {acc : Discovered} {db db' : Platform}
    (hload : Loads jobId subnet (h ++ [(db, db')]))
    (ht : Tally (subnetHosts net subnet) h acc 0)
    (hdevices : db'.devices = db.devices)
    (hrow : ∀ job, db'.discoveryJobs.get? jobId = some job →
      (job.status = .completed ∨ job.status = .failed) ∧ job.completedAt ≠ none ∧
        job.devicesFound = acc.found ∧ job.devicesAdded = acc.added) :
    Closes net jobId (h ++ [(db, db')]) := by
  refine ⟨h, db, db', rfl, fun job hjob => ⟨subnet, hload, ?_⟩⟩
  obtain ⟨hstatus, hat, hfound, hadded⟩ := hrow job hjob
  rw [insertedDevices_of_eq h hdevices]
  refine ⟨hstatus, hat, hadded.trans ht.added, ?_, ?_, ht.within⟩
  · rw [hadded, hfound]
    exact ht.addedLe
  · rw [hfound]
    exact ht.foundLe

theorem along_runDiscovery (net : Network) (jobId : DiscoveryJobId) :
    (runDiscovery net jobId).Along Program.anyStore (FromSubnet net jobId)
      (fun h _ => FromSubnet net jobId h ∧ Closes net jobId h) [] := by
  have hempty (h : History Platform) (hh : insertedDevices h = []) : FromSubnet net jobId h := by
    intro r hr
    simp [hh] at hr
  have hsame (db : Platform) : insertedDevices [(db, db)] = [] := insertedDevices_of_eq [] rfl
  refine Program.along_statement_bind (hempty [] rfl) (fun db job db' _ hrun => ?_)
    (fun db e _ hrun => ?_)
  · cases hjob : db.discoveryJobs.get? jobId with
    | none => simp [hjob] at hrun
    | some row =>
      simp only [hjob, Except.ok.injEq, Prod.mk.injEq] at hrun
      obtain ⟨rfl, rfl⟩ := hrun
      refine Program.Along.of_prefix (List.prefix_refl _) ?_
      have hload (h : History Platform) (hh : [] ++ [(db, db)] <+: h) :
          Loads jobId row.subnet h := ⟨db, row, hh, hjob, rfl⟩
      have hwithin (h : History Platform) (hh : Within (subnetHosts net row.subnet) h)
          (hpre : [] ++ [(db, db)] <+: h) : FromSubnet net jobId h :=
        fromSubnet_of_within (hload h hpre) hh
      refine along_saveFields_bind (fun _ => hempty _ (hsame db)) (fun db' job' _ _ => ?_)
        (fun db' e _ hnone _ => ⟨hempty _ ?_, closes_of_none _ hnone⟩)
      · have hnone : insertedDevices ([] ++ [(db, db)] ++ [(db', { db' with
            discoveryJobs := db'.discoveryJobs.update jobId (fun j =>
              { j with status := .running, startedAt := some (net.clock 0) }) })]) = [] :=
          (insertedDevices_of_eq _ rfl).trans (hsame db)
        refine (along_discoverSubnet net row.subnet hwithin _ _ (tally_start hnone _ _)).bind
          (fun h r hr => ?_) (fun h e he => ?_)
        · obtain ⟨acc, failure, hr, ht⟩ := hr
          obtain rfl := Except.ok.inj hr
          refine along_saveFields_bind (hwithin h ht.within) (fun db'' job'' _ _ hpre => ?_)
            (fun db'' e _ hgone hpre => ⟨?_, closes_of_none _ hgone⟩)
          · refine ⟨hwithin _ (ht.within.of_eq rfl) hpre, ?_⟩
            refine closes_of_tally (hload _ hpre) ht rfl (fun job hjob => ?_)
            rw [Table.get?_update_self] at hjob
            obtain ⟨old, -, rfl⟩ := Option.map_eq_some_iff.mp hjob
            refine ⟨?_, by simp, rfl, rfl⟩
            cases failure <;> simp
          · exact hwithin _ (ht.within.of_eq rfl) hpre
        · obtain ⟨acc, failure, he, -⟩ := he
          cases he
      · rw [insertedDevices_of_eq _ rfl]
        exact hsame db
  · cases hjob : db.discoveryJobs.get? jobId with
    | none => exact ⟨hempty _ (hsame db), closes_of_none [] hjob⟩
    | some row => simp [hjob] at hrun

/-! ### Runs -/

/-- The job is there and has its subnet. -/
def HasSubnet (jobId : DiscoveryJobId) (subnet : String) (db : Platform) : Prop :=
  ∃ job, db.discoveryJobs.get? jobId = some job ∧ job.subnet = subnet

theorem hasSubnet_effect {o : Operation} {db db' : Platform} (h : Effect o db db')
    {jobId : DiscoveryJobId} {subnet : String} (hjob : HasSubnet jobId subnet db) :
    HasSubnet jobId subnet db' := by
  obtain ⟨job, hget, hsubnet⟩ := hjob
  have hupdate (id : DiscoveryJobId) (set : DiscoveryJob → DiscoveryJob)
      (hset : ∀ j, (set j).subnet = j.subnet) :
      ∃ job', (db.discoveryJobs.update id set).get? jobId = some job' ∧ job'.subnet = subnet := by
    rw [Table.get?_update, hget]
    split
    · exact ⟨set job, rfl, (hset job).trans hsubnet⟩
    · exact ⟨job, rfl, hsubnet⟩
  cases h with
  | common hchange =>
    cases hchange with
    | createDiscoveryJob j => exact ⟨job, Table.get?_insert_of_some hget, hsubnet⟩
    | setDiscoveryTask id task => exact hupdate id _ fun _ => rfl
    | _ => exact ⟨job, hget, hsubnet⟩
  | saveDiscoveryJob net id _ set hset => exact hupdate id set hset
  | _ => exact ⟨job, hget, hsubnet⟩

/-- The row of the job is there and is what the discovery that ended left. -/
def HasBooks (net : Network) (jobId : DiscoveryJobId) (inserted : List (DeviceId × Device))
    (db : Platform) : Prop :=
  ∃ job, db.discoveryJobs.get? jobId = some job ∧ Bookkept net job.subnet inserted job

/-- The other operations leave the books of a discovery. -/
theorem hasBooks_effect {o : Operation} {db db' : Platform} (h : Effect o db db') {net : Network}
    {jobId : DiscoveryJobId} {inserted : List (DeviceId × Device)}
    (hother : ∀ net', o ≠ .runDiscovery net' jobId) (hbooks : HasBooks net jobId inserted db) :
    HasBooks net jobId inserted db' := by
  obtain ⟨job, hget, hjob⟩ := hbooks
  cases h with
  | common hchange =>
    cases hchange with
    | createDiscoveryJob j => exact ⟨job, Table.get?_insert_of_some hget, hjob⟩
    | setDiscoveryTask id task =>
      unfold HasBooks
      rw [Table.get?_update, hget]
      split
      · exact ⟨_, rfl, hjob.status, hjob.completedAt, hjob.devicesAdded, hjob.addedLe,
          hjob.foundLe, hjob.within⟩
      · exact ⟨job, rfl, hjob⟩
    | _ => exact ⟨job, hget, hjob⟩
  | saveDiscoveryJob net' id _ set hset =>
    have hid : jobId ≠ id := fun heq => hother net' (heq ▸ rfl)
    refine ⟨job, ?_, hjob⟩
    rw [Table.get?_update, if_neg hid]
    exact hget
  | _ => exact ⟨job, hget, hjob⟩

/-- A discovery leaves every device that is there. -/
theorem writes_keeps_devices (net : Network) (jobId : DiscoveryJobId) :
    (runDiscovery net jobId).Writes (fun db db' => ∀ id d, db.devices.get? id = some d →
      db'.devices.get? id = some d) := by
  have hrefl : Std.Refl (fun db db' : Platform => ∀ id d, db.devices.get? id = some d →
      db'.devices.get? id = some d) := ⟨fun _ _ _ h => h⟩
  refine writes_runDiscovery net jobId (fun set => ?_) (fun d => ?_)
  · exact writes_saveFields fun db id d h => h
  · exact writes_insertRow fun db id e h => Table.get?_insert_of_some h

theorem hasSubnet_of_loads {store : Platform} {operations : List Operation} {schedule : List ℕ}
    {i : ℕ} {jobId : DiscoveryJobId} {subnet : String}
    (h : Loads jobId subnet ((startAll store operations).history i schedule)) :
    HasSubnet jobId subnet ((startAll store operations).run schedule).store := by
  obtain ⟨db, job, hprefix, hjob, hsubnet⟩ := h
  have hmem : (db, db) ∈ (startAll store operations).history i schedule :=
    hprefix.subset (by simp)
  obtain ⟨done, later, rfl, hdb, -⟩ := Pool.mem_history hmem
  rw [Pool.run_append]
  refine Pool.invariant_run (Pool.writes_run (writes_startAll store operations) done)
    (fun _ _ _ heffect => hasSubnet_effect heffect) ?_ (i :: later)
  exact ⟨job, hdb ▸ hjob, hsubnet⟩

/-- The statement that ends a discovery leaves its books. -/
theorem hasBooks_of_ends {store : Platform} {operations : List Operation} {i : ℕ}
    {net : Network} {jobId : DiscoveryJobId}
    (hi : operations[i]? = some (.runDiscovery net jobId)) {done : List ℕ}
    (hends : ((startAll store operations).run done).Ends i)
    (hrow : ((startAll store operations).run (done ++ [i])).store.discoveryJobs.get? jobId ≠ none) :
    HasBooks net jobId
      (insertedDevices ((startAll store operations).history i (done ++ [i])))
      ((startAll store operations).run (done ++ [i])).store := by
  obtain ⟨job, hjob⟩ := Option.ne_none_iff_exists'.mp hrow
  obtain ⟨t, ht, -, halong⟩ := Pool.along_run (threads_startAll store hi)
    (along_runDiscovery net jobId) (done ++ [i])
  obtain ⟨u, hu, hstmt, hend⟩ := hends
  have hlast : t.rest.isStmt = false := by
    rw [Pool.run_append, Pool.run_cons, Pool.run_nil, Pool.threads_step_self hu hstmt] at ht
    obtain rfl := Option.some.inj ht
    exact hend
  obtain ⟨-, -, g, db, db', hhistory, hclose⟩ := halong.done hlast
  rw [List.nil_append] at hhistory hclose
  have hdb' : db' = ((startAll store operations).run (done ++ [i])).store := by
    have hmove := Pool.history_of_ends ⟨u, hu, hstmt, hend⟩ []
    rw [Pool.history_append, hmove] at hhistory
    have hpair := (List.append_inj' hhistory rfl).2
    rw [Pool.run_append]
    exact (Prod.mk.inj (List.cons.inj hpair).1).2.symm
  obtain ⟨subnet, hload, hbooks⟩ := hclose job (hdb' ▸ hjob)
  obtain ⟨job', hjob', hsubnet⟩ := hasSubnet_of_loads hload
  obtain rfl := Option.some.inj (hjob.symm.trans hjob')
  exact ⟨job, hjob, hsubnet ▸ hbooks⟩

/-- In every run of requests and tasks no two devices share an address. A discovery changes
and deletes no device, and inserts devices at addresses of its subnet only; once it has ended,
its row holds the outcome and the counts of its insertions, as long as no further execution
of the same job changes the row. -/
theorem runDiscovery_bookkeeping (store : Platform) (hunique : UniqueAddresses store)
    (operations : List Operation) (schedule : List ℕ) :
    UniqueAddresses ((startAll store operations).run schedule).store ∧
    ∀ i net jobId, operations[i]? = some (.runDiscovery net jobId) →
      (∀ p ∈ (startAll store operations).history i schedule, ∀ id d,
        p.1.devices.get? id = some d → p.2.devices.get? id = some d) ∧
      (∀ r ∈ insertedDevices ((startAll store operations).history i schedule),
        ∃ job, ((startAll store operations).run schedule).store.discoveryJobs.get? jobId =
          some job ∧ r.2.ipAddress ∈ subnetHosts net job.subnet) ∧
      ∀ done rest, schedule = done ++ i :: rest → ((startAll store operations).run done).Ends i →
        ((startAll store operations).run (done ++ [i])).store.discoveryJobs.get? jobId ≠ none →
        (∀ k ∈ rest, k ≠ i → ∀ net', operations[k]? ≠ some (.runDiscovery net' jobId)) →
        HasBooks net jobId (insertedDevices ((startAll store operations).history i schedule))
          ((startAll store operations).run schedule).store := by
  have hwrites := writes_startAll store operations
  refine ⟨Pool.invariant_run hwrites (fun _ _ _ h => uniqueAddresses_effect h) hunique schedule,
    fun i net jobId hi => ⟨?_, ?_, ?_⟩⟩
  · exact Pool.writes_history (threads_startAll store hi) (writes_keeps_devices net jobId) schedule
  · intro r hr
    obtain ⟨t, -, -, halong⟩ := Pool.along_run (threads_startAll store hi)
      (along_runDiscovery net jobId) schedule
    rw [List.nil_append] at halong
    obtain ⟨subnet, hload, hwithin⟩ := halong.now (fun _ _ h => h.1) r hr
    obtain ⟨job, hjob, hsubnet⟩ := hasSubnet_of_loads hload
    exact ⟨job, hjob, hsubnet ▸ hwithin⟩
  · rintro done rest rfl hends hrow hrest
    have hbooks := hasBooks_of_ends hi hends hrow
    rw [Pool.history_append, Pool.history_of_ends hends [], ← Pool.history_of_ends hends rest,
      ← Pool.history_append] at hbooks
    have hrun : (startAll store operations).run (done ++ i :: rest) =
        ((startAll store operations).run (done ++ [i])).run rest := by
      rw [List.append_cons, Pool.run_append]
    rw [hrun]
    refine Pool.invariant_run_of_mem (Pool.writes_run hwrites (done ++ [i])) rest
      (fun k hk t ht => ?_) hbooks
    by_cases hki : k = i
    · obtain ⟨u, hu, hstmt, hend⟩ := hends
      rw [hki, Pool.run_append, Pool.run_cons, Pool.run_nil, Pool.threads_step_self hu hstmt] at ht
      obtain rfl := Option.some.inj ht
      exact .inl hend
    · have hname := operation_of_thread (done ++ [i]) ht
      exact .inr fun db db' heffect => hasBooks_effect heffect fun net' hrun =>
        hrest k hk hki net' (hrun ▸ hname)

/-! ### Two discoveries of overlapping subnets -/

/-- Two subnets with a host in common; every host answers, and has a reverse name. -/
def labNetwork : Network where
  ping _ := .exit 0
  pingFallback _ := .exit 1
  getCmd _ _ := .error ⟨.other, "cannot import name 'getCmd' from 'pysnmp.hlapi'"⟩
  gethostbyaddr ip := .ok ("host-" ++ ip)
  hosts subnet := .ok
    (if subnet = "10.0.0.4/30" then [labAddress 5, labAddress 6] else [labAddress 6, labAddress 7])
  clock n := n
  snmpCommunity := "public"

/-- A platform without devices, and a job for each of the subnets. -/
def labDiscoveries : Platform :=
  { lab with
    devices := .empty
    discoveryJobs := (Table.empty.insert { subnet := "10.0.0.4/30", createdAt := 0 }).insert
      { subnet := "10.0.0.6/31", createdAt := 0 } }

/-- The two discoveries, and a request for a device at the last address. -/
def labOperations : List Operation :=
  [.runDiscovery labNetwork 1, .runDiscovery labNetwork 2,
    .createDevice (some 1) 0 { hostname := some "core", ipAddress := some "10.0.0.7" }]

/-- The second discovery adds the common host before the first one looks for it, and has looked
for the last host when the request adds that. -/
def labSchedule : List ℕ := [0, 1, 0, 1, 1, 0, 0, 1, 0, 1, 2, 2, 2, 1, 0, 1]

theorem runDiscovery_bookkeeping_of_lab :
    UniqueAddresses ((startAll labDiscoveries labOperations).run labSchedule).store ∧
    HasBooks labNetwork 1
      (insertedDevices ((startAll labDiscoveries labOperations).history 0 labSchedule))
      ((startAll labDiscoveries labOperations).run labSchedule).store ∧
    HasBooks labNetwork 2
      (insertedDevices ((startAll labDiscoveries labOperations).history 1 labSchedule))
      ((startAll labDiscoveries labOperations).run labSchedule).store := by
  have hunique : UniqueAddresses labDiscoveries := fun id id' d d' h => by
    simp [labDiscoveries] at h
  obtain ⟨haddresses, hdiscovery⟩ :=
    runDiscovery_bookkeeping labDiscoveries hunique labOperations labSchedule
  refine ⟨haddresses, ?_, ?_⟩
  · refine (hdiscovery 0 labNetwork 1 rfl).2.2 (labSchedule.take 14) [1] rfl (by decide +kernel)
      (Option.isSome_iff_ne_none.mp (by decide +kernel)) fun k hk _ net' heq => ?_
    obtain rfl := List.mem_singleton.mp hk
    cases heq
  · exact (hdiscovery 1 labNetwork 2 rfl).2.2 (labSchedule.take 15) [] rfl (by decide +kernel)
      (Option.isSome_iff_ne_none.mp (by decide +kernel)) (by simp)

/-- The first discovery skips the common host, the second one fails at the last. -/
example : ((startAll labDiscoveries labOperations).run labSchedule).store.discoveryJobs.rows.map
    (fun r => (r.2.status, r.2.devicesFound, r.2.devicesAdded)) =
      [(.completed, 2, 1), (.failed, 2, 1)] ∧
    ((startAll labDiscoveries labOperations).run labSchedule).store.devices.rows.map
      (fun r => r.2.hostname) = ["host-10.0.0.5", "host-10.0.0.6", "core"] := by
  decide +kernel

end DevSecOpsPlatform.DiscoveryBookkeeping
