import DevSecOpsPlatform.InventoryTasks

/-!
# When a discovery is complete

One `try` block surrounds the whole loop of `run_discovery`. A discovery completes, with every
host that answered in the inventory, exactly when no ping raises and every host that is new
can be added: its name is resolved without an exception other than `herror`, fits its column,
and is the name of no device that is there and of no other new host.
-/

namespace DevSecOpsPlatform.DiscoveryCompleteness

open KeyedTables StatementPrograms PlatformModels PlatformStore PythonValues IpAddresses
open InventoryTasks

/-- The name that discovery gives a host, when the reverse lookup does not raise. -/
def nameOf (net : Network) (host : IpAddress) : String :=
  chooseHostname (snmpGetHostname net host.text net.snmpCommunity)
    ((resolveHostname net host.text).toOption.getD "") host.text

/-- The host answers the ping and no device has its address. -/
def IsNew (net : Network) (db : Platform) (host : IpAddress) : Prop :=
  ping net host.text = .ok true ∧ ∀ id d, db.devices.get? id = some d → d.ipAddress ≠ host

/-- The database takes the text into a column of the length. -/
def FitsColumn (maxLength : ℕ) (s : String) : Prop :=
  s.toList.any Json.isNul = false ∧ s.length ≤ maxLength

instance (maxLength : ℕ) (s : String) : Decidable (FitsColumn maxLength s) :=
  inferInstanceAs (Decidable (s.toList.any Json.isNul = false ∧ s.length ≤ maxLength))

/-- The answers of the network let every new host be added. -/
structure Addable (net : Network) (db : Platform) (hosts : List IpAddress) : Prop where
  pings : ∀ host ∈ hosts, ∃ alive, ping net host.text = .ok alive
  resolves : ∀ host ∈ hosts, IsNew net db host → ∃ name, resolveHostname net host.text = .ok name
  fits : ∀ host ∈ hosts, IsNew net db host →
    FitsColumn 255 (nameOf net host) ∧ FitsColumn 64 net.snmpCommunity
  free : ∀ host ∈ hosts, IsNew net db host → ∀ id d, db.devices.get? id = some d →
    d.hostname ≠ nameOf net host
  distinct : ∀ host ∈ hosts, ∀ host' ∈ hosts, IsNew net db host → IsNew net db host' →
    nameOf net host = nameOf net host' → host = host'

/-- The address has its device. -/
def InInventory (db : Platform) (host : IpAddress) : Prop :=
  ∃ id d, db.devices.get? id = some d ∧ d.ipAddress = host

/-- The job is completed and every host that answered is in the inventory. -/
structure Complete (net : Network) (hosts : List IpAddress) (jobId : DiscoveryJobId)
    (db : Platform) : Prop where
  completed : ∃ job, db.discoveryJobs.get? jobId = some job ∧ job.status = .completed
  inventory : ∀ host ∈ hosts, ping net host.text = .ok true → InInventory db host

variable {net : Network} {db : Platform} {host : IpAddress} {hosts : List IpAddress}

/-! ### The first host -/

theorem addable_nil : Addable net db [] := by
  constructor <;> intro host hmem <;> cases hmem

/-- A host that is not new makes no difference. -/
theorem addable_cons_of_not_new {alive : Bool} (hping : ping net host.text = .ok alive)
    (h : ¬ IsNew net db host) : Addable net db (host :: hosts) ↔ Addable net db hosts := by
  have htail (x : IpAddress) (hx : x ∈ host :: hosts) (hnew : IsNew net db x) : x ∈ hosts := by
    rcases List.mem_cons.mp hx with rfl | hx
    · exact absurd hnew h
    · exact hx
  have hcons (x : IpAddress) (hx : x ∈ hosts) : x ∈ host :: hosts := List.mem_cons_of_mem _ hx
  constructor
  · intro hall
    exact ⟨fun x hx => hall.pings x (hcons x hx), fun x hx => hall.resolves x (hcons x hx),
      fun x hx => hall.fits x (hcons x hx), fun x hx => hall.free x (hcons x hx),
      fun x hx y hy => hall.distinct x (hcons x hx) y (hcons y hy)⟩
  · intro hall
    refine ⟨fun x hx => ?_, fun x hx hnew => hall.resolves x (htail x hx hnew) hnew,
      fun x hx hnew => hall.fits x (htail x hx hnew) hnew,
      fun x hx hnew => hall.free x (htail x hx hnew) hnew,
      fun x hx y hy hnew hnew' => hall.distinct x (htail x hx hnew) y (htail y hy hnew') hnew hnew'⟩
    rcases List.mem_cons.mp hx with rfl | hx
    · exact ⟨alive, hping⟩
    · exact hall.pings x hx

theorem isNew_insert {d : Device} (hd : d.ipAddress = host) (x : IpAddress) :
    IsNew net { db with devices := db.devices.insert d } x ↔ IsNew net db x ∧ x ≠ host := by
  constructor
  · rintro ⟨hping, hnone⟩
    refine ⟨⟨hping, fun id e he => hnone id e (Table.get?_insert_of_some he)⟩, ?_⟩
    rintro rfl
    exact hnone db.devices.nextId d (Table.get?_insert_nextId _ _) hd
  · rintro ⟨⟨hping, hnone⟩, hne⟩
    refine ⟨hping, fun id e he => ?_⟩
    rw [Table.get?_insert] at he
    split at he
    · obtain rfl := Option.some.inj he
      exact fun heq => hne (heq.symm.trans hd)
    · exact hnone id e he

/-- A new host can be added, and the others after it. -/
theorem addable_cons_of_new {d : Device} (hd : d.ipAddress = host)
    (hname : d.hostname = nameOf net host) (hnew : IsNew net db host) :
    Addable net db (host :: hosts) ↔
      (∃ name, resolveHostname net host.text = .ok name) ∧
        (FitsColumn 255 (nameOf net host) ∧ FitsColumn 64 net.snmpCommunity) ∧
        (∀ id e, db.devices.get? id = some e → e.hostname ≠ nameOf net host) ∧
        Addable net { db with devices := db.devices.insert d } hosts := by
  have hcons (x : IpAddress) (hx : x ∈ hosts) : x ∈ host :: hosts := List.mem_cons_of_mem _ hx
  have hself : host ∈ host :: hosts := List.mem_cons_self
  constructor
  · intro hall
    refine ⟨hall.resolves host hself hnew, hall.fits host hself hnew, hall.free host hself hnew, ?_⟩
    constructor
    · exact fun x hx => hall.pings x (hcons x hx)
    · exact fun x hx hx' => hall.resolves x (hcons x hx) ((isNew_insert hd x).mp hx').1
    · exact fun x hx hx' => hall.fits x (hcons x hx) ((isNew_insert hd x).mp hx').1
    · intro x hx hx' id e he
      obtain ⟨hxnew, hne⟩ := (isNew_insert hd x).mp hx'
      rw [Table.get?_insert] at he
      split at he
      · obtain rfl := Option.some.inj he
        rw [hname]
        exact fun heq => hne (hall.distinct host hself x (hcons x hx) hnew hxnew heq).symm
      · exact hall.free x (hcons x hx) hxnew id e he
    · intro x hx y hy hx' hy'
      exact hall.distinct x (hcons x hx) y (hcons y hy) ((isNew_insert hd x).mp hx').1
        ((isNew_insert hd y).mp hy').1
  · rintro ⟨hresolves, hfits, hfree, hall⟩
    have hcases (x : IpAddress) (hx : x ∈ host :: hosts) (hx' : IsNew net db x) :
        x = host ∨ (x ∈ hosts ∧
          IsNew net { db with devices := db.devices.insert d } x) := by
      by_cases heq : x = host
      · exact .inl heq
      · exact .inr ⟨(List.mem_cons.mp hx).resolve_left heq, (isNew_insert hd x).mpr ⟨hx', heq⟩⟩
    have hother (x : IpAddress) (hx : x ∈ hosts)
        (hx' : IsNew net { db with devices := db.devices.insert d } x) :
        nameOf net host ≠ nameOf net x := by
      rw [← hname]
      exact hall.free x hx hx' db.devices.nextId d (Table.get?_insert_nextId _ _)
    constructor
    · intro x hx
      rcases List.mem_cons.mp hx with rfl | hx
      · exact ⟨true, hnew.1⟩
      · exact hall.pings x hx
    · intro x hx hx'
      rcases hcases x hx hx' with rfl | ⟨hmem, hin⟩
      · exact hresolves
      · exact hall.resolves x hmem hin
    · intro x hx hx'
      rcases hcases x hx hx' with rfl | ⟨hmem, hin⟩
      · exact hfits
      · exact hall.fits x hmem hin
    · intro x hx hx' id e he
      rcases hcases x hx hx' with rfl | ⟨hmem, hin⟩
      · exact hfree id e he
      · exact hall.free x hmem hin id e (Table.get?_insert_of_some he)
    · intro x hx y hy hx' hy' heq
      rcases hcases x hx hx' with rfl | ⟨hmem, hin⟩ <;>
        rcases hcases y hy hy' with rfl | ⟨hmem', hin'⟩
      · rfl
      · exact absurd heq (hother y hmem' hin')
      · exact absurd heq.symm (hother x hmem hin)
      · exact hall.distinct x hmem y hmem' hin hin' heq

/-! ### The loop -/

theorem deviceUnique_none_iff {d : Device} :
    deviceUnique db none d = true ↔
      ∀ id e, db.devices.get? id = some e →
        e.hostname ≠ d.hostname ∧ e.ipAddress ≠ d.ipAddress := by
  rw [deviceUnique, List.isEmpty_iff, Table.select_eq_nil]
  simp

/-- A device at a new address is added when its texts fit and its name is free. -/
theorem run_create (d : Device) (hactor : d.createdBy = none) (htags : d.tags.hasNul = false)
    (haddress : ∀ id e, db.devices.get? id = some e → e.ipAddress ≠ d.ipAddress) :
    ((FitsColumn 255 d.hostname ∧ FitsColumn 64 d.snmpCommunity) ∧
        (∀ id e, db.devices.get? id = some e → e.hostname ≠ d.hostname) ∧
        (Device.create d).run db =
          (.ok db.devices.nextId, { db with devices := db.devices.insert d })) ∨
      (¬ ((FitsColumn 255 d.hostname ∧ FitsColumn 64 d.snmpCommunity) ∧
        ∀ id e, db.devices.get? id = some e → e.hostname ≠ d.hostname) ∧
        ∃ e, (Device.create d).run db = (.error e, db)) := by
  have hunique : deviceUnique db none d = true ↔
      ∀ id e, db.devices.get? id = some e → e.hostname ≠ d.hostname := by
    rw [deviceUnique_none_iff]
    exact ⟨fun h id e he => (h id e he).1, fun h id e he => ⟨h id e he, haddress id e he⟩⟩
  rw [← hunique, Device.create, insertRow, Program.run_statement, hactor]
  cases hname : d.hostname.toList.any Json.isNul with
  | true => exact .inr ⟨fun h => absurd (hname.symm.trans h.1.1.1) (by simp), _, rfl⟩
  | false =>
    cases hcommunity : d.snmpCommunity.toList.any Json.isNul with
    | true => exact .inr ⟨fun h => absurd (hcommunity.symm.trans h.1.2.1) (by simp), _, rfl⟩
    | false =>
      by_cases hlength : d.hostname.length ≤ 255 ∧ d.snmpCommunity.length ≤ 64
      · cases hfree : deviceUnique db none d with
        | true =>
          refine .inl ⟨⟨⟨hname, hlength.1⟩, hcommunity, hlength.2⟩, rfl, ?_⟩
          simp [hlength, htags]
        | false =>
          refine .inr ⟨fun h => (by cases h.2), uniqueError, ?_⟩
          simp [hlength, htags]
      · refine .inr ⟨fun h => hlength ⟨h.1.1.2, h.1.2.2⟩, tooLongError, ?_⟩
        simp [hlength, htags]

/-- How the loop ends: with all of its hosts worked off when the new ones can be added, and
with an exception otherwise. -/
structure Ends (net : Network) (hosts : List IpAddress) (db db' : Platform)
    (failure : Option Exn) : Prop where
  jobs : db'.discoveryJobs = db.discoveryJobs
  kept : ∀ id d, db.devices.get? id = some d → db'.devices.get? id = some d
  addable : failure = none ↔ Addable net db hosts
  inventory : failure = none → ∀ host ∈ hosts, ping net host.text = .ok true → InInventory db' host

/-- What the loop does about its first host before it goes on. -/
structure WorksOff (net : Network) (host : IpAddress) (hosts : List IpAddress)
    (db db₁ : Platform) : Prop where
  jobs : db₁.discoveryJobs = db.discoveryJobs
  kept : ∀ id d, db.devices.get? id = some d → db₁.devices.get? id = some d
  addable : Addable net db (host :: hosts) ↔ Addable net db₁ hosts
  inventory : ping net host.text = .ok true → InInventory db₁ host

/-- A host that is not new needs nothing. -/
theorem worksOff_of_not_new {alive : Bool} (hping : ping net host.text = .ok alive)
    (hold : ¬ IsNew net db host) (hhost : alive = true → InInventory db host) :
    WorksOff net host hosts db db where
  jobs := rfl
  kept _ _ h := h
  addable := addable_cons_of_not_new hping hold
  inventory halive := hhost (Except.ok.inj (hping.symm.trans halive))

/-- A host that cannot be worked off ends the loop. -/
theorem ends_of_failure {exc : Exn} (h : ¬ Addable net db hosts) :
    Ends net hosts db db (some exc) :=
  ⟨rfl, fun _ _ h => h, iff_of_false (by simp) h, fun hnone => (by cases hnone)⟩

/-- The rest of the loop, after a host that is worked off. -/
theorem ends_cons {db₁ db' : Platform} {failure : Option Exn}
    (hends : Ends net hosts db₁ db' failure) (hhost : WorksOff net host hosts db db₁) :
    Ends net (host :: hosts) db db' failure where
  jobs := hends.jobs.trans hhost.jobs
  kept id d h := hends.kept id d (hhost.kept id d h)
  addable := hends.addable.trans hhost.addable.symm
  inventory hnone x hx halive := by
    rcases List.mem_cons.mp hx with rfl | hx
    · obtain ⟨id, d, hget, haddress⟩ := hhost.inventory halive
      exact ⟨id, d, hends.kept id d hget, haddress⟩
    · exact hends.inventory hnone x hx halive

/-- The search for the devices at an address finds one when there is one. -/
theorem select_address_isEmpty (db : Platform) (host : IpAddress) :
    (db.devices.select (fun _ d => decide (d.ipAddress = host))).isEmpty = true ↔
      ¬ InInventory db host := by
  rw [List.isEmpty_iff, Table.select_eq_nil]
  constructor
  · rintro hnone ⟨id, d, hget, haddress⟩
    exact of_decide_eq_false (hnone id d hget) haddress
  · exact fun hnot id d hget => decide_eq_false fun haddress => hnot ⟨id, d, hget, haddress⟩

/-- The loop at its first host: it ends there, and the hosts cannot all be added, or it goes
on with the others. -/
theorem run_discoverHosts_cons (net : Network) (n : ℕ) (host : IpAddress)
    (hosts : List IpAddress) (acc : Discovered) (db : Platform) :
    (∃ acc' exc, (discoverHosts net n (host :: hosts) acc).run db = (.ok (acc', some exc), db) ∧
        ¬ Addable net db (host :: hosts)) ∨
      ∃ acc₁ db₁, (discoverHosts net n (host :: hosts) acc).run db =
          (discoverHosts net (n + 1) hosts acc₁).run db₁ ∧ WorksOff net host hosts db db₁ := by
  rw [discoverHosts]
  dsimp only
  cases hping : ping net host.text with
  | error exc =>
    refine .inl ⟨acc, exc, rfl, fun hall => ?_⟩
    obtain ⟨alive, halive⟩ := hall.pings host List.mem_cons_self
    rw [hping] at halive
    cases halive
  | ok alive =>
    cases alive with
    | false =>
      have hold : ¬ IsNew net db host := fun hnew => by simpa [hping] using hnew.1
      exact .inr ⟨acc, db, rfl, worksOff_of_not_new hping hold fun h => (by cases h)⟩
    | true =>
      rw [Program.query_bind, Program.run_stmt]
      dsimp only [id_eq]
      cases hknown : (db.devices.select (fun _ d => decide (d.ipAddress = host))).isEmpty with
      | false =>
        -- the address has its device
        have hin : InInventory db host := by
          by_contra hnot
          rw [(select_address_isEmpty db host).mpr hnot] at hknown
          cases hknown
        have hold : ¬ IsNew net db host := by
          obtain ⟨id, d, hget, haddress⟩ := hin
          exact fun hnew => hnew.2 id d hget haddress
        rw [Bool.not_false, if_pos rfl]
        exact .inr ⟨_, db, rfl, worksOff_of_not_new hping hold fun _ => hin⟩
      | true =>
        have hnone (id : DeviceId) (d : Device) (hget : db.devices.get? id = some d) :
            d.ipAddress ≠ host :=
          fun haddress => (select_address_isEmpty db host).mp hknown ⟨id, d, hget, haddress⟩
        have hnew : IsNew net db host := ⟨hping, hnone⟩
        rw [Bool.not_true, if_neg Bool.false_ne_true]
        cases hresolve : resolveHostname net host.text with
        | error exc =>
          refine .inl ⟨_, exc, rfl, fun hall => ?_⟩
          obtain ⟨name, hname⟩ := hall.resolves host List.mem_cons_self hnew
          rw [hresolve] at hname
          cases hname
        | ok dnsName =>
          have hname : nameOf net host = chooseHostname
              (snmpGetHostname net host.text net.snmpCommunity) dnsName host.text := by
            rw [nameOf, hresolve]
            rfl
          dsimp only
          rw [← hname]
          generalize hdevice : ({
            hostname := nameOf net host, ipAddress := host, status := .online
            discoveredAt := some (net.clock (n + 2)), snmpCommunity := net.snmpCommunity
            createdAt := net.clock (n + 2), updatedAt := net.clock (n + 2) } : Device) = d
          have hd : d.ipAddress = host := hdevice ▸ rfl
          have hdname : d.hostname = nameOf net host := hdevice ▸ rfl
          have hcommunity : d.snmpCommunity = net.snmpCommunity := hdevice ▸ rfl
          have hcons : Addable net db (host :: hosts) ↔ _ := addable_cons_of_new hd hdname hnew
          rw [Program.run_bind, Program.run_attempt]
          rcases run_create d (hdevice ▸ rfl) (hdevice ▸ rfl) (hd ▸ hnone) with
            ⟨hfits, hfree, hcreate⟩ | ⟨hnot, exc, hcreate⟩
          · rw [hcreate]
            rw [hdname, hcommunity] at hfits
            rw [hdname] at hfree
            refine .inr ⟨_, { db with devices := db.devices.insert d }, rfl, rfl,
              fun _ _ h => Table.get?_insert_of_some h, ?_, fun _ => ?_⟩
            · rw [hcons]
              exact ⟨fun h => h.2.2.2, fun h => ⟨⟨dnsName, hresolve⟩, hfits, hfree, h⟩⟩
            · exact ⟨db.devices.nextId, d, Table.get?_insert_nextId _ _, hd⟩
          · rw [hcreate]
            refine .inl ⟨_, exc, rfl, fun hall => hnot ?_⟩
            obtain ⟨-, hfits, hfree, -⟩ := hcons.mp hall
            rw [hdname, hcommunity]
            exact ⟨hfits, hfree⟩

/-- What the loop does. -/
theorem run_discoverHosts (net : Network) (n : ℕ) (hosts : List IpAddress) (acc : Discovered)
    (db : Platform) :
    ∃ acc' failure db', (discoverHosts net n hosts acc).run db = (.ok (acc', failure), db') ∧
      Ends net hosts db db' failure := by
  induction hosts generalizing n acc db with
  | nil =>
    exact ⟨acc, none, db, rfl, rfl, fun _ _ h => h, iff_of_true rfl addable_nil,
      fun _ x hx => (by cases hx)⟩
  | cons host hosts ih =>
    rcases run_discoverHosts_cons net n host hosts acc db with
      ⟨acc', exc, hrun, hnot⟩ | ⟨acc₁, db₁, hrun, hhost⟩
    · exact ⟨acc', some exc, db, hrun, ends_of_failure hnot⟩
    · obtain ⟨acc', failure, db', hrest, hends⟩ := ih (n + 1) acc₁ db₁
      exact ⟨acc', failure, db', hrun.trans hrest, ends_cons hends hhost⟩

/-! ### The task -/

theorem isNew_congr {db' : Platform} (h : db'.devices = db.devices) (x : IpAddress) :
    IsNew net db' x ↔ IsNew net db x := by
  rw [IsNew, IsNew, h]

theorem addable_congr {db' : Platform} (h : db'.devices = db.devices) :
    Addable net db' hosts ↔ Addable net db hosts := by
  have himp {db db' : Platform} (h : db'.devices = db.devices) (hall : Addable net db hosts) :
      Addable net db' hosts := by
    refine ⟨hall.pings, fun x hx hnew => ?_, fun x hx hnew => ?_, fun x hx hnew id d hget => ?_,
      fun x hx y hy hnew hnew' => ?_⟩
    · exact hall.resolves x hx ((isNew_congr h x).mp hnew)
    · exact hall.fits x hx ((isNew_congr h x).mp hnew)
    · exact hall.free x hx ((isNew_congr h x).mp hnew) id d (h ▸ hget)
    · exact hall.distinct x hx y hy ((isNew_congr h x).mp hnew) ((isNew_congr h y).mp hnew')
  exact ⟨himp h.symm, himp h⟩

/-- A discovery of a subnet whose hosts are known: the loop on the job that runs, and the
status that says how it ended. -/
theorem run_runDiscovery {jobId : DiscoveryJobId} {job : DiscoveryJob}
    (hjob : db.discoveryJobs.get? jobId = some job) (hhosts : net.hosts job.subnet = .ok hosts) :
    ∃ db₁ db₂ failure job', db₁.devices = db.devices ∧ Ends net hosts db₁ db₂ failure ∧
      ((runDiscovery net jobId).run db).2.devices = db₂.devices ∧
      ((runDiscovery net jobId).run db).2.discoveryJobs.get? jobId = some job' ∧
      (job'.status = .completed ↔ failure = none) := by
  have hsave (db : Platform) {j : DiscoveryJob} (hget : db.discoveryJobs.get? jobId = some j)
      {β : Type} (set : DiscoveryJob → DiscoveryJob) (f : Unit → Statement β) :
      (DiscoveryJob.save jobId set >>= f).run db =
        (f ()).run { db with discoveryJobs := db.discoveryJobs.update jobId set } := by
    rw [DiscoveryJob.save, saveFields, Program.run_statement_bind]
    simp only [hget]
  unfold runDiscovery
  rw [DiscoveryJob.get, Program.run_statement_bind]
  simp only [hjob]
  rw [hsave db hjob]
  generalize hrunning : ({ db with discoveryJobs := db.discoveryJobs.update jobId (fun j =>
    { j with status := .running, startedAt := some (net.clock 0) }) } : Platform) = db₁
  have hdevices : db₁.devices = db.devices := hrunning ▸ rfl
  have hrow : ∃ j, db₁.discoveryJobs.get? jobId = some j := by
    rw [← hrunning]
    exact ⟨_, by rw [Table.get?_update_self, hjob]; rfl⟩
  obtain ⟨j, hj⟩ := hrow
  rw [Program.run_bind, discoverSubnet]
  simp only [hhosts]
  obtain ⟨acc, failure, db₂, hrun, hends⟩ := run_discoverHosts net 0 hosts
    { logLines := ["[" ++ isoText (net.clock 1) ++ "] Starting discovery on " ++ job.subnet] } db₁
  rw [hrun]
  dsimp only
  have hj₂ : db₂.discoveryJobs.get? jobId = some j := by rw [hends.jobs, hj]
  cases failure with
  | none =>
    rw [hsave db₂ hj₂]
    exact ⟨db₁, db₂, none, _, hdevices, hends, rfl,
      (Table.get?_update_self _ _ _).trans (congrArg _ hj₂), iff_of_true rfl rfl⟩
  | some exc =>
    rw [hsave db₂ hj₂]
    exact ⟨db₁, db₂, some exc, _, hdevices, hends, rfl,
      (Table.get?_update_self _ _ _).trans (congrArg _ hj₂),
      iff_of_false (fun h => (by cases h)) (fun h => (by cases h))⟩

/-- A discovery that runs alone is complete exactly when every new host can be added. -/
theorem complete_runDiscovery_iff (net : Network) (db : Platform) (jobId : DiscoveryJobId)
    {job : DiscoveryJob} (hjob : db.discoveryJobs.get? jobId = some job)
    (hhosts : net.hosts job.subnet = .ok hosts) :
    Complete net hosts jobId ((runDiscovery net jobId).run db).2 ↔ Addable net db hosts := by
  obtain ⟨db₁, db₂, failure, job', hdevices, hends, hstore, hrow, hstatus⟩ :=
    run_runDiscovery hjob hhosts
  rw [← addable_congr hdevices, ← hends.addable]
  constructor
  · rintro ⟨⟨job, hget, hcompleted⟩, -⟩
    obtain rfl := Option.some.inj (hrow.symm.trans hget)
    exact hstatus.mp hcompleted
  · intro hnone
    refine ⟨⟨job', hrow, hstatus.mpr hnone⟩, fun host hhost halive => ?_⟩
    obtain ⟨id, d, hget, haddress⟩ := hends.inventory hnone host hhost halive
    exact ⟨id, d, by rw [hstore, hget], haddress⟩

/-- Two hosts with reverse names, and no SNMP. -/
def labNetwork (reverse : String → String) : Network where
  ping _ := .exit 0
  pingFallback _ := .exit 0
  getCmd _ _ := .error ⟨.other, "cannot import name 'getCmd' from 'pysnmp.hlapi'"⟩
  gethostbyaddr ip := .ok (reverse ip)
  hosts _ := .ok labHosts
  clock _ := 1
  snmpCommunity := "public"

def labDiscovery : Platform := { lab with
  discoveryJobs := Table.empty.insert {
    subnet := "10.0.0.4/30", initiatedBy := some 1, status := .pending, createdAt := 0 } }

theorem hosts_labNetwork (reverse : String → String) :
    (labNetwork reverse).hosts "10.0.0.4/30" = .ok labHosts := rfl

/-- Hosts with names of their own are all added. -/
theorem complete_of_labNetwork :
    Complete (labNetwork (fun ip => "sw-" ++ ip)) labHosts 1
      ((runDiscovery (labNetwork (fun ip => "sw-" ++ ip)) 1).run labDiscovery).2 := by
  have hname : nameOf (labNetwork (fun ip => "sw-" ++ ip)) (.v4 ⟨[10, 0, 0, 5], rfl⟩) =
      "sw-10.0.0.5" := by decide +kernel
  have hname' : nameOf (labNetwork (fun ip => "sw-" ++ ip)) (.v4 ⟨[10, 0, 0, 6], rfl⟩) =
      "sw-10.0.0.6" := by decide +kernel
  have hcases (x : IpAddress) (hx : x ∈ labHosts) :
      x = .v4 ⟨[10, 0, 0, 5], rfl⟩ ∨ x = .v4 ⟨[10, 0, 0, 6], rfl⟩ := by simpa using hx
  refine (complete_runDiscovery_iff (labNetwork (fun ip => "sw-" ++ ip)) labDiscovery 1 rfl
    (hosts_labNetwork _)).mpr ⟨?_, ?_, ?_, ?_, ?_⟩
  · exact fun _ _ => ⟨true, rfl⟩
  · exact fun _ _ _ => ⟨_, rfl⟩
  · intro x hx _
    rcases hcases x hx with rfl | rfl
    · rw [hname]
      exact ⟨by decide +kernel, by decide +kernel⟩
    · rw [hname']
      exact ⟨by decide +kernel, by decide +kernel⟩
  · intro x hx _ id d hget
    have hdevice := List.mem_singleton.mp ((Table.mem_rows_iff _ _ _).mpr hget)
    obtain ⟨-, rfl⟩ : id = 1 ∧ d = labDevice := Prod.mk.inj hdevice
    rcases hcases x hx with rfl | rfl
    · rw [hname]
      decide
    · rw [hname']
      decide
  · intro x hx y hy _ _ heq
    rcases hcases x hx with rfl | rfl <;> rcases hcases y hy with rfl | rfl
    · rfl
    · rw [hname, hname'] at heq
      exact absurd heq (by decide)
    · rw [hname, hname'] at heq
      exact absurd heq (by decide)
    · rfl

/-- Two interfaces of one router, with one reverse name: the second is not added, and the job
fails. -/
theorem not_complete_of_equal_names :
    ¬ Complete (labNetwork (fun _ => "core1.example.net")) labHosts 1
      ((runDiscovery (labNetwork (fun _ => "core1.example.net")) 1).run labDiscovery).2 := by
  rintro ⟨⟨job, hget, hstatus⟩, -⟩
  have hfailed : (((runDiscovery (labNetwork (fun _ => "core1.example.net")) 1).run
      labDiscovery).2.discoveryJobs.get? 1).map (·.status) = some .failed := by decide +kernel
  rw [hget, Option.map_some, hstatus] at hfailed
  exact absurd (Option.some.inj hfailed) (by decide)

end DevSecOpsPlatform.DiscoveryCompleteness
