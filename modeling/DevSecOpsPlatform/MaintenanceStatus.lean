import DevSecOpsPlatform.BackgroundWrites

/-!
# How a device leaves maintenance

The status of a device is written by people, through the endpoints, and by
`check_device_reachability`, which `refresh_all_device_status` queues for every device. The
check looks at no status before it writes its own. In every run a device that is in
maintenance stays there until a request that saves or deletes it, or a check of it, takes
effect; nothing else ends it.
-/

namespace DevSecOpsPlatform.MaintenanceStatus

open GuardedRuns KeyedTables StatementPrograms PlatformModels PlatformStore InventoryTasks
open InventoryViews ProgramInterleaving PlatformOperations OperationStatements PlatformChanges
open BackgroundWrites PythonValues

def InMaintenance (id : DeviceId) (db : Platform) : Prop :=
  ∃ d, db.devices.get? id = some d ∧ d.status = .maintenance

/-- A PUT, PATCH or DELETE request of the device. -/
def RequestsDevice (id : DeviceId) : Operation → Prop
  | .updateDevice _ _ _ id' _ => id' = id
  | .destroyDevice _ id' => id' = id
  | _ => False

def ChecksDevice (id : DeviceId) : Operation → Prop
  | .checkDeviceReachability _ id' => id' = id
  | _ => False

/-- All that may differ is the status of the device, which is now online or offline. -/
def OnlyStatus (id : DeviceId) (db db' : Platform) : Prop :=
  db' = db ∨ ∃ status, (status = .online ∨ status = .offline) ∧
    db' = { db with devices := db.devices.update id (fun d => { d with status := status }) }

instance (id : DeviceId) : Std.Refl (OnlyStatus id) := ⟨fun _ => .inl rfl⟩

/-! ### Steps -/

theorem InMaintenance.of_get? {id : DeviceId} {db db' : Platform} (h : InMaintenance id db)
    (hget : db'.devices.get? id = db.devices.get? id) : InMaintenance id db' := by
  obtain ⟨d, hd, hstatus⟩ := h
  exact ⟨d, hget.trans hd, hstatus⟩

/-- What a particular statement does to another device is nothing. -/
theorem get?_of_does {id : DeviceId} {s : Particular} {db db' : Platform} (h : Does s db db')
    (hsave : s ≠ .saveDevice id) (hstatus : s ≠ .setDeviceStatus id)
    (hdelete : s ≠ .deleteDevice id) : db'.devices.get? id = db.devices.get? id := by
  cases h with
  | saveDevice _ k d hunique =>
    have hne : id ≠ k := fun heq => hsave (heq ▸ rfl)
    exact Table.get?_store_of_ne _ _ hne
  | setDeviceStatus _ k status =>
    have hne : id ≠ k := fun heq => hstatus (heq ▸ rfl)
    exact (Table.get?_update ..).trans (if_neg hne)
  | deleteDevice _ k =>
    have hne : id ≠ k := fun heq => hdelete (heq ▸ rfl)
    refine (Table.get?_deleteWhere ..).trans ?_
    cases db.devices.get? id <;> simp [hne]
  | createDiscoveryJob _ j => rfl

/-- A statement that ends the maintenance of a device is of a request or a check of it. -/
theorem ends_of_own {o : Operation} {id : DeviceId} {db db' : Platform} (h : Own o db db')
    (hbefore : InMaintenance id db) (hafter : ¬ InMaintenance id db') :
    RequestsDevice id o ∨ ChecksDevice id o := by
  cases h with
  | quiet h =>
    obtain ⟨d, hd, hstatus⟩ := hbefore
    exact absurd ⟨d, h.devices id d hd, hstatus⟩ hafter
  | discovery net jobId ho hdevices =>
    exact absurd (hbefore.of_get? (by rw [hdevices])) hafter
  | particular s hs h =>
    have haddressed : s = .saveDevice id ∨ s = .setDeviceStatus id ∨ s = .deleteDevice id := by
      by_contra hnone
      simp only [not_or] at hnone
      exact hafter (hbefore.of_get? (get?_of_does h hnone.1 hnone.2.1 hnone.2.2))
    cases o with
    | updateDevice caller method now k data =>
      obtain rfl : Particular.saveDevice k = s := Option.some.inj hs
      exact .inl (by simpa [RequestsDevice] using haddressed)
    | destroyDevice caller k =>
      obtain rfl : Particular.deleteDevice k = s := Option.some.inj hs
      exact .inl (by simpa [RequestsDevice] using haddressed)
    | checkDeviceReachability net k =>
      obtain rfl : Particular.setDeviceStatus k = s := Option.some.inj hs
      exact .inr (by simpa [ChecksDevice] using haddressed)
    | createDiscoveryJob caller now subnet taskId =>
      obtain rfl : Particular.createDiscoveryJob = s := Option.some.inj hs
      simp at haddressed
    | _ => cases hs

/-- The check reads, and writes one status. -/
theorem writes_checkDeviceReachability (net : Network) (id : DeviceId) :
    (checkDeviceReachability net id).Writes (OnlyStatus id) := by
  refine Program.writes_statement_bind (fun db device db' hget => ⟨?_, ?_⟩)
  · split at hget
    · exact .inl (Prod.mk.inj (Except.ok.inj hget)).2.symm
    · cases hget
  · refine (Program.writes_ofExcept _).bind fun reachable => ?_
    refine Program.Writes.bind (Program.writes_execute fun db => .inr ⟨_, ?_, rfl⟩) fun _ => trivial
    cases reachable with
    | true => exact .inl rfl
    | false => exact .inr rfl

/-! ### Runs -/

theorem onlyStatus_step (store : Platform) {operations : List Operation} {k : ℕ} {o : Operation}
    {id : DeviceId} (ho : operations[k]? = some o) (hchecks : ChecksDevice id o)
    (done : List ℕ) :
    OnlyStatus id ((startAll store operations).run done).store
      (((startAll store operations).run done).step k).store := by
  cases o with
  | checkDeviceReachability net k' =>
    obtain rfl : k' = id := hchecks
    have hwrites := writes_checkDeviceReachability net k'
    rcases ((startAll store operations).run done).move_cases k with ⟨hs, -⟩ | hone
    · rw [hs]
      exact refl _
    · refine Pool.writes_history (threads_startAll store ho) hwrites (done ++ [k])
        (((startAll store operations).run done).store, _) ?_
      rw [Pool.history_concat, if_pos rfl, hone]
      simp
  | _ => cases hchecks

/-- A device in maintenance stays there in every run, until a step of a request or a check of
it is the first to end that; and a check changes only the status of the device it checks. -/
theorem maintenance_runs (store : Platform) (operations : List Operation) :
    (∀ (done later : List ℕ) (id : DeviceId),
      InMaintenance id ((startAll store operations).run done).store →
      InMaintenance id ((startAll store operations).run (done ++ later)).store ∨
        ∃ before k after o, later = before ++ k :: after ∧ operations[k]? = some o ∧
          (RequestsDevice id o ∨ ChecksDevice id o) ∧
          (∀ bs, bs <+: before →
            InMaintenance id ((startAll store operations).run (done ++ bs)).store) ∧
          ¬ InMaintenance id ((startAll store operations).run (done ++ before ++ [k])).store) ∧
    ∀ (done : List ℕ) (k : ℕ) (o : Operation) (id : DeviceId), operations[k]? = some o →
      ChecksDevice id o → OnlyStatus id ((startAll store operations).run done).store
        (((startAll store operations).run done).step k).store := by
  refine ⟨fun done later id h => ?_, fun done k o id ho hchecks =>
    onlyStatus_step store ho hchecks done⟩
  have hruns : InMaintenance id (((startAll store operations).run done).run later).store ∨
      ∃ before k after, later = before ++ k :: after ∧
        (∀ bs, bs <+: before →
          InMaintenance id (((startAll store operations).run done).run bs).store) ∧
        ¬ InMaintenance id ((((startAll store operations).run done).run before).step k).store :=
    invariant_or_first
      (I := fun c : Pool Operation Platform Exn Json => InMaintenance id c.store) h later
  rcases hruns with hend | ⟨before, k, after, hlater, hbefore, hk⟩
  · rw [Pool.run_append]
    exact .inl hend
  · have hstep : (startAll store operations).run (done ++ before ++ [k]) =
        ((startAll store operations).run (done ++ before)).step k := Pool.run_append _ _ _
    have hlast : InMaintenance id ((startAll store operations).run (done ++ before)).store := by
      rw [Pool.run_append]
      exact hbefore before (List.prefix_refl before)
    have hends : ¬ InMaintenance id
        (((startAll store operations).run (done ++ before)).step k).store := by
      rw [Pool.run_append]
      exact hk
    rcases step_writes writes_own store operations (done ++ before) k with hs | ⟨o, ho, hown⟩
    · exact absurd (hs ▸ hlast) hends
    · refine .inr ⟨before, k, after, o, hlater, ho, ends_of_own hown hlast hends,
        fun bs hbs => ?_, hstep ▸ hends⟩
      rw [Pool.run_append]
      exact hbefore bs hbs

/-! ### The device of the lab -/

/-- The platform whose device is in maintenance, with another one. -/
def labMaintenance : Platform :=
  { lab with
    devices := (Table.empty.insert { labDevice with status := .maintenance }).insert
      { labDevice with hostname := "r2", ipAddress := labAddress 2 } }

theorem inMaintenance_lab : InMaintenance 1 labMaintenance := ⟨_, rfl, rfl⟩

/-- The refresh and a check of the other device leave it there. -/
theorem maintenance_runs_of_other_check :
    InMaintenance 1 ((startAll labMaintenance [.refreshAllDeviceStatus fun n => toString n,
      .checkDeviceReachability silent 2]).run [0, 1, 0, 1, 0]).store := by
  have hruns := (maintenance_runs labMaintenance [.refreshAllDeviceStatus fun n => toString n,
    .checkDeviceReachability silent 2]).1 [] [0, 1, 0, 1, 0] 1 inMaintenance_lab
  refine hruns.resolve_right ?_
  rintro ⟨before, k, after, o, -, ho, haddressed, -⟩
  have hmem := List.mem_of_getElem? ho
  simp only [List.mem_cons, List.not_mem_nil, or_false] at hmem
  rcases hmem with rfl | rfl
  · exact haddressed.elim id id
  · exact haddressed.elim id (fun h : 2 = 1 => by cases h)

example : ((startAll labMaintenance [.refreshAllDeviceStatus fun n => toString n,
    .checkDeviceReachability silent 2]).run [0, 1, 0, 1, 0]).store.devices.rows.map
      (fun r => r.2.status) = [.maintenance, .offline] := by
  decide +kernel

/-- The check that the refresh queued takes the device out of maintenance. -/
theorem maintenance_ended_by_check :
    ¬ ∀ (store : Platform) (operations : List Operation) (schedule : List ℕ) (id : DeviceId),
      InMaintenance id store → (∀ o ∈ operations, ¬ RequestsDevice id o) →
      InMaintenance id ((startAll store operations).run schedule).store := by
  intro h
  obtain ⟨d, hd, hstatus⟩ := h labMaintenance [.refreshAllDeviceStatus fun n => toString n,
    .checkDeviceReachability silent 1] [0, 0, 1, 1] 1 inMaintenance_lab
    (by simp [RequestsDevice])
  have hoffline : ((startAll labMaintenance [.refreshAllDeviceStatus fun n => toString n,
      .checkDeviceReachability silent 1]).run [0, 0, 1, 1]).store.devices.get? 1 =
        some { labDevice with status := .offline } := rfl
  rw [hoffline] at hd
  obtain rfl := Option.some.inj hd
  cases hstatus

end DevSecOpsPlatform.MaintenanceStatus
