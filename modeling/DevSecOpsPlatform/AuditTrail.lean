import DevSecOpsPlatform.PlatformChanges

/-!
# The audit log over every interleaving

No statement of any request or task deletes an audit row or changes what it says, except
that deleting a device leaves its rows without one. `AuditStep` says so of one statement;
every effect of an operation is such a step, so a row found at one point of a run is there at
every later point.
-/

namespace DevSecOpsPlatform.AuditTrail

open KeyedTables StatementPrograms PlatformModels PlatformStore RolePermissions PythonValues
open ProgramInterleaving PlatformOperations PlatformChanges

/-- The two rows agree in all columns but the device. -/
structure SameEntry (a a' : AuditLog) : Prop where
  action : a'.action = a.action
  actor : a'.actor = a.actor
  detail : a'.detail = a.detail
  success : a'.success = a.success
  ipAddress : a'.ipAddress = a.ipAddress
  timestamp : a'.timestamp = a.timestamp

theorem SameEntry.refl (a : AuditLog) : SameEntry a a := ⟨rfl, rfl, rfl, rfl, rfl, rfl⟩

theorem SameEntry.trans {a b c : AuditLog} (h : SameEntry a b) (h' : SameEntry b c) :
    SameEntry a c :=
  ⟨h'.action.trans h.action, h'.actor.trans h.actor, h'.detail.trans h.detail,
    h'.success.trans h.success, h'.ipAddress.trans h.ipAddress, h'.timestamp.trans h.timestamp⟩

/-- The device of every entry is in the inventory. -/
def DevicesKnown (db : Platform) : Prop :=
  ∀ id a d, db.auditLogs.get? id = some a → a.device = some d → db.devices.get? d ≠ none

/-- What a statement does to the log: every row stays, with its device or, when that device
is not in the inventory any more, without one. -/
structure AuditStep (db db' : Platform) : Prop where
  kept : ∀ id a, db.auditLogs.get? id = some a → ∃ a', db'.auditLogs.get? id = some a' ∧
    SameEntry a a' ∧ (a'.device = a.device ∨
      a'.device = none ∧ ∃ d, a.device = some d ∧ db'.devices.get? d = none)
  known : DevicesKnown db → DevicesKnown db'

theorem auditStep_of_devices {db db' : Platform} (h : db'.auditLogs = db.auditLogs)
    (hd : ∀ d, db.devices.get? d ≠ none → db'.devices.get? d ≠ none) : AuditStep db db' where
  kept := fun _ a ha => ⟨a, h ▸ ha, .refl a, .inl rfl⟩
  known := fun hdb id a d ha had => hd d (hdb id a d (h ▸ ha) had)

theorem auditStep_of_eq {db db' : Platform}
    (h : (db'.auditLogs, db'.devices) = (db.auditLogs, db.devices)) : AuditStep db db' := by
  obtain ⟨hlog, hdevices⟩ := Prod.mk.inj h
  exact auditStep_of_devices hlog (fun d hd => hdevices ▸ hd)

instance : Std.Refl AuditStep := ⟨fun _ => auditStep_of_eq rfl⟩

/-! ### Effects -/

theorem auditStep_createLog {db : Platform} {a : AuditLog}
    (hdevice : refersToOrNull db.devices a.device = true) :
    AuditStep db { db with auditLogs := db.auditLogs.insert a } where
  kept := fun _ b hb => ⟨b, Table.get?_insert_of_some hb, .refl b, .inl rfl⟩
  known := by
    intro hdb id b d hb hbd
    rw [Table.get?_insert] at hb
    split at hb
    · obtain rfl := Option.some.inj hb
      rw [hbd, refersToOrNull_some, refersTo] at hdevice
      exact Option.isSome_iff_ne_none.mp hdevice
    · exact hdb id b d hb hbd

theorem auditStep_createDevice (db : Platform) (d : Device) :
    AuditStep db { db with devices := db.devices.insert d } := by
  refine auditStep_of_devices rfl (fun k hk => ?_)
  obtain ⟨e, he⟩ := Option.ne_none_iff_exists'.mp hk
  simp [Table.get?_insert_of_some he]

theorem auditStep_saveDevice (db : Platform) (id : DeviceId) (d : Device) :
    AuditStep db { db with devices := db.devices.store id d } := by
  refine auditStep_of_devices rfl (fun k hk => ?_)
  dsimp only [Table.store]
  cases hid : db.devices.get? id with
  | some old => simpa [Table.update] using hk
  | none =>
    have hne : k ≠ id := fun h => hk (h ▸ hid)
    simpa [Table.get?_put_of_ne _ _ hne] using hk

theorem auditStep_setDeviceStatus (db : Platform) (id : DeviceId) (status : DeviceStatus) :
    AuditStep db { db with
      devices := db.devices.update id (fun d => { d with status := status }) } := by
  refine auditStep_of_devices rfl (fun d hd => ?_)
  simpa [Table.update] using hd

theorem auditStep_cascade (id : DeviceId) (db : Platform) :
    AuditStep db (Device.cascade id db) := by
  have hget (k : ℕ) : (Device.cascade id db).auditLogs.get? k =
      (db.auditLogs.get? k).map
        (fun a => if a.device == some id then { a with device := none } else a) :=
    Table.get?_updateWhere ..
  have hdevice (d : DeviceId) (hd : d ≠ id) :
      (Device.cascade id db).devices.get? d = db.devices.get? d := by
    cases h : db.devices.get? d <;> simp [Device.cascade, Table.delete, h, beq_false_of_ne hd]
  have hgone : (Device.cascade id db).devices.get? id = none := by
    simp [Device.cascade, Table.delete]
  constructor
  · intro k a ha
    rw [hget, ha]
    by_cases hd : a.device = some id
    · refine ⟨{ a with device := none }, ?_, ⟨rfl, rfl, rfl, rfl, rfl, rfl⟩,
        .inr ⟨rfl, id, hd, hgone⟩⟩
      simp [hd]
    · refine ⟨a, ?_, .refl a, .inl rfl⟩
      simp [hd]
  · intro hdb k a d ha had
    obtain ⟨b, hb, rfl⟩ := Option.map_eq_some_iff.mp ((hget k).symm.trans ha)
    by_cases hd : b.device = some id
    · simp [hd] at had
    · simp only [beq_eq_false_iff_ne.mpr hd, Bool.false_eq_true, if_false] at had
      rw [hdevice d (fun h => hd (h ▸ had))]
      exact hdb k b d hb had

theorem auditStep_of_change {db db' : Platform} (h : Change db db') : AuditStep db db' := by
  cases h with
  | createDevice d => exact auditStep_createDevice db d
  | saveDevice id d => exact auditStep_saveDevice db id d
  | setDeviceStatus id status => exact auditStep_setDeviceStatus db id status
  | deleteDevice id => exact auditStep_cascade id db
  | createLog a hdevice => exact auditStep_createLog hdevice
  | _ => exact auditStep_of_eq rfl

/-- Every effect of an operation keeps the log. -/
theorem auditStep_of_effect {o : Operation} {db db' : Platform} (h : Effect o db db') :
    AuditStep db db' := by
  cases h with
  | common hchange => exact auditStep_of_change hchange
  | _ => exact auditStep_of_eq rfl

/-! ### Runs -/

theorem writes_audit (store : Platform) (operations : List Operation) :
    ∀ t ∈ (startAll store operations).threads, t.rest.Writes AuditStep :=
  fun t ht => (writes_startAll store operations t ht).mono fun _ _ => auditStep_of_effect

/-- At some point of the schedule the device is not in the inventory. -/
def GoneWithin (c : Pool Operation Platform Exn Json) (schedule : List ℕ) (d : DeviceId) : Prop :=
  ∃ k, (c.run (schedule.take k)).store.devices.get? d = none

theorem goneWithin_cons {c : Pool Operation Platform Exn Json} {i : ℕ} {schedule : List ℕ}
    {d : DeviceId} :
    GoneWithin c (i :: schedule) d ↔
      c.store.devices.get? d = none ∨ GoneWithin (c.step i) schedule d := by
  constructor
  · rintro ⟨k, hk⟩
    cases k with
    | zero => exact .inl hk
    | succ k => exact .inr ⟨k, hk⟩
  · rintro (h | ⟨k, hk⟩)
    · exact ⟨0, h⟩
    · exact ⟨k + 1, hk⟩

/-- What became of the entry `a`: it says the same, without its device exactly when the
device was deleted. -/
structure Kept (c : Pool Operation Platform Exn Json) (schedule : List ℕ) (a a' : AuditLog) :
    Prop where
  same : SameEntry a a'
  device : (∀ d, a.device = some d → ¬ GoneWithin c schedule d) → a'.device = a.device
  deviceGone : ∀ d, a.device = some d → GoneWithin c schedule d → a'.device = none

theorem kept_of_run {c : Pool Operation Platform Exn Json}
    (hthreads : ∀ t ∈ c.threads, t.rest.Writes AuditStep) (hknown : DevicesKnown c.store)
    {id : ℕ} {a : AuditLog} (ha : c.store.auditLogs.get? id = some a) (schedule : List ℕ) :
    ∃ a', (c.run schedule).store.auditLogs.get? id = some a' ∧ Kept c schedule a a' := by
  induction schedule generalizing c a with
  | nil =>
    refine ⟨a, ha, .refl a, fun _ => rfl, fun d hd hgone => ?_⟩
    obtain ⟨k, hk⟩ := hgone
    rw [List.take_nil] at hk
    exact absurd hk (hknown id a d ha hd)
  | cons i schedule ih =>
    obtain ⟨hstep, hthreads'⟩ := Pool.writes_step hthreads i
    obtain ⟨b, hb, hab, hdevice⟩ := hstep.kept id a ha
    obtain ⟨a', ha', hkept⟩ := ih hthreads' (hstep.known hknown) hb
    refine ⟨a', ha', hab.trans hkept.same, fun hstay => ?_, fun d hd hgone => ?_⟩
    · have hb' : b.device = a.device := by
        rcases hdevice with h | ⟨-, d, hd, hgone⟩
        · exact h
        · exact absurd (goneWithin_cons.mpr (.inr ⟨0, hgone⟩)) (hstay d hd)
      rw [hkept.device (fun d hd h => hstay d (hb' ▸ hd) (goneWithin_cons.mpr (.inr h))), hb']
    · rcases hdevice with h | ⟨h, -⟩
      · rcases goneWithin_cons.mp hgone with hnow | hlater
        · exact absurd hnow (hknown id a d ha hd)
        · exact hkept.deviceGone d (h.trans hd) hlater
      · rw [hkept.device (fun d hd => by simp [h] at hd), h]

theorem known_of_run {c : Pool Operation Platform Exn Json}
    (hthreads : ∀ t ∈ c.threads, t.rest.Writes AuditStep) (hknown : DevicesKnown c.store)
    (schedule : List ℕ) :
    DevicesKnown (c.run schedule).store ∧
      ∀ t ∈ (c.run schedule).threads, t.rest.Writes AuditStep := by
  induction schedule generalizing c with
  | nil => exact ⟨hknown, hthreads⟩
  | cons i schedule ih =>
    obtain ⟨hstep, hthreads'⟩ := Pool.writes_step hthreads i
    exact ih hthreads' (hstep.known hknown)

/-- In every run of requests and tasks, from any store whose entries refer to devices of the
inventory, an entry is never deleted or changed; it loses its device exactly when that device
is deleted. -/
theorem entry_kept (store : Platform) (hknown : DevicesKnown store) (operations : List Operation)
    (done rest : List ℕ) (id : ℕ) (a : AuditLog)
    (ha : ((startAll store operations).run done).store.auditLogs.get? id = some a) :
    ∃ a', ((startAll store operations).run (done ++ rest)).store.auditLogs.get? id = some a' ∧
      Kept ((startAll store operations).run done) rest a a' := by
  obtain ⟨hknown', hthreads⟩ := known_of_run (writes_audit store operations) hknown done
  rw [Pool.run, GuardedRuns.runFrom_append]
  exact kept_of_run hthreads hknown' ha rest

/-- A snapshot of the device, and an administrator who deletes it. -/
def labOperations : List Operation := [
  .takeConfigSnapshot ⟨.answering "a", fun _ => 1⟩ 1 false (some 1), .destroyDevice (some 1) 1]

def labEntry : AuditLog where
  action := .snapshot
  actor := some 1
  device := some 1
  detail := .obj [("snapshot_id", .nat 1), ("is_golden", .bool false)]
  timestamp := 1

theorem devicesKnown_lab : DevicesKnown lab := by
  intro id a d ha
  simp [lab] at ha

theorem entry_kept_of_lab :
    ∃ a', ((startAll lab labOperations).run ([0, 0, 0] ++ [1, 1, 1])).store.auditLogs.get? 1 =
        some a' ∧ Kept ((startAll lab labOperations).run [0, 0, 0]) [1, 1, 1] labEntry a' :=
  entry_kept lab devicesKnown_lab labOperations [0, 0, 0] [1, 1, 1] 1 labEntry rfl

/-- An entry loses its device with the device. -/
theorem not_entry_keeps_device :
    ¬ ∀ (store : Platform) (operations : List Operation) (done rest : List ℕ) (id : ℕ)
      (a : AuditLog), DevicesKnown store →
      ((startAll store operations).run done).store.auditLogs.get? id = some a →
      ∃ a', ((startAll store operations).run (done ++ rest)).store.auditLogs.get? id = some a' ∧
        SameEntry a a' ∧ a'.device = a.device := by
  intro h
  obtain ⟨a', ha', -, hdevice⟩ := h lab labOperations [0, 0, 0] [1, 1, 1] 1 labEntry
    devicesKnown_lab rfl
  have hgone : ((startAll lab labOperations).run ([0, 0, 0] ++ [1, 1, 1])).store.auditLogs.get? 1 =
      some { labEntry with device := none } := rfl
  rw [hgone] at ha'
  obtain rfl := Option.some.inj ha'
  simp [labEntry] at hdevice

end DevSecOpsPlatform.AuditTrail
