import DevSecOpsPlatform.ProgramInterleaving
import DevSecOpsPlatform.GoldenSnapshots

/-!
# Interleavings of `setGolden` and drift detection on one device

`setGolden` clears the golden rows with its third statement and sets the new one with its
fourth; a drift task reads the golden rows with its third. Between the clear and the save
the device has no golden row. `Orderly` keeps the other readers and writers out of that
window, and under it every interleaving keeps exactly one golden row outside the windows.
-/

namespace DevSecOpsPlatform.GoldenRaces

open KeyedTables StatementPrograms PlatformModels PlatformStore RolePermissions PythonValues
open NetmikoSessions SecurityTasks GoldenSnapshots GuardedRuns ProgramInterleaving

inductive GoldenRequest where
  | setGolden (caller : Option UserId) (pk : ConfigSnapshotId)
  | runDriftDetection (w : DriftWorld) (initiatedBy : Option UserId)

/-- The program of a request on the device `d`. -/
def GoldenRequest.program (d : DeviceId) : GoldenRequest → Statement Json
  | .setGolden caller pk => do
    let response ← SecurityTasks.setGolden caller pk
    return response.data
  | .runDriftDetection w user => SecurityTasks.runDriftDetection w d user

abbrev GoldenThread := Thread GoldenRequest Platform Exn Json

abbrev GoldenPool := Pool GoldenRequest Platform Exn Json

/-- The snapshot of a `setGolden` that has cleared the golden rows and not saved yet. -/
def pending (t : GoldenThread) : Option ConfigSnapshotId :=
  match t.name with
  | .setGolden _ pk => if t.executed = 3 ∧ t.rest.isStmt = true then some pk else none
  | .runDriftDetection _ _ => none

/-- The snapshot of a `setGolden` that has answered. -/
def answered (t : GoldenThread) : Option ConfigSnapshotId :=
  match t.name, t.rest with
  | .setGolden _ pk, .ret _ => some pk
  | _, _ => none

/-- The next statement of the thread is the third of its program. -/
def atThird (t : GoldenThread) : Bool := t.executed == 2 && t.rest.isStmt

/-- What step `i` may do: `setGolden` clears the golden rows only while no other request
has them cleared for another snapshot, and a drift task reads them only when every request
that has cleared them finds its own snapshot golden. -/
def orderly (c : GoldenPool) (i : ℕ) : Bool :=
  match c.threads[i]? with
  | none => true
  | some t => !atThird t || match t.name with
    | .setGolden _ pk => (c.threads.filterMap pending).all (· == pk)
    | .runDriftDetection _ _ => (c.threads.filterMap pending).all (fun pk =>
        (c.store.configSnapshots.get? pk).any (·.isGolden))

/-- Step `i` is a drift task that reads the golden rows and takes the branch without one. -/
def promotes (d : DeviceId) (c : GoldenPool) (i : ℕ) : Bool :=
  match c.threads[i]? with
  | none => false
  | some t => atThird t && match t.name with
    | .setGolden _ _ => false
    | .runDriftDetection _ _ => (latestGolden d c.store).isNone

/-! ### What is left of a request -/

def goldenSave (pk : ConfigSnapshotId) (device : Device) : Statement Json := do
  ConfigSnapshot.save pk (fun s => { s with isGolden := true })
  return (goldenResponse pk device).data

def goldenClear (pk : ConfigSnapshotId) (snap : ConfigSnapshot) (device : Device) :
    Statement Json := do
  Program.execute (unsetGolden snap.device)
  goldenSave pk device

def goldenLookup (pk : ConfigSnapshotId) : Statement Json := do
  let (snap, device) ← getObject (snapshotWithDevice pk)
  goldenClear pk snap device

def driftSelect (w : DriftWorld) (d : DeviceId) (user : Option UserId) (config : String)
    (snap : ConfigSnapshotId) : Statement Json := do
  match ← Program.query (latestGolden d) with
  | none => promoteCurrent w d snap
  | some golden => compareWithGolden w d user snap config golden

def driftCapture (w : DriftWorld) (d : DeviceId) (user : Option UserId) (config : String) :
    Statement Json := do
  let snap ← ConfigSnapshot.create (currentSnapshot w d user config)
  driftSelect w d user config snap

def SameSnapshots (db db' : Platform) : Prop := db'.configSnapshots = db.configSnapshots

/-- What may be left of a thread, over a store, after the statements it has executed. -/
inductive Phase (d : DeviceId) (db : Platform) : GoldenThread → Prop where
  | requested (caller : Option UserId) (pk : ConfigSnapshotId) :
      Phase d db ⟨.setGolden caller pk, 0, GoldenRequest.program d (.setGolden caller pk)⟩
  | permitted (caller : Option UserId) (pk : ConfigSnapshotId) :
      Phase d db ⟨.setGolden caller pk, 1, goldenLookup pk⟩
  | found (caller : Option UserId) (pk : ConfigSnapshotId) (snap : ConfigSnapshot) (device : Device)
      (hsnap : snap.device = d) (hrow : ∃ s, db.configSnapshots.get? pk = some s ∧ s.device = d) :
      Phase d db ⟨.setGolden caller pk, 2, goldenClear pk snap device⟩
  | cleared (caller : Option UserId) (pk : ConfigSnapshotId) (device : Device)
      (hrow : ∃ s, db.configSnapshots.get? pk = some s ∧ s.device = d) :
      Phase d db ⟨.setGolden caller pk, 3, goldenSave pk device⟩
  | saved (caller : Option UserId) (pk : ConfigSnapshotId) (v : Json) :
      Phase d db ⟨.setGolden caller pk, 4, .ret v⟩
  | failed (name : GoldenRequest) (n : ℕ) (e : Exn) : Phase d db ⟨name, n, .raise e⟩
  | drifting (w : DriftWorld) (user : Option UserId) :
      Phase d db ⟨.runDriftDetection w user, 0, SecurityTasks.runDriftDetection w d user⟩
  | read (w : DriftWorld) (user : Option UserId) (config : String) :
      Phase d db ⟨.runDriftDetection w user, 1, driftCapture w d user config⟩
  | captured (w : DriftWorld) (user : Option UserId) (config : String) (snap : ConfigSnapshotId) :
      Phase d db ⟨.runDriftDetection w user, 2, driftSelect w d user config snap⟩
  | unread (w : DriftWorld) (user : Option UserId) (rest : Statement Json)
      (hrest : rest.Writes SameSnapshots) (hlast : ∀ s, (rest.next s).isStmt = false) :
      Phase d db ⟨.runDriftDetection w user, 1, rest⟩
  | comparing (w : DriftWorld) (user : Option UserId) (n : ℕ) (rest : Statement Json)
      (hrest : rest.Writes SameSnapshots) (hn : 3 ≤ n) :
      Phase d db ⟨.runDriftDetection w user, n, rest⟩
  | returned (w : DriftWorld) (user : Option UserId) (n : ℕ) (v : Json) :
      Phase d db ⟨.runDriftDetection w user, n, .ret v⟩

/-- `db'` has every snapshot of `db`, with its device, and no new one of another device. -/
structure Grows (d : DeviceId) (db db' : Platform) : Prop where
  kept : ∀ pk s, db.configSnapshots.get? pk = some s →
    ∃ s', db'.configSnapshots.get? pk = some s' ∧ s'.device = s.device
  fresh : ∀ pk s', db'.configSnapshots.get? pk = some s' →
    s'.device = d ∨ ∃ s, db.configSnapshots.get? pk = some s ∧ s.device = s'.device

theorem grows_of_same {d : DeviceId} {db db' : Platform} (h : SameSnapshots db db') :
    Grows d db db' := by
  constructor
  · intro pk s hs
    exact ⟨s, h ▸ hs, rfl⟩
  · intro pk s hs
    exact .inr ⟨s, h ▸ hs, rfl⟩

theorem grows_insert {d : DeviceId} {db db' : Platform} {s : ConfigSnapshot} (hs : s.device = d)
    (h : db'.configSnapshots = db.configSnapshots.insert s) : Grows d db db' := by
  constructor
  · intro pk r hr
    exact ⟨r, by rw [h, Table.get?_insert_of_some hr], rfl⟩
  · intro pk r hr
    rw [h, Table.get?_insert] at hr
    split at hr
    · cases hr
      exact .inl hs
    · exact .inr ⟨r, hr, rfl⟩

theorem grows_mapRows {d : DeviceId} {db db' : Platform} {f : ℕ → ConfigSnapshot → ConfigSnapshot}
    (hf : ∀ pk s, (f pk s).device = s.device)
    (h : db'.configSnapshots = db.configSnapshots.mapRows f) : Grows d db db' := by
  constructor
  · intro pk s hs
    exact ⟨f pk s, by simp [h, hs], hf pk s⟩
  · intro pk s hs
    simp only [h, Table.get?_mapRows, Option.map_eq_some_iff] at hs
    obtain ⟨r, hr, rfl⟩ := hs
    exact .inr ⟨r, hr, (hf pk r).symm⟩

theorem grows_unsetGolden (d : DeviceId) (db : Platform) : Grows d db (unsetGolden d db) := by
  have hrows : (unsetGolden d db).configSnapshots = db.configSnapshots.mapRows (fun _ s =>
      if s.device == d && s.isGolden then { s with isGolden := false } else s) := rfl
  refine grows_mapRows (fun pk s => ?_) hrows
  split <;> rfl

theorem grows_makeGolden {d : DeviceId} {db db' : Platform} {pk : ConfigSnapshotId}
    (h : db'.configSnapshots =
      db.configSnapshots.update pk (fun s => { s with isGolden := true })) : Grows d db db' := by
  have hrows : db'.configSnapshots = db.configSnapshots.mapRows (fun k s =>
      if k = pk then { s with isGolden := true } else s) := h
  refine grows_mapRows (fun k s => ?_) hrows
  split <;> rfl

theorem Phase.mono {d : DeviceId} {db db' : Platform} {t : GoldenThread} (h : Phase d db t)
    (hgrows : Grows d db db') : Phase d db' t := by
  have hrow : ∀ pk, (∃ s, db.configSnapshots.get? pk = some s ∧ s.device = d) →
      ∃ s, db'.configSnapshots.get? pk = some s ∧ s.device = d := by
    rintro pk ⟨s, hs, hd⟩
    obtain ⟨s', hs', hd'⟩ := hgrows.kept pk s hs
    exact ⟨s', hs', hd'.trans hd⟩
  cases h with
  | requested caller pk => exact .requested caller pk
  | permitted caller pk => exact .permitted caller pk
  | found caller pk snap device hsnap h => exact .found caller pk snap device hsnap (hrow pk h)
  | cleared caller pk device h => exact .cleared caller pk device (hrow pk h)
  | saved caller pk v => exact .saved caller pk v
  | failed name n e => exact .failed name n e
  | drifting w user => exact .drifting w user
  | read w user config => exact .read w user config
  | captured w user config snap => exact .captured w user config snap
  | unread w user rest hrest hlast => exact .unread w user rest hrest hlast
  | comparing w user n rest hrest hn => exact .comparing w user n rest hrest hn
  | returned w user n v => exact .returned w user n v

/-- The snapshot a `setGolden` names, if it is there, is one of the device. -/
def OnDevice (d : DeviceId) (db : Platform) (name : GoldenRequest) : Prop :=
  ∀ caller pk, name = .setGolden caller pk →
    ∀ s, db.configSnapshots.get? pk = some s → s.device = d

theorem OnDevice.mono {d : DeviceId} {db db' : Platform} {name : GoldenRequest}
    (h : OnDevice d db name) (hgrows : Grows d db db') : OnDevice d db' name := by
  intro caller pk hname s' hs'
  rcases hgrows.fresh pk s' hs' with hd | ⟨s, hs, hd⟩
  · exact hd
  · exact hd.symm.trans (h caller pk hname s hs)

/-! ### One statement of one request -/

theorem program_setGolden (d : DeviceId) (caller : Option UserId) (pk : ConfigSnapshotId) :
    GoldenRequest.program d (.setGolden caller pk) =
      permit isAdminOrNetworkEngineer caller >>= fun _ => goldenLookup pk := by
  simp only [GoldenRequest.program, SecurityTasks.setGolden, goldenLookup, goldenClear, goldenSave,
    bind_assoc, pure_bind]
  rfl

theorem write_permit_bind {α : Type} (allows : Option RequestUser → Bool) (caller : Option UserId)
    (f : RequestUser → Statement α) (db : Platform) :
    (permit allows caller >>= f).write db = db := by
  rw [permit, Program.write_statement_bind]
  cases authenticate caller db with
  | none => rfl
  | some u => cases h : allows (some u) <;> simp [h]

theorem next_permit_bind {α : Type} (allows : Option RequestUser → Bool) (caller : Option UserId)
    (f : RequestUser → Statement α) (db : Platform) :
    (∃ e, (permit allows caller >>= f).next db = .raise e) ∨
      ∃ u, (permit allows caller >>= f).next db = f u := by
  rw [permit, Program.next_statement_bind]
  cases authenticate caller db with
  | none => exact .inl ⟨_, rfl⟩
  | some u =>
    cases h : allows (some u) with
    | true => exact .inr ⟨u, by simp [h]⟩
    | false => exact .inl ⟨permissionDeniedError, by simp [h]⟩

instance : Std.Refl SameSnapshots := ⟨fun _ => rfl⟩

private theorem writes_createReport (r : DriftReport) :
    (DriftReport.create r).Writes SameSnapshots := writes_insertRow (fun _ => rfl)

private theorem writes_createAudit (a : AuditLog) :
    (AuditLog.create a).Writes SameSnapshots := writes_insertRow (fun _ => rfl)

theorem writes_compareWithGolden (w : DriftWorld) (d : DeviceId) (user : Option UserId)
    (snap : ConfigSnapshotId) (config : String) (golden : ConfigSnapshotId × ConfigSnapshot) :
    (compareWithGolden w d user snap config golden).Writes SameSnapshots :=
  (writes_createReport _).bind fun _ => (writes_createAudit _).bind fun _ => Program.writes_ret _

/-- After it has loaded the device a drift task has raised, or is about to report the error
of the session, or to store the configuration it read. -/
theorem next_runDriftDetection (w : DriftWorld) (d : DeviceId) (user : Option UserId)
    (db : Platform) :
    (∃ e, (SecurityTasks.runDriftDetection w d user).next db = .raise e) ∨
    (((SecurityTasks.runDriftDetection w d user).next db).Writes SameSnapshots ∧
      ∀ s, (((SecurityTasks.runDriftDetection w d user).next db).next s).isStmt = false) ∨
    ∃ config,
      (SecurityTasks.runDriftDetection w d user).next db = driftCapture w d user config := by
  unfold SecurityTasks.runDriftDetection Device.get
  rw [Program.next_statement_bind]
  cases db.devices.get? d with
  | none => exact .inl ⟨_, rfl⟩
  | some device =>
    cases hc : getRunningConfig w.session device with
    | ok config => exact .inr (.inr ⟨config, by simp only [hc]; rfl⟩)
    | error exc =>
      refine .inr (.inl ?_)
      simp only [hc, getRunningConfig_error hc, ne_eq, not_true_eq_false, if_false]
      refine ⟨(writes_createReport _).bind fun _ => Program.writes_ret _, fun s => ?_⟩
      rw [DriftReport.create, next_insertRow_bind]
      split <;> rfl

theorem goldenSnapshots_eq {d : DeviceId} {db db' : Platform} (h : SameSnapshots db db') :
    goldenSnapshots db' d = goldenSnapshots db d := by
  unfold goldenSnapshots
  rw [h]

theorem goldenSnapshots_unsetGolden (d : DeviceId) (db : Platform) :
    goldenSnapshots (unsetGolden d db) d = [] := by
  refine Table.select_eq_nil.mpr (fun pk s hs => ?_)
  rw [get?_unsetGolden, Option.map_eq_some_iff] at hs
  obtain ⟨r, -, rfl⟩ := hs
  by_cases hd : r.device = d <;> by_cases hg : r.isGolden = true <;> simp [hd, hg]

/-- Making a row golden leaves it as the only one, when no other row was. -/
theorem goldenSnapshots_makeGolden {d : DeviceId} {db db' : Platform} {pk : ConfigSnapshotId}
    {s : ConfigSnapshot} (hget : db.configSnapshots.get? pk = some s) (hd : s.device = d)
    (h : db'.configSnapshots = db.configSnapshots.update pk (fun s => { s with isGolden := true }))
    (honly : ∀ r ∈ goldenSnapshots db d, r.1 = pk) :
    goldenSnapshots db' d = [(pk, { s with isGolden := true })] := by
  unfold goldenSnapshots Table.update at *
  rw [h, Table.select_mapRows_key hget]
  · simp
  · intro k r hr
    by_cases hk : k = pk
    · subst hk
      obtain rfl := Option.some.inj (hget.symm.trans hr)
      simp [hd]
    · have hnot := mt (honly (k, r)) hk
      have hfalse : (r.device == d && r.isGolden) = false := by
        simpa [Table.mem_select, hr] using hnot
      simp only [if_neg hk, hfalse, beq_eq_false_iff_ne.mpr hk]

/-- What a statement of a thread does to the golden rows and to the marks of the thread. -/
inductive Move (d : DeviceId) (db db' : Platform) (t t' : GoldenThread) : Prop where
  | quiet (hgold : goldenSnapshots db' d = goldenSnapshots db d) (hp : pending t = none)
      (hp' : pending t' = none) (ha' : answered t' = none)
  | clears (pk : ConfigSnapshotId) (hname : ∃ caller, t.name = .setGolden caller pk)
      (hthird : atThird t = true) (hgold : goldenSnapshots db' d = []) (hp : pending t = none)
      (hp' : pending t' = some pk) (ha' : answered t' = none)
  | saves (pk : ConfigSnapshotId)
      (hgold : (∀ r ∈ goldenSnapshots db d, r.1 = pk) → ∃ s, goldenSnapshots db' d = [(pk, s)])
      (hp : pending t = some pk) (hp' : pending t' = none) (ha' : answered t' = some pk)

/-- Everything the next statement of a thread does. -/
structure Advances (d : DeviceId) (db : Platform) (t : GoldenThread) : Prop where
  phase : Phase d (t.rest.write db) (t.advance db)
  grows : Grows d db (t.rest.write db)
  move : Move d db (t.rest.write db) t (t.advance db)

private theorem advances_of_same {d : DeviceId} {db : Platform} {t : GoldenThread}
    (hsame : SameSnapshots db (t.rest.write db)) (hphase : Phase d (t.rest.write db) (t.advance db))
    (hp : pending t = none) (hp' : pending (t.advance db) = none)
    (ha' : answered (t.advance db) = none) : Advances d db t :=
  ⟨hphase, grows_of_same hsame, .quiet (goldenSnapshots_eq hsame) hp hp' ha'⟩

private theorem advances_requested (d : DeviceId) (db : Platform) (caller : Option UserId)
    (pk : ConfigSnapshotId) :
    Advances d db ⟨.setGolden caller pk, 0, GoldenRequest.program d (.setGolden caller pk)⟩ := by
  rw [program_setGolden]
  have hsame := write_permit_bind isAdminOrNetworkEngineer caller (fun _ => goldenLookup pk) db
  refine advances_of_same (congrArg Platform.configSnapshots hsame) ?_ rfl rfl ?_
  all_goals
    rcases next_permit_bind isAdminOrNetworkEngineer caller (fun _ => goldenLookup pk) db with
      ⟨e, he⟩ | ⟨u, hu⟩
  · simp only [Thread.advance, he]
    exact .failed _ _ e
  · simp only [Thread.advance, hu]
    exact .permitted caller pk
  · simp only [Thread.advance, he]
    rfl
  · simp only [Thread.advance, hu]
    rfl

private theorem advances_permitted {d : DeviceId} {db : Platform} (caller : Option UserId)
    {pk : ConfigSnapshotId} (hon : OnDevice d db (.setGolden caller pk)) :
    Advances d db ⟨.setGolden caller pk, 1, goldenLookup pk⟩ := by
  have hwrite : (goldenLookup pk).write db = db := by
    rw [goldenLookup, getObject, Program.write_statement_bind]
    cases snapshotWithDevice pk db <;> rfl
  have hnext : (goldenLookup pk).next db = (snapshotWithDevice pk db).elim
      (.raise ⟨.http404, "Not found."⟩) (fun r => goldenClear pk r.1 r.2) := by
    rw [goldenLookup, getObject, Program.next_statement_bind]
    cases snapshotWithDevice pk db <;> rfl
  refine advances_of_same (congrArg Platform.configSnapshots hwrite) ?_ rfl ?_ ?_
  all_goals
    simp only [Thread.advance, hnext]
    cases hs : snapshotWithDevice pk db
  · exact .failed _ _ _
  · rename_i r
    have hrow : db.configSnapshots.get? pk = some r.1 ∧ _ := snapshotWithDevice_eq_some.mp hs
    have hd := hon caller pk rfl r.1 hrow.1
    rw [hwrite]
    exact .found caller pk r.1 r.2 hd ⟨r.1, hrow.1, hd⟩
  all_goals rfl

private theorem advances_found {d : DeviceId} {db : Platform} (caller : Option UserId)
    {pk : ConfigSnapshotId} {snap : ConfigSnapshot} (device : Device) (hsnap : snap.device = d)
    (hrow : ∃ s, db.configSnapshots.get? pk = some s ∧ s.device = d) :
    Advances d db ⟨.setGolden caller pk, 2, goldenClear pk snap device⟩ := by
  subst hsnap
  have hgrows := grows_unsetGolden snap.device db
  refine ⟨?_, hgrows, .clears pk ⟨caller, rfl⟩ rfl (goldenSnapshots_unsetGolden _ db) rfl rfl rfl⟩
  obtain ⟨s, hs, hd⟩ := hrow
  obtain ⟨s', hs', hd'⟩ := hgrows.kept pk s hs
  exact .cleared caller pk device ⟨s', hs', hd'.trans hd⟩

private theorem advances_cleared {d : DeviceId} {db : Platform} (caller : Option UserId)
    {pk : ConfigSnapshotId} (device : Device)
    (hrow : ∃ s, db.configSnapshots.get? pk = some s ∧ s.device = d) :
    Advances d db ⟨.setGolden caller pk, 3, goldenSave pk device⟩ := by
  obtain ⟨s, hs, hd⟩ := hrow
  have hwrite : (goldenSave pk device).write db = { db with
      configSnapshots := db.configSnapshots.update pk (fun s => { s with isGolden := true }) } := by
    rw [goldenSave, ConfigSnapshot.save, saveFields, Program.write_statement_bind, hs]
  have hnext : (goldenSave pk device).next db = .ret (goldenResponse pk device).data := by
    rw [goldenSave, ConfigSnapshot.save, saveFields, Program.next_statement_bind, hs]
    rfl
  constructor
  · simp only [Thread.advance, hnext]
    exact .saved caller pk _
  · dsimp only
    rw [hwrite]
    exact grows_makeGolden rfl
  · refine .saves pk (fun honly => ⟨_, goldenSnapshots_makeGolden hs hd ?_ honly⟩) rfl ?_ ?_
    · dsimp only
      rw [hwrite]
    · simp [pending, Thread.advance, hnext]
    · simp [answered, Thread.advance, hnext]

private theorem advances_drifting (d : DeviceId) (db : Platform) (w : DriftWorld)
    (user : Option UserId) :
    Advances d db ⟨.runDriftDetection w user, 0, SecurityTasks.runDriftDetection w d user⟩ := by
  have hwrite : (SecurityTasks.runDriftDetection w d user).write db = db := by
    unfold SecurityTasks.runDriftDetection Device.get
    rw [Program.write_statement_bind]
    cases db.devices.get? d <;> rfl
  refine advances_of_same (congrArg Platform.configSnapshots hwrite) ?_ rfl rfl rfl
  rcases next_runDriftDetection w d user db with ⟨e, he⟩ | ⟨hrest, hlast⟩ | ⟨config, hread⟩
  · simp only [Thread.advance, he]
    exact .failed _ _ e
  · exact .unread w user _ hrest hlast
  · simp only [Thread.advance, hread]
    exact .read w user config

private theorem advances_read (d : DeviceId) (db : Platform) (w : DriftWorld) (user : Option UserId)
    (config : String) :
    Advances d db ⟨.runDriftDetection w user, 1, driftCapture w d user config⟩ := by
  have hrow : (currentSnapshot w d user config).device = d := rfl
  have hplain : (currentSnapshot w d user config).isGolden = false := rfl
  unfold driftCapture ConfigSnapshot.create
  generalize currentSnapshot w d user config = s at hrow hplain ⊢
  cases hok : (do
      require (storable s.texts) nulTextError
      require (refersTo db.devices s.device && refersToOrNull db.users s.takenBy)
        foreignKeyError : Except Exn Unit) with
  | error e =>
    refine advances_of_same ?_ ?_ rfl rfl rfl
    · rw [write_insertRow_bind]
      simp only [hok]
      rfl
    · simp only [Thread.advance, next_insertRow_bind, hok]
      exact .failed _ _ e
  | ok u =>
    refine ⟨?_, ?_, .quiet ?_ rfl rfl rfl⟩
    · simp only [Thread.advance, next_insertRow_bind, hok]
      exact .captured w user config _
    · rw [write_insertRow_bind]
      refine grows_insert hrow ?_
      simp only [hok]
    · rw [write_insertRow_bind]
      simp only [hok]
      exact goldenSnapshots_captured db s hplain d

private theorem advances_captured {d : DeviceId} {db : Platform} (w : DriftWorld)
    (user : Option UserId) (config : String) (snap : ConfigSnapshotId)
    (hgolden : (latestGolden d db).isSome = true) :
    Advances d db ⟨.runDriftDetection w user, 2, driftSelect w d user config snap⟩ := by
  obtain ⟨golden, hg⟩ := Option.isSome_iff_exists.mp hgolden
  have hnext : (driftSelect w d user config snap).next db =
      compareWithGolden w d user snap config golden := by
    simp only [driftSelect, Program.query_bind, Program.next_stmt, hg]
  refine advances_of_same rfl ?_ rfl rfl rfl
  simp only [Thread.advance, hnext]
  exact .comparing w user 3 _ (writes_compareWithGolden w d user snap config golden) (by omega)

private theorem advances_unread {d : DeviceId} {db : Platform} (w : DriftWorld)
    (user : Option UserId) {rest : Statement Json} (hrest : rest.Writes SameSnapshots)
    (hlast : ∀ s, (rest.next s).isStmt = false) (hstmt : rest.isStmt = true) :
    Advances d db ⟨.runDriftDetection w user, 1, rest⟩ := by
  refine advances_of_same (hrest.write hstmt db) ?_ rfl rfl rfl
  have hdone := hlast db
  simp only [Thread.advance]
  cases hn : rest.next db with
  | ret v => exact .returned w user 2 v
  | raise e => exact .failed _ _ e
  | stmt wr n => simp [hn] at hdone

/-- The next statement of a thread, when a drift task that reads the golden rows finds one. -/
theorem Phase.advances {d : DeviceId} {db : Platform} {t : GoldenThread} (h : Phase d db t)
    (hstmt : t.rest.isStmt = true) (hon : OnDevice d db t.name)
    (hgolden : ∀ w user, t.name = .runDriftDetection w user → atThird t = true →
      (latestGolden d db).isSome = true) : Advances d db t := by
  cases h with
  | requested caller pk => exact advances_requested d db caller pk
  | permitted caller pk => exact advances_permitted caller hon
  | found caller pk snap device hsnap hrow => exact advances_found caller device hsnap hrow
  | cleared caller pk device hrow => exact advances_cleared caller device hrow
  | saved caller pk v => cases hstmt
  | failed name n e => cases hstmt
  | drifting w user => exact advances_drifting d db w user
  | read w user config => exact advances_read d db w user config
  | captured w user config snap =>
    exact advances_captured w user config snap (hgolden w user rfl rfl)
  | unread w user rest hrest hlast => exact advances_unread w user hrest hlast hstmt
  | comparing w user n rest hrest hn =>
    refine advances_of_same (hrest.write hstmt db) ?_ rfl rfl rfl
    exact .comparing w user (n + 1) _ (hrest.next db) (by omega)
  | returned w user n v => cases hstmt

/-! ### The pool -/

def pendingAt (c : GoldenPool) (j : ℕ) : Option ConfigSnapshotId := c.threads[j]?.bind pending

def answeredAt (c : GoldenPool) (j : ℕ) : Option ConfigSnapshotId := c.threads[j]?.bind answered

/-- The snapshot was designated by a request, or is the original one and none was. -/
def Chosen (original : ConfigSnapshotId) (c : GoldenPool) (pk : ConfigSnapshotId) : Prop :=
  (∃ j, answeredAt c j = some pk) ∨ (pk = original ∧ ∀ j, answeredAt c j = none)

/-- The golden rows of the device: one that was chosen, or while requests have them cleared
for one snapshot, at most that one. -/
inductive Goldens (d : DeviceId) (original : ConfigSnapshotId) (c : GoldenPool) : Prop where
  | settled (pk : ConfigSnapshotId) (s : ConfigSnapshot) (hnone : ∀ j, pendingAt c j = none)
      (hgold : goldenSnapshots c.store d = [(pk, s)]) (hchosen : Chosen original c pk)
  | moving (pk : ConfigSnapshotId) (hall : ∀ j q, pendingAt c j = some q → q = pk)
      (hsome : ∃ j, pendingAt c j = some pk)
      (hgold : goldenSnapshots c.store d = [] ∨ ∃ s, goldenSnapshots c.store d = [(pk, s)])

structure Invariant (d : DeviceId) (original : ConfigSnapshotId) (c : GoldenPool) : Prop where
  phases : ∀ t ∈ c.threads, Phase d c.store t
  onDevice : ∀ t ∈ c.threads, OnDevice d c.store t.name
  goldens : Goldens d original c

theorem bind_set_threads {α : Type} {l : List GoldenThread} {i : ℕ} {t : GoldenThread}
    (h : l[i]? = some t) (t' : GoldenThread) (f : GoldenThread → Option α) (j : ℕ) :
    (l.set i t')[j]?.bind f = if j = i then f t' else l[j]?.bind f := by
  have hi := (List.getElem?_eq_some_iff.mp h).1
  rw [List.getElem?_set]
  by_cases hj : i = j
  · subst hj
    simp [hi]
  · simp [hj, Ne.symm hj]

theorem row_of_pending {d : DeviceId} {db : Platform} {t : GoldenThread} {pk : ConfigSnapshotId}
    (h : Phase d db t) (hp : pending t = some pk) :
    ∃ s, db.configSnapshots.get? pk = some s ∧ s.device = d := by
  cases h with
  | cleared caller q device hrow =>
    have hq : q = pk := by simpa [pending, goldenSave, ConfigSnapshot.save, saveFields] using hp
    exact hq ▸ hrow
  | failed name n e => cases name <;> simp [pending] at hp
  | _ => simp [pending] at hp

theorem answered_of_isStmt {t : GoldenThread} (h : t.rest.isStmt = true) : answered t = none := by
  obtain ⟨name, n, rest⟩ := t
  cases rest with
  | stmt w n => cases name <;> rfl
  | ret v => cases h
  | raise e => cases h

/-- An orderly clear finds the golden rows cleared for its own snapshot at most. -/
theorem pending_eq_of_orderly {c : GoldenPool} {i : ℕ} {t : GoldenThread} {caller : Option UserId}
    {pk : ConfigSnapshotId} (h : orderly c i = true) (ht : c.threads[i]? = some t)
    (hname : t.name = .setGolden caller pk) (hthird : atThird t = true) :
    ∀ j q, pendingAt c j = some q → q = pk := by
  intro j q hq
  obtain ⟨u, hu, hp⟩ := Option.bind_eq_some_iff.mp hq
  simp only [orderly, ht, hthird, Bool.not_true, Bool.false_or, hname, List.all_eq_true,
    List.mem_filterMap, beq_iff_eq] at h
  exact h q ⟨u, List.mem_of_getElem? hu, hp⟩

/-- An orderly read of the golden rows finds one. -/
theorem golden_of_orderly {d : DeviceId} {original : ConfigSnapshotId} {c : GoldenPool} {i : ℕ}
    {t : GoldenThread} (hinv : Invariant d original c) (h : orderly c i = true)
    (ht : c.threads[i]? = some t) (w : DriftWorld) (user : Option UserId)
    (hname : t.name = .runDriftDetection w user) (hthird : atThird t = true) :
    (latestGolden d c.store).isSome = true := by
  have hne : goldenSnapshots c.store d ≠ [] := by
    cases hinv.goldens with
    | settled pk s hnone hgold hchosen => simp [hgold]
    | moving pk hall hsome hgold =>
      obtain ⟨j, hj⟩ := hsome
      obtain ⟨u, hu, hp⟩ := Option.bind_eq_some_iff.mp hj
      obtain ⟨s, hs, hd⟩ := row_of_pending (hinv.phases u (List.mem_of_getElem? hu)) hp
      simp only [orderly, ht, hthird, Bool.not_true, Bool.false_or, hname, List.all_eq_true,
        List.mem_filterMap] at h
      have hgolden : s.isGolden = true := by simpa [hs] using h pk ⟨u, List.mem_of_getElem? hu, hp⟩
      have hmem : (pk, s) ∈ goldenSnapshots c.store d :=
        (Table.mem_select _ _ pk s).mpr ⟨hs, by simp [hd, hgolden]⟩
      exact List.ne_nil_of_mem hmem
  rw [Option.isSome_iff_ne_none]
  exact fun hnone => hne (latestTaken_eq_none.mp hnone)

/-- A step that changes no golden row, clear or answer. -/
theorem Goldens.congr {d : DeviceId} {original : ConfigSnapshotId} {c c' : GoldenPool}
    (h : Goldens d original c)
    (hgold : goldenSnapshots c'.store d = goldenSnapshots c.store d)
    (hpend : ∀ j, pendingAt c' j = pendingAt c j)
    (hansw : ∀ j, answeredAt c' j = answeredAt c j) : Goldens d original c' := by
  cases h with
  | settled pk s hnone hg hchosen =>
    refine .settled pk s (fun j => (hpend j).trans (hnone j)) (hgold.trans hg) ?_
    simpa only [Chosen, hansw] using hchosen
  | moving pk hall hsome hg =>
    refine .moving pk ?_ ?_ (hgold ▸ hg)
    · simpa only [hpend] using hall
    · simpa only [hpend] using hsome

/-- A request has cleared the golden rows for a snapshot, and the others that have are at the
same one. -/
theorem goldens_cleared {d : DeviceId} {original : ConfigSnapshotId} {c c' : GoldenPool} {i : ℕ}
    {pk : ConfigSnapshotId} (hothers : ∀ j q, pendingAt c j = some q → q = pk)
    (hgold : goldenSnapshots c'.store d = [])
    (hpend : ∀ j, pendingAt c' j = if j = i then some pk else pendingAt c j) :
    Goldens d original c' := by
  refine .moving pk (fun j q hq => ?_) ⟨i, by rw [hpend, if_pos rfl]⟩ (.inl hgold)
  rw [hpend] at hq
  split at hq
  · exact (Option.some.inj hq).symm
  · exact hothers j q hq

/-- A request has saved its snapshot as the golden one: the rows are settled when no other
request is about to save the same snapshot. -/
theorem Goldens.saved {d : DeviceId} {original : ConfigSnapshotId} {c c' : GoldenPool} {i : ℕ}
    {pk : ConfigSnapshotId} (h : Goldens d original c) (hi : pendingAt c i = some pk)
    (hgold : (∀ r ∈ goldenSnapshots c.store d, r.1 = pk) →
      ∃ s, goldenSnapshots c'.store d = [(pk, s)])
    (hpend : ∀ j, pendingAt c' j = if j = i then none else pendingAt c j)
    (hansw : answeredAt c' i = some pk) : Goldens d original c' := by
  cases h with
  | settled q s hnone hg hchosen => simp [hnone] at hi
  | moving q hall hsome hg =>
    obtain rfl : pk = q := hall i pk hi
    have honly : ∀ r ∈ goldenSnapshots c.store d, r.1 = pk := by
      rcases hg with hg | ⟨s, hg⟩ <;> simp [hg]
    obtain ⟨s, hs⟩ := hgold honly
    by_cases hmore : ∃ j, j ≠ i ∧ pendingAt c j = some pk
    · obtain ⟨j, hj, hjp⟩ := hmore
      refine .moving pk (fun k q hq => ?_) ⟨j, by rw [hpend, if_neg hj, hjp]⟩ (.inr ⟨s, hs⟩)
      rw [hpend] at hq
      split at hq
      · cases hq
      · exact hall k q hq
    · refine .settled pk s (fun j => ?_) hs (.inl ⟨i, hansw⟩)
      rw [hpend]
      split
      · rfl
      · rename_i hj
        refine Option.eq_none_iff_forall_ne_some.mpr (fun q hq => ?_)
        obtain rfl := hall j q hq
        exact hmore ⟨j, hj, hq⟩

theorem goldens_step {d : DeviceId} {original : ConfigSnapshotId} {c : GoldenPool} {i : ℕ}
    {t : GoldenThread} (hinv : Invariant d original c) (h : orderly c i = true)
    (ht : c.threads[i]? = some t) (hstmt : t.rest.isStmt = true)
    (hmove : Move d c.store (t.rest.write c.store) t (t.advance c.store)) :
    Goldens d original
      ⟨t.rest.write c.store, c.threads.set i (t.advance c.store)⟩ := by
  have hpend : ∀ j, pendingAt ⟨t.rest.write c.store, c.threads.set i (t.advance c.store)⟩ j =
      if j = i then pending (t.advance c.store) else pendingAt c j :=
    bind_set_threads ht _ pending
  have hansw : ∀ j, answeredAt ⟨t.rest.write c.store, c.threads.set i (t.advance c.store)⟩ j =
      if j = i then answered (t.advance c.store) else answeredAt c j :=
    bind_set_threads ht _ answered
  have hati : pendingAt c i = pending t := by simp [pendingAt, ht]
  have hansi : answeredAt c i = none := by simp [answeredAt, ht, answered_of_isStmt hstmt]
  cases hmove with
  | quiet hgold hp hp' ha' =>
    refine hinv.goldens.congr hgold (fun j => ?_) (fun j => ?_)
    · rw [hpend, hp', ite_eq_right_iff]
      rintro rfl
      rw [hati, hp]
    · rw [hansw, ha', ite_eq_right_iff]
      rintro rfl
      exact hansi.symm
  | clears pk hname hthird hgold hp hp' ha' =>
    obtain ⟨caller, hname⟩ := hname
    have hothers := pending_eq_of_orderly h ht hname hthird
    exact goldens_cleared hothers hgold (fun j => by rw [hpend, hp'])
  | saves pk hgold hp hp' ha' =>
    refine hinv.goldens.saved (hati.trans hp) hgold (fun j => by rw [hpend, hp']) ?_
    rw [hansw, if_pos rfl, ha']

theorem invariant_step {d : DeviceId} {original : ConfigSnapshotId} (c : GoldenPool) (i : ℕ)
    (hinv : Invariant d original c) (h : orderly c i = true) :
    Invariant d original (c.step i) := by
  obtain hs | ⟨t, ht, hstmt, hs⟩ := c.step_cases i
  · rwa [hs]
  · have hmem := List.mem_of_getElem? ht
    have hadv := (hinv.phases t hmem).advances hstmt (hinv.onDevice t hmem)
      (fun w user hname hthird => golden_of_orderly hinv h ht w user hname hthird)
    rw [hs]
    refine ⟨fun u hu => ?_, fun u hu => ?_, goldens_step hinv h ht hstmt hadv.move⟩
    · rcases Pool.mem_set_cases hu with rfl | hu
      · exact hadv.phase
      · exact (hinv.phases u hu).mono hadv.grows
    · rcases Pool.mem_set_cases hu with rfl | hu
      · exact (hinv.onDevice t hmem).mono hadv.grows
      · exact (hinv.onDevice u hu).mono hadv.grows

theorem not_promotes_of_orderly {d : DeviceId} {original : ConfigSnapshotId} (c : GoldenPool)
    (i : ℕ) (hinv : Invariant d original c) (h : orderly c i = true) :
    promotes d c i = false := by
  unfold promotes
  cases ht : c.threads[i]? with
  | none => rfl
  | some t =>
    cases hthird : atThird t with
    | false => simp [hthird]
    | true =>
      cases hname : t.name with
      | setGolden caller pk => simp [hname]
      | runDriftDetection w user =>
        have hgolden := golden_of_orderly hinv h ht w user hname hthird
        simpa [hname, hthird] using hgolden

def startPool (d : DeviceId) (db : Platform) (requests : List GoldenRequest) : GoldenPool :=
  Pool.start (GoldenRequest.program d) db requests

theorem invariant_start {d : DeviceId} {db : Platform} {requests : List GoldenRequest}
    {original : ConfigSnapshotId} {s : ConfigSnapshot}
    (hgolden : goldenSnapshots db d = [(original, s)])
    (hdevice : ∀ r ∈ requests, OnDevice d db r) :
    Invariant d original (startPool d db requests) := by
  have hmarks : ∀ t ∈ (startPool d db requests).threads, ∃ r ∈ requests,
      t = ⟨r, 0, GoldenRequest.program d r⟩ := by
    intro t ht
    obtain ⟨r, hr, rfl⟩ := List.mem_map.mp ht
    exact ⟨r, hr, rfl⟩
  have hnone : ∀ r, pending ⟨r, 0, GoldenRequest.program d r⟩ = none ∧
      answered ⟨r, 0, GoldenRequest.program d r⟩ = none := by
    intro r
    cases r with
    | setGolden caller pk => exact ⟨rfl, rfl⟩
    | runDriftDetection w user => exact ⟨rfl, rfl⟩
  have hat : ∀ {f : GoldenThread → Option ConfigSnapshotId},
      (∀ r, f ⟨r, 0, GoldenRequest.program d r⟩ = none) →
      ∀ j : ℕ, (startPool d db requests).threads[j]?.bind f = none := by
    intro f hf j
    cases ht : (startPool d db requests).threads[j]? with
    | none => rfl
    | some t =>
      obtain ⟨r, -, rfl⟩ := hmarks t (List.mem_of_getElem? ht)
      exact hf r
  refine ⟨fun t ht => ?_, fun t ht => ?_, .settled original s ?_ hgolden (.inr ⟨rfl, ?_⟩)⟩
  · obtain ⟨r, -, rfl⟩ := hmarks t ht
    cases r with
    | setGolden caller pk => exact .requested caller pk
    | runDriftDetection w user => exact .drifting w user
  · obtain ⟨r, hr, rfl⟩ := hmarks t ht
    exact hdevice r hr
  · exact hat (fun r => (hnone r).1)
  · exact hat (fun r => (hnone r).2)

/-- Over every interleaving of `setGolden` requests and drift tasks on a device with one
golden snapshot in which every step is orderly, no drift task takes the branch without a
golden snapshot, and once all have finished there is one golden snapshot: one that a
request designated, or the original one when no request did. -/
theorem goldens_of_orderly_run (d : DeviceId) (db : Platform) (requests : List GoldenRequest)
    (original : ConfigSnapshotId) (s : ConfigSnapshot) (schedule : List ℕ)
    (hgolden : goldenSnapshots db d = [(original, s)])
    (hdevice : ∀ r ∈ requests, OnDevice d db r)
    (horderly : Meets Pool.step (fun c i => orderly c i = true) (startPool d db requests)
      schedule) :
    Meets Pool.step (fun c i => promotes d c i = false) (startPool d db requests) schedule ∧
    (((startPool d db requests).run schedule).Finished →
      ∃ pk s, goldenSnapshots ((startPool d db requests).run schedule).store d = [(pk, s)] ∧
        Chosen original ((startPool d db requests).run schedule) pk) := by
  have hstart := invariant_start hgolden hdevice
  refine ⟨meets_of_invariant invariant_step not_promotes_of_orderly hstart schedule horderly, ?_⟩
  intro hfinished
  have hinv : Invariant d original ((startPool d db requests).run schedule) :=
    invariant_of_meets invariant_step hstart schedule horderly
  cases hinv.goldens with
  | settled pk s hnone hgold hchosen => exact ⟨pk, s, hgold, hchosen⟩
  | moving pk hall hsome hgold =>
    obtain ⟨j, hj⟩ := hsome
    obtain ⟨t, ht, hp⟩ := Option.bind_eq_some_iff.mp hj
    have hdone := hfinished t (List.mem_of_getElem? ht)
    cases hname : t.name <;> simp [pending, hname, hdone] at hp

/-- The small platform with a golden snapshot of its device and a later one. -/
def labGolden : Platform := { lab with
  configSnapshots := (Table.empty.insert
    { device := 1, config := "a", isGolden := true, takenAt := 1 }).insert
    { device := 1, config := "b", takenAt := 2 } }

def labRequests : List GoldenRequest := [.setGolden (some 1) 2,
  .runDriftDetection ⟨.answering "c", fun _ => 3, fun _ _ _ _ _ => []⟩ none]

theorem onDevice_labRequests : ∀ r ∈ labRequests, OnDevice 1 labGolden r := by
  intro r hr caller pk hname s hs
  have hmem := (labGolden.configSnapshots.mem_rows_iff pk s).mpr hs
  simp only [labGolden, Table.insert, Table.empty, List.nil_append, List.cons_append,
    List.mem_cons, Prod.mk.injEq, List.not_mem_nil, or_false] at hmem
  rcases hmem with ⟨-, rfl⟩ | ⟨-, rfl⟩ <;> rfl

theorem goldens_of_labRequests :
    let schedule := [1, 0, 0, 0, 0, 1, 1, 1, 1]
    Meets Pool.step (fun c i => promotes 1 c i = false) (startPool 1 labGolden labRequests)
      schedule ∧
    (((startPool 1 labGolden labRequests).run schedule).Finished →
      ∃ pk s, goldenSnapshots ((startPool 1 labGolden labRequests).run schedule).store 1 =
          [(pk, s)] ∧ Chosen 1 ((startPool 1 labGolden labRequests).run schedule) pk) :=
  goldens_of_orderly_run 1 labGolden labRequests 1
    { device := 1, config := "a", isGolden := true, takenAt := 1 } _ rfl onDevice_labRequests
    (by decide)

/-- A drift task that reads between the clear and the save promotes what it has read. -/
theorem drift_promotes_between_clear_and_save :
    ¬ ∀ (d : DeviceId) (db : Platform) (requests : List GoldenRequest)
      (original : ConfigSnapshotId) (s : ConfigSnapshot) (schedule : List ℕ),
      goldenSnapshots db d = [(original, s)] → (∀ r ∈ requests, OnDevice d db r) →
      Meets Pool.step (fun c i => promotes d c i = false) (startPool d db requests) schedule ∧
      (((startPool d db requests).run schedule).Finished →
        ∃ pk s, goldenSnapshots ((startPool d db requests).run schedule).store d = [(pk, s)] ∧
          Chosen original ((startPool d db requests).run schedule) pk) := by
  intro h
  have hmeets := (h 1 labGolden labRequests 1
    { device := 1, config := "a", isGolden := true, takenAt := 1 } [0, 0, 0, 1, 1, 1] rfl
    onDevice_labRequests).1
  revert hmeets
  decide

end DevSecOpsPlatform.GoldenRaces
