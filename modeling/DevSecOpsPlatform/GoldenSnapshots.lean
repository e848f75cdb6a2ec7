import DevSecOpsPlatform.GuardedRuns
import DevSecOpsPlatform.SecurityTaskRuns

/-!
# The golden snapshots of a device over histories of operations

The operations that write `is_golden`, or that bring devices and remove them, each run
alone. `GoldenEffect` says all that one of them can do to the snapshot table, together
with the snapshot it designates golden; what the golden rows of a device are after it
follows. Two facts hold over histories: at most one golden row, as long as no snapshot
is taken as golden on top of another, and the agreement of the latest golden row with
the latest designation.
-/

namespace DevSecOpsPlatform.GoldenSnapshots

open KeyedTables StatementPrograms PlatformModels PlatformStore RolePermissions PythonValues
open NetmikoSessions SecurityTasks GuardedRuns

inductive GoldenOp where
  | createDevice (device : Device)
  | deleteDevice (id : DeviceId)
  | takeConfigSnapshot (w : SnapshotWorld) (deviceId : DeviceId) (golden : Bool)
      (initiatedBy : Option UserId)
  | setGolden (caller : Option UserId) (pk : ConfigSnapshotId)
  | runDriftDetection (w : DriftWorld) (deviceId : DeviceId) (initiatedBy : Option UserId)

def GoldenOp.apply (db : Platform) : GoldenOp → Platform
  | .createDevice device => ((Device.create device).run db).2
  | .deleteDevice id => ((Device.delete id).run db).2
  | .takeConfigSnapshot w d golden user =>
    ((SecurityTasks.takeConfigSnapshot w d golden user).run db).2
  | .setGolden caller pk => ((SecurityTasks.setGolden caller pk).run db).2
  | .runDriftDetection w d user => ((SecurityTasks.runDriftDetection w d user).run db).2

/-- The device and the snapshot that an operation designates golden, read off its outcome. -/
def GoldenOp.designation (db : Platform) : GoldenOp → Option (DeviceId × ConfigSnapshotId)
  | .createDevice _ | .deleteDevice _ => none
  | .takeConfigSnapshot w d golden user =>
    match ((SecurityTasks.takeConfigSnapshot w d golden user).run db).1 with
    -- `{"snapshot_id": n, "is_golden": true}`
    | .ok (.obj [(_, .int n), (_, .bool true)]) => some (d, n.toNat)
    | _ => none
  | .setGolden caller pk =>
    match ((SecurityTasks.setGolden caller pk).run db).1 with
    | .ok _ => (db.configSnapshots.get? pk).map (fun s => (s.device, pk))
    | .error _ => none
  | .runDriftDetection w d user =>
    match ((SecurityTasks.runDriftDetection w d user).run db).1 with
    -- `{"status": "clean", "note": "golden config initialized"}`
    | .ok (.obj [_, (_, .str _)]) => some (d, db.configSnapshots.nextId)
    | _ => none

/-- The `taken_at` of the snapshot that the operation may insert. -/
def GoldenOp.takenAt : GoldenOp → Option DateTime
  | .takeConfigSnapshot w _ _ _ => some (w.clock 0)
  | .runDriftDetection w _ _ => some (w.clock 0)
  | _ => none

/-- The device an operation is about. -/
def GoldenOp.device (db : Platform) : GoldenOp → Option DeviceId
  | .createDevice _ => none
  | .deleteDevice id => some id
  | .takeConfigSnapshot _ d _ _ => some d
  | .setGolden _ pk => (db.configSnapshots.get? pk).map (·.device)
  | .runDriftDetection _ d _ => some d

/-- The operation takes a snapshot as golden without unsetting another. -/
def GoldenOp.takesGolden : GoldenOp → Bool
  | .takeConfigSnapshot _ _ golden _ => golden
  | _ => false

/-! ### What one operation does to the snapshots -/

/-- All that an operation can do: the snapshot it designates and the table it leaves. -/
inductive GoldenEffect (db : Platform) (op : GoldenOp) :
    Option (DeviceId × ConfigSnapshotId) → Table ConfigSnapshot → Prop where
  | unchanged : GoldenEffect db op none db.configSnapshots
  | deleted (id : DeviceId) (hd : op.device db = some id) :
      GoldenEffect db op none (db.configSnapshots.deleteWhere (fun _ s => s.device == id))
  | captured (s : ConfigSnapshot) (hd : op.device db = some s.device) (hs : s.isGolden = false)
      (ht : op.takenAt = some s.takenAt) :
      GoldenEffect db op none (db.configSnapshots.insert s)
  | added (s : ConfigSnapshot) (hd : op.device db = some s.device) (hs : s.isGolden = true)
      (ht : op.takenAt = some s.takenAt)
      (hfirst : op.takesGolden = true ∨ goldenSnapshots db s.device = []) :
      GoldenEffect db op (some (s.device, db.configSnapshots.nextId)) (db.configSnapshots.insert s)
  | redesignated (pk : ConfigSnapshotId) (s : ConfigSnapshot)
      (hd : op.device db = some s.device) (hget : db.configSnapshots.get? pk = some s) :
      GoldenEffect db op (some (s.device, pk))
        (SecurityTasks.redesignated s.device pk db).configSnapshots

private theorem effect_take (w : SnapshotWorld) (d : DeviceId) (golden : Bool)
    (user : Option UserId) (db : Platform) :
    GoldenEffect db (.takeConfigSnapshot w d golden user)
      (GoldenOp.designation db (.takeConfigSnapshot w d golden user))
      (GoldenOp.apply db (.takeConfigSnapshot w d golden user)).configSnapshots := by
  simp only [GoldenOp.designation, GoldenOp.apply]
  rw [run_takeConfigSnapshot]
  cases db.devices.get? d with
  | none => exact .unchanged
  | some device =>
    dsimp only
    cases getRunningConfig w.session device with
    | error exc => exact .unchanged
    | ok config =>
      dsimp only
      cases storable [config] with
      | false => exact .unchanged
      | true =>
        cases refersToOrNull db.users user with
        | false => exact .unchanged
        | true =>
          cases golden with
          | false => exact .captured (takenSnapshot w d false user config) rfl rfl rfl
          | true => exact .added (takenSnapshot w d true user config) rfl rfl rfl (.inl rfl)

/-- The row of a snapshot that was promoted. -/
def initialGolden (s : ConfigSnapshot) : ConfigSnapshot :=
  { s with isGolden := true, comment := "Auto-set as initial golden" }

private theorem promoted_configSnapshots (w : DriftWorld) (d : DeviceId) (s : ConfigSnapshot)
    (db : Platform) :
    (promoted w d db.configSnapshots.nextId
      { db with configSnapshots := db.configSnapshots.insert s }).configSnapshots =
      db.configSnapshots.insert (initialGolden s) := by
  simp only [promoted]
  exact Table.update_insert_nextId _ _ _

private theorem effect_drift (w : DriftWorld) (d : DeviceId) (user : Option UserId)
    (db : Platform) :
    GoldenEffect db (.runDriftDetection w d user)
      (GoldenOp.designation db (.runDriftDetection w d user))
      (GoldenOp.apply db (.runDriftDetection w d user)).configSnapshots := by
  simp only [GoldenOp.designation, GoldenOp.apply]
  rw [run_runDriftDetection]
  cases db.devices.get? d with
  | none => exact .unchanged
  | some device =>
    dsimp only
    cases getRunningConfig w.session device with
    | error exc =>
      simp only
      cases storable [exc.message] <;> exact .unchanged
    | ok config =>
      dsimp only
      cases storable [config] with
      | false => exact .unchanged
      | true =>
        cases refersToOrNull db.users user with
        | false => exact .unchanged
        | true =>
          have hsame := goldenSnapshots_captured db (currentSnapshot w d user config) rfl d
          simp only [if_true]
          cases hg : latestGolden d { db with
              configSnapshots := db.configSnapshots.insert (currentSnapshot w d user config) } with
          | some golden =>
            dsimp only
            cases storable [storedDiff (driftLines w golden.2 config)] <;>
              exact .captured (currentSnapshot w d user config) rfl rfl rfl
          | none =>
            have hnone : goldenSnapshots db d = [] := hsame ▸ latestTaken_eq_none.mp hg
            have heff : GoldenEffect db (.runDriftDetection w d user)
                (some (d, db.configSnapshots.nextId))
                (db.configSnapshots.insert (initialGolden (currentSnapshot w d user config))) :=
              .added (initialGolden (currentSnapshot w d user config)) rfl rfl rfl (.inr hnone)
            rw [← promoted_configSnapshots w d] at heff
            exact heff

private theorem effect_setGolden (caller : Option UserId) (pk : ConfigSnapshotId) (db : Platform) :
    GoldenEffect db (.setGolden caller pk) (GoldenOp.designation db (.setGolden caller pk))
      (GoldenOp.apply db (.setGolden caller pk)).configSnapshots := by
  simp only [GoldenOp.designation, GoldenOp.apply]
  rw [run_setGolden]
  cases authenticate caller db with
  | none => exact .unchanged
  | some u =>
    dsimp only
    cases isAdminOrNetworkEngineer (some u) with
    | false => exact .unchanged
    | true =>
      cases hs : snapshotWithDevice pk db with
      | none => exact .unchanged
      | some r =>
        have hget : db.configSnapshots.get? pk = some r.1 ∧ _ := snapshotWithDevice_eq_some.mp hs
        simp only [hget.1, if_true, Option.map_some]
        exact .redesignated pk r.1 (by simp [GoldenOp.device, hget.1]) hget.1

theorem GoldenOp.effect (db : Platform) (op : GoldenOp) :
    GoldenEffect db op (op.designation db) (op.apply db).configSnapshots := by
  cases op with
  | createDevice device =>
    have hsame : ((Device.create device).run db).2.configSnapshots = db.configSnapshots := by
      rw [Device.create, insertRow, Program.run_statement]
      split <;> rename_i h <;> split at h <;> cases h <;> rfl
    simpa only [designation, apply, hsame] using GoldenEffect.unchanged
  | deleteDevice id => exact .deleted id rfl
  | takeConfigSnapshot w d golden user => exact effect_take w d golden user db
  | setGolden caller pk => exact effect_setGolden caller pk db
  | runDriftDetection w d user => exact effect_drift w d user db

/-! ### The golden rows of a device after one operation -/

def goldenRows (t : Table ConfigSnapshot) (d : DeviceId) :
    List (ConfigSnapshotId × ConfigSnapshot) :=
  t.select (fun _ s => s.device == d && s.isGolden)

theorem goldenRows_insert (t : Table ConfigSnapshot) (s : ConfigSnapshot) (d : DeviceId) :
    goldenRows (t.insert s) d =
      goldenRows t d ++ if s.device == d && s.isGolden then [(t.nextId, s)] else [] :=
  Table.select_insert _ _ _

theorem goldenRows_deleteWhere (t : Table ConfigSnapshot) (id d : DeviceId) :
    goldenRows (t.deleteWhere (fun _ s => s.device == id)) d =
      if d = id then [] else goldenRows t d := by
  unfold goldenRows
  rw [Table.select_deleteWhere]
  split
  · rename_i h
    refine Table.select_eq_nil.mpr (fun pk s _ => ?_)
    cases hd : s.device == d <;> simp_all
  · rename_i h
    refine Table.select_congr (fun pk s _ => ?_)
    cases hd : s.device == d <;> simp_all

theorem goldenRows_redesignated {pk : ConfigSnapshotId} {s : ConfigSnapshot} {db : Platform}
    (hget : db.configSnapshots.get? pk = some s) (d : DeviceId) :
    goldenRows (redesignated s.device pk db).configSnapshots d =
      if d = s.device then [(pk, { s with isGolden := true })]
      else goldenRows db.configSnapshots d := by
  unfold goldenRows redesignated unsetGolden Table.update Table.updateWhere
  rw [Table.mapRows_mapRows]
  dsimp only
  split
  · -- of the device's rows, all but the one that was named have lost the flag
    rename_i hd
    rw [Table.select_mapRows_key hget]
    · by_cases hg : s.isGolden = true <;> simp [hg]
    · intro k a ha
      by_cases hk : k = pk
      · cases hk
        obtain rfl := Option.some.inj (hget.symm.trans ha)
        by_cases hg : s.isGolden = true <;> simp [hg, hd]
      · by_cases hg : a.isGolden = true <;> by_cases hdev : a.device = s.device <;>
          simp [hg, hdev, hk, hd]
  · -- the rows of another device keep their flags
    rename_i hd
    refine Table.select_mapRows_eq_self (fun k a ha => ?_) (fun k a ha hsel => ?_)
    · by_cases hk : k = pk
      · cases hk
        obtain rfl := Option.some.inj (hget.symm.trans ha)
        by_cases hg : s.isGolden = true <;> simp [hg, Ne.symm hd]
      · by_cases hg : a.isGolden = true <;> by_cases hdev : a.device = s.device <;>
          simp [hg, hdev, hk, Ne.symm hd]
    · have hdev : ¬s.device = d := Ne.symm hd
      obtain ⟨rfl, hg⟩ : a.device = d ∧ a.isGolden = true := by simpa using hsel
      have hk : k ≠ pk := by
        rintro rfl
        exact hdev (congrArg ConfigSnapshot.device (Option.some.inj (hget.symm.trans ha)))
      simp [hk, Ne.symm hdev]

theorem mem_goldenRows {t : Table ConfigSnapshot} {d : DeviceId} {pk : ConfigSnapshotId}
    {s : ConfigSnapshot} (h : (pk, s) ∈ goldenRows t d) :
    t.get? pk = some s ∧ s.device = d ∧ s.isGolden = true := by
  simpa [goldenRows, Table.mem_select] using h

/-- The golden rows of a device after an operation: as they were, none, those before with
one more, or the one row that was named. -/
theorem GoldenEffect.goldenRows_cases {db : Platform} {op : GoldenOp}
    {designated : Option (DeviceId × ConfigSnapshotId)} {t : Table ConfigSnapshot}
    (h : GoldenEffect db op designated t) (d : DeviceId) :
    (goldenRows t d = goldenSnapshots db d ∧ ∀ pk, designated ≠ some (d, pk)) ∨
    (goldenRows t d = [] ∧ op.device db = some d) ∨
    (∃ s, goldenRows t d = goldenSnapshots db d ++ [(db.configSnapshots.nextId, s)] ∧
      op.device db = some d ∧ op.takenAt = some s.takenAt ∧
      designated = some (d, db.configSnapshots.nextId) ∧
      (op.takesGolden = true ∨ goldenSnapshots db d = [])) ∨
    (∃ pk s, goldenRows t d = [(pk, s)] ∧ op.device db = some d ∧ designated = some (d, pk)) := by
  cases h with
  | unchanged => exact .inl ⟨rfl, by simp⟩
  | deleted id hd =>
    rw [goldenRows_deleteWhere]
    by_cases h : d = id
    · exact .inr (.inl ⟨if_pos h, h ▸ hd⟩)
    · exact .inl ⟨if_neg h, by simp⟩
  | captured s hd hs ht =>
    refine .inl ⟨?_, by simp⟩
    rw [goldenRows_insert]
    simp [hs, goldenRows, goldenSnapshots]
  | added s hd hs ht hfirst =>
    rw [goldenRows_insert]
    by_cases h : s.device = d
    · subst h
      exact .inr (.inr (.inl ⟨s, by simp [hs, goldenRows, goldenSnapshots], hd, ht, rfl, hfirst⟩))
    · exact .inl ⟨by simp [h, goldenRows, goldenSnapshots], by simp [h]⟩
  | redesignated pk s hd hget =>
    rw [goldenRows_redesignated hget]
    by_cases h : d = s.device
    · subst h
      exact .inr (.inr (.inr ⟨pk, _, if_pos rfl, hd, rfl⟩))
    · exact .inl ⟨if_neg h, by simp [Ne.symm h]⟩

/-! ### At most one golden snapshot -/

def AtMostOneGolden (db : Platform) : Prop := ∀ d, (goldenSnapshots db d).length ≤ 1

/-- The operation takes no golden snapshot of a device that has one. -/
def GoldenOp.Allowed (db : Platform) (op : GoldenOp) : Prop :=
  op.takesGolden = true → ∀ d pk, op.designation db = some (d, pk) → goldenSnapshots db d = []

theorem atMostOneGolden_apply (db : Platform) (op : GoldenOp) (h : AtMostOneGolden db)
    (hallowed : op.Allowed db) : AtMostOneGolden (op.apply db) := by
  intro d
  change (goldenRows (op.apply db).configSnapshots d).length ≤ 1
  rcases (op.effect db).goldenRows_cases d with
    ⟨he, -⟩ | ⟨he, -⟩ | ⟨s, he, -, -, hdes, hfirst⟩ | ⟨pk, s, he, -⟩
  · rw [he]
    exact h d
  · simp [he]
  · have hnone : goldenSnapshots db d = [] := hfirst.elim (fun ht => hallowed ht d _ hdes) id
    simp [he, hnone]
  · simp [he]

/-- Two snapshots taken as golden leave a device with two golden rows. -/
theorem not_atMostOneGolden_two_takes :
    ¬ ∀ ops, AtMostOneGolden (runFrom GoldenOp.apply {} ops) := by
  intro h
  have htwo := h [.createDevice labDevice,
    .takeConfigSnapshot ⟨.answering "a", fun _ => 1⟩ 1 true none,
    .takeConfigSnapshot ⟨.answering "b", fun _ => 2⟩ 1 true none] 1
  revert htwo
  decide

/-- A device has at most one golden snapshot after every history that takes none as golden
while the device has one. -/
theorem atMostOneGolden_run (db : Platform) (h : AtMostOneGolden db) (ops : List GoldenOp)
    (hallowed : Meets GoldenOp.apply GoldenOp.Allowed db ops) :
    AtMostOneGolden (runFrom GoldenOp.apply db ops) :=
  invariant_of_meets atMostOneGolden_apply h ops hallowed

theorem atMostOneGolden_take_then_redesignate :
    AtMostOneGolden (runFrom GoldenOp.apply lab [
      .takeConfigSnapshot ⟨.answering "a", fun _ => 1⟩ 1 true none,
      .takeConfigSnapshot ⟨.answering "b", fun _ => 2⟩ 1 false none, .setGolden (some 1) 2]) :=
  atMostOneGolden_run lab (by intro d; exact Nat.zero_le 1) _ (by
    refine ⟨fun _ d pk _ => rfl, fun h => by simp [GoldenOp.takesGolden] at h,
      fun h => by simp [GoldenOp.takesGolden] at h, trivial⟩)

/-! ### The latest golden snapshot is the one designated last -/

/-- A store with the snapshot that was last designated golden for each device. -/
structure History where
  store : Platform
  designated : DeviceId → Option ConfigSnapshotId

def History.step (h : History) (op : GoldenOp) : History where
  store := op.apply h.store
  designated := match op.designation h.store with
    | some (d, pk) => Function.update h.designated d (some pk)
    | none => h.designated

/-- The golden rows of the device are none, or one of them is the designated snapshot and
the others were taken before it. -/
def History.Agrees (h : History) (d : DeviceId) : Prop :=
  goldenSnapshots h.store d = [] ∨ ∃ pk s, h.designated d = some pk ∧
    (pk, s) ∈ goldenSnapshots h.store d ∧
    ∀ r ∈ goldenSnapshots h.store d, r = (pk, s) ∨ r.2.takenAt < s.takenAt

def TakenBefore (t : Table ConfigSnapshot) (now : DateTime) : Prop :=
  ∀ pk s, t.get? pk = some s → s.takenAt < now

theorem latestTaken_eq_of_max {rows : List (ConfigSnapshotId × ConfigSnapshot)}
    {g : ConfigSnapshotId × ConfigSnapshot} (hg : g ∈ rows)
    (hmax : ∀ r ∈ rows, r = g ∨ r.2.takenAt < g.2.takenAt) : latestTaken rows = some g := by
  induction rows with
  | nil => cases hg
  | cons r rows ih =>
    simp only [latestTaken]
    by_cases hin : g ∈ rows
    · rw [ih hin (fun r hr => hmax r (List.mem_cons_of_mem _ hr))]
      rcases hmax r List.mem_cons_self with rfl | hlt
      · simp
      · simp [hlt]
    · obtain rfl : g = r := (List.mem_cons.mp hg).resolve_right hin
      cases ht : latestTaken rows with
      | none => rfl
      | some t =>
        have hmem := get?_of_latestTaken ht
        have hlt := (hmax t (List.mem_cons_of_mem _ hmem)).resolve_left (fun h => hin (h ▸ hmem))
        simp [not_lt_of_gt hlt]

theorem History.Agrees.latestGolden {h : History} {d : DeviceId} (hagrees : h.Agrees d)
    (hne : goldenSnapshots h.store d ≠ []) :
    ∃ pk s, h.designated d = some pk ∧ (pk, s) ∈ goldenSnapshots h.store d ∧
      SecurityTasks.latestGolden d h.store = some (pk, s) := by
  obtain ⟨pk, s, hdes, hmem, hmax⟩ := hagrees.resolve_left hne
  exact ⟨pk, s, hdes, hmem, latestTaken_eq_of_max hmem hmax⟩

theorem History.agrees_step (h : History) (op : GoldenOp) (hagrees : ∀ d, h.Agrees d)
    (hclock : ∀ now, op.takenAt = some now → TakenBefore h.store.configSnapshots now)
    (d : DeviceId) :
    (h.step op).Agrees d := by
  have hsame : ∀ pk, op.designation h.store = some (d, pk) →
      (h.step op).designated d = some pk := by
    intro pk hdes
    simp [History.step, hdes]
  unfold Agrees
  change goldenRows (op.apply h.store).configSnapshots d = [] ∨ ∃ pk s, _ ∧
    (pk, s) ∈ goldenRows (op.apply h.store).configSnapshots d ∧
    ∀ r ∈ goldenRows (op.apply h.store).configSnapshots d, _
  rcases (op.effect h.store).goldenRows_cases d with
    ⟨he, hdes⟩ | ⟨he, -⟩ | ⟨s, he, -, ht, hdes, -⟩ | ⟨pk, s, he, -, hdes⟩
  · have hkeep : (h.step op).designated d = h.designated d := by
      cases hd : op.designation h.store with
      | none => simp only [History.step, hd]
      | some r =>
        have hne : d ≠ r.1 := by
          rintro rfl
          exact hdes r.2 hd
        simp only [History.step, hd, Function.update_of_ne hne]
    rw [he, hkeep]
    exact hagrees d
  · exact .inl he
  · -- the new row was taken after every row there was
    refine .inr ⟨_, s, hsame _ hdes, by simp [he], fun r hr => ?_⟩
    rw [he] at hr
    rcases List.mem_append.mp hr with hr | hr
    · exact .inr (hclock _ ht r.1 r.2 (mem_goldenRows hr).1)
    · exact .inl (List.mem_singleton.mp hr)
  · exact .inr ⟨pk, s, hsame pk hdes, by simp [he], fun r hr => .inl (by simpa [he] using hr)⟩

/-- The capture time of a row after an operation is the row's from before, or that of the
operation. -/
theorem GoldenEffect.takenAt_cases {db : Platform} {op : GoldenOp}
    {designated : Option (DeviceId × ConfigSnapshotId)} {t : Table ConfigSnapshot}
    (h : GoldenEffect db op designated t) {pk : ConfigSnapshotId} {s : ConfigSnapshot}
    (hs : t.get? pk = some s) :
    (∃ s₀, db.configSnapshots.get? pk = some s₀ ∧ s.takenAt = s₀.takenAt) ∨
      op.takenAt = some s.takenAt := by
  have hinsert : ∀ r : ConfigSnapshot, op.takenAt = some r.takenAt →
      (db.configSnapshots.insert r).get? pk = some s →
      (∃ s₀, db.configSnapshots.get? pk = some s₀ ∧ s.takenAt = s₀.takenAt) ∨
        op.takenAt = some s.takenAt := by
    intro r ht hs
    rw [Table.get?_insert] at hs
    split at hs
    · cases hs
      exact .inr ht
    · exact .inl ⟨s, hs, rfl⟩
  cases h with
  | unchanged => exact .inl ⟨s, hs, rfl⟩
  | deleted id hd =>
    rw [Table.get?_deleteWhere, Option.filter_eq_some_iff] at hs
    exact .inl ⟨s, hs.1, rfl⟩
  | captured r hd hg ht => exact hinsert r ht hs
  | added r hd hg ht hfirst => exact hinsert r ht hs
  | redesignated key r hd hget =>
    simp only [SecurityTasks.redesignated, unsetGolden, Table.update, Table.updateWhere,
      Table.get?_mapRows, Option.map_map, Option.map_eq_some_iff, Function.comp_apply] at hs
    obtain ⟨s₀, hs₀, rfl⟩ := hs
    refine .inl ⟨s₀, hs₀, ?_⟩
    split <;> split <;> rfl

theorem takenBefore_apply {db : Platform} {op : GoldenOp} {now : DateTime}
    (hbefore : TakenBefore db.configSnapshots now)
    (hop : ∀ t, op.takenAt = some t → t < now) : TakenBefore (op.apply db).configSnapshots now := by
  intro pk s hs
  rcases (op.effect db).takenAt_cases hs with ⟨s₀, hs₀, ht⟩ | ht
  · exact ht ▸ hbefore pk s₀ hs₀
  · exact hop _ ht

/-- Along a history whose capture times increase, the golden rows of every device agree
with its last designation. -/
theorem History.agrees_run (h : History) (ops : List GoldenOp) (hagrees : ∀ d, h.Agrees d)
    (hstart : ∀ now ∈ ops.filterMap GoldenOp.takenAt, TakenBefore h.store.configSnapshots now)
    (hclock : (ops.filterMap GoldenOp.takenAt).Pairwise (· < ·)) (d : DeviceId) :
    (runFrom History.step h ops).Agrees d := by
  induction ops generalizing h with
  | nil => exact hagrees d
  | cons op ops ih =>
    have hnow : ∀ now, op.takenAt = some now →
        now ∈ (op :: ops).filterMap GoldenOp.takenAt ∧
          ∀ later ∈ ops.filterMap GoldenOp.takenAt, now < later := by
      intro now ht
      rw [List.filterMap_cons_some ht] at hclock ⊢
      exact ⟨List.mem_cons_self, (List.pairwise_cons.mp hclock).1⟩
    have hlater : ∀ later ∈ ops.filterMap GoldenOp.takenAt,
        later ∈ (op :: ops).filterMap GoldenOp.takenAt := by
      intro later hl
      obtain ⟨o, ho, ht⟩ := List.mem_filterMap.mp hl
      exact List.mem_filterMap.mpr ⟨o, List.mem_cons_of_mem _ ho, ht⟩
    refine ih (h.step op) ?_ ?_ ?_
    · exact h.agrees_step op hagrees (fun now ht => hstart now (hnow now ht).1)
    · intro later hl
      exact takenBefore_apply (hstart later (hlater later hl))
        (fun now ht => (hnow now ht).2 later hl)
    · exact hclock.sublist ((List.sublist_cons_self op ops).filterMap _)

/-- An operation that is not about a device leaves the golden snapshot it selects. -/
theorem latestGolden_apply_of_ne {db : Platform} {op : GoldenOp} {d : DeviceId}
    (h : op.device db ≠ some d) : latestGolden d (op.apply db) = latestGolden d db := by
  rcases (op.effect db).goldenRows_cases d with
    ⟨he, -⟩ | ⟨-, hd⟩ | ⟨s, -, hd, -⟩ | ⟨pk, s, -, hd, -⟩
  · exact congrArg latestTaken he
  all_goals exact absurd hd h

/-- Drift detection compares with the snapshot that was designated golden last: over any
history with increasing capture times that starts without snapshots, a task that reads the
configuration of a device with a golden snapshot selects the last designated one, reports
against it unless a text to be stored has a NUL character, and operations on other devices do
not change the selection. -/
theorem runDriftDetection_selects_last_designated (db : Platform)
    (hempty : db.configSnapshots.rows = []) (ops : List GoldenOp)
    (hclock : (ops.filterMap GoldenOp.takenAt).Pairwise (· < ·)) (d : DeviceId) :
    let h := runFrom History.step ⟨db, fun _ => none⟩ ops
    (∀ (w : DriftWorld) (user : Option UserId) (device : Device) (config : String),
      h.store.devices.get? d = some device →
      getRunningConfig w.session device = .ok config → goldenSnapshots h.store d ≠ [] →
      let read : Platform := { h.store with
        configSnapshots := h.store.configSnapshots.insert (currentSnapshot w d user config) }
      ∃ pk s, h.designated d = some pk ∧ h.store.configSnapshots.get? pk = some s ∧
        latestGolden d read = some (pk, s) ∧
        (refersToOrNull h.store.users user = true →
          (runDriftDetection w d user).run h.store =
            if storable [config] then
              if storable [storedDiff (driftLines w s config)] then
                (.ok (driftJson (driftLines w s config)),
                  compared w d user h.store.configSnapshots.nextId pk (driftLines w s config) read)
              else (.error nulTextError, read)
            else (.error nulTextError, h.store))) ∧
    ∀ op : GoldenOp, op.device h.store ≠ some d →
      latestGolden d (op.apply h.store) = latestGolden d h.store := by
  intro h
  have hnone : ∀ pk, db.configSnapshots.get? pk = none := by
    intro pk
    simp [Table.get?, hempty]
  have hagrees : h.Agrees d := by
    refine History.agrees_run _ ops (fun d => .inl ?_) (fun now _ pk s hs => ?_) hclock d
    · simp [goldenSnapshots, Table.select, hempty]
    · simp [hnone] at hs
  refine ⟨fun w user device config hdev hconf hne => ?_, fun op hop => latestGolden_apply_of_ne hop⟩
  obtain ⟨pk, s, hdes, hmem, hlatest⟩ := hagrees.latestGolden hne
  have hsel : latestGolden d { h.store with
      configSnapshots := h.store.configSnapshots.insert (currentSnapshot w d user config) } =
        some (pk, s) := by
    rw [← hlatest]
    exact congrArg latestTaken (goldenSnapshots_captured h.store _ rfl d)
  refine ⟨pk, s, hdes, (mem_goldenRows hmem).1, hsel, fun huser => ?_⟩
  rw [run_runDriftDetection]
  simp only [hdev, hconf, huser, if_true, hsel]

/-- Designating an older snapshot again makes it the baseline. -/
theorem runDriftDetection_selects_redesignated :
    let h := runFrom History.step ⟨lab, fun _ => none⟩ [
      .takeConfigSnapshot ⟨.answering "a", fun _ => 1⟩ 1 false none,
      .takeConfigSnapshot ⟨.answering "b", fun _ => 2⟩ 1 true none, .setGolden (some 1) 1]
    let w : DriftWorld := ⟨.answering "c", fun _ => 3, fun _ _ _ _ _ => []⟩
    ∃ pk s, h.designated 1 = some pk ∧ h.store.configSnapshots.get? pk = some s ∧
      latestGolden 1 { h.store with
        configSnapshots := h.store.configSnapshots.insert (currentSnapshot w 1 none "c") } =
          some (pk, s) ∧
      (refersToOrNull h.store.users none = true →
        (runDriftDetection w 1 none).run h.store =
          if storable ["c"] then
            if storable [storedDiff (driftLines w s "c")] then
              (.ok (driftJson (driftLines w s "c")), compared w 1 none
                h.store.configSnapshots.nextId pk (driftLines w s "c") { h.store with
                  configSnapshots :=
                    h.store.configSnapshots.insert (currentSnapshot w 1 none "c") })
            else (.error nulTextError, { h.store with
              configSnapshots := h.store.configSnapshots.insert (currentSnapshot w 1 none "c") })
          else (.error nulTextError, h.store)) :=
  (runDriftDetection_selects_last_designated lab rfl [
      .takeConfigSnapshot ⟨.answering "a", fun _ => 1⟩ 1 false none,
      .takeConfigSnapshot ⟨.answering "b", fun _ => 2⟩ 1 true none, .setGolden (some 1) 1]
    (by decide) 1).1 _ none labDevice "c" rfl rfl (by decide)

end DevSecOpsPlatform.GoldenSnapshots
