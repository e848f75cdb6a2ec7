import DevSecOpsPlatform.LoggedPrograms
import DevSecOpsPlatform.PlatformChanges
import Mathlib.Data.List.Induction
import Mathlib.Tactic.IntervalCases

/-!
# Partial updates against background writers

A PATCH loads a row and later saves all of its columns, while `check_device_reachability`
writes the status of devices and `alertmanager_webhook` the alerts. The background writers
record in a log the rows that they write. A PATCH that saves while the stored row still has
the columns that it loaded reverts none of them; otherwise it writes back what it loaded.
-/

namespace DevSecOpsPlatform.BackgroundWrites

open KeyedTables StatementPrograms PlatformModels PlatformStore RolePermissions PythonValues
open IpAddresses InventoryTasks InventoryViews AlertManagerPayloads MonitoringViews
open AlertUpserts ProgramInterleaving PlatformOperations PlatformChanges

/-! ### The writers, with their writes recorded -/

/-- A row that a background writer wrote, as it left it. -/
inductive Written where
  | device (id : DeviceId) (row : Device)
  | alert (id : AlertId) (row : Alert)

def Written.deviceRow (id : DeviceId) : Written → Option Device
  | device k row => if k = id then some row else none
  | alert _ _ => none

def Written.alertRow (id : AlertId) : Written → Option Alert
  | alert k row => if k = id then some row else none
  | device _ _ => none

abbrev Tracked := Platform × List Written

/-- The requests and tasks that write the same rows: PATCH on a device and its reachability
check, PATCH on an alert and the webhook. -/
inductive Writer where
  | patchDevice (caller : Option UserId) (now : DateTime) (id : DeviceId) (data : DeviceData)
  | checkDevice (net : Network) (id : DeviceId)
  | patchAlert (caller : Option UserId) (id : AlertId) (patch : AlertPatch)
  | webhook (w : WebhookWorld) (body : Json)

def Writer.operation : Writer → Operation
  | patchDevice caller now id data => .updateDevice caller .patch now id data
  | checkDevice net id => .checkDeviceReachability net id
  | patchAlert caller id patch => .partialUpdateAlert caller id patch
  | webhook w body => .alertmanagerWebhook w body

/-- The device as the check left it. -/
def deviceNote (id : DeviceId) (db : Platform) : List Written :=
  ((db.devices.get? id).map (Written.device id)).toList

/-- The alerts that have the fingerprint. -/
def alertNote (fingerprint : String) (db : Platform) : List Written :=
  (rowsWith db.alerts fingerprint).map fun r => .alert r.1 r.2

/-- `Device.objects.filter(pk=device_id).update(status=new_status)`. -/
def setStatus (id : DeviceId) (status : DeviceStatus) : Statement Unit :=
  .execute fun db => { db with
    devices := db.devices.update id (fun d => { d with status := status }) }

def trackedCheck (net : Network) (deviceId : DeviceId) : Program Tracked Exn Json := do
  let device ← (Device.get deviceId).logged
  let reachable ← Program.ofExcept (ping net device.ipAddress.text)
  let newStatus : DeviceStatus := if reachable then .online else .offline
  (setStatus deviceId newStatus).noted (deviceNote deviceId)
  return .obj [("device_id", .nat deviceId), ("status", .str newStatus.value)]

def trackedAlert (w : WebhookWorld) (k : ℕ) (raw : List (String × Json)) :
    Program Tracked Exn Bool := do
  let input ← Program.ofExcept (alertInput raw)
  let device ← (firstDevice input.ip).logged
  let d ← Program.ofExcept (alertDefaults w raw input device)
  (Alert.updateOrCreate w (w.clock k) input.fingerprint d).noted fun db =>
    match charColumn w.pyStr 64 input.fingerprint with
    | .ok fingerprint => alertNote fingerprint db
    | .error _ => []

def trackedAlerts (w : WebhookWorld) :
    ℕ → List (List (String × Json)) → Program Tracked Exn ℕ
  | _, [] => return 0
  | k, raw :: raws => do
    let created ← trackedAlert w k raw
    let count ← trackedAlerts w (k + 1) raws
    return count + created.toNat

def trackedWebhook (w : WebhookWorld) (body : Json) : Program Tracked Exn Response :=
  match validatePayload body with
  | .error errors => return ⟨400, errors⟩
  | .ok alerts => do
    let created ← trackedAlerts w 0 alerts
    return ⟨200, .obj [("received", .nat alerts.length), ("created", .nat created)]⟩

def Writer.program : Writer → Program Tracked Exn Json
  | checkDevice net id => trackedCheck net id
  | webhook w body => trackedWebhook w body >>= fun response => return response.data
  | r => r.operation.program.logged

abbrev startTracked (store : Platform) (writers : List Writer) : Pool Writer Tracked Exn Json :=
  Pool.start Writer.program (store, []) writers

/-! ### The operations behind the writers -/

theorem erases_trackedCheck (net : Network) (id : DeviceId) :
    (trackedCheck net id).Erases (checkDeviceReachability net id) := by
  refine (Program.erases_logged _).bind fun device => (Program.erases_ofExcept _).bind fun up => ?_
  exact (Program.erases_noted_execute _ _).bind fun _ => .ret _

theorem erases_trackedAlerts (w : WebhookWorld) (k : ℕ) (raws : List (List (String × Json))) :
    (trackedAlerts w k raws).Erases (processAlerts w k raws) := by
  induction raws generalizing k with
  | nil => exact .ret _
  | cons raw raws ih =>
    refine Program.Erases.bind ?_ fun created => (ih (k + 1)).bind fun count => .ret _
    refine (Program.erases_ofExcept _).bind fun input => (Program.erases_logged _).bind fun d => ?_
    exact (Program.erases_ofExcept _).bind fun d => Program.erases_noted_statement _ _

theorem erases_program (r : Writer) : r.program.Erases r.operation.program := by
  cases r with
  | checkDevice net id => exact erases_trackedCheck net id
  | webhook w body =>
    refine Program.Erases.bind ?_ fun response => .ret _
    unfold trackedWebhook MonitoringViews.alertmanagerWebhook
    cases validatePayload body with
    | error errors => exact .ret _
    | ok alerts => exact (erases_trackedAlerts w 0 alerts).bind fun created => .ret _
  | patchDevice caller now id data => exact Program.erases_logged _
  | patchAlert caller id patch => exact Program.erases_logged _

/-- Without the notes, a run of the writers is a run of their operations. -/
theorem store_run (store : Platform) (writers : List Writer) (schedule : List ℕ) :
    ∃ erased, erased.Sublist schedule ∧
      ((Pool.start (fun r : Writer => r.operation.program) store writers).run erased).store =
        ((startTracked store writers).run schedule).store.1 := by
  obtain ⟨erased, hsub, hrun⟩ := (Pool.erases_start erases_program store [] writers).run schedule
  exact ⟨erased, hsub, hrun.store⟩

/-! ### What each statement of a writer does -/

/-- The device that a PATCH saves, made from the one that it loaded. -/
def patchedDevice (now : DateTime) (data : DeviceData) (device : Device) : Device :=
  match data.address with
  | .ok address => { data.apply address device with updatedAt := now }
  | .error _ => device

section

variable {α : Type}

/-- The row that the second statement of a request loaded. -/
def rowLoaded (rows : Platform → Table α) (id : ℕ) (h : History Platform) : Option α :=
  h[1]?.bind fun p => (rows p.1).get? id

/-- A PATCH leaves the store, or its statement numbered `last` saves the row that it loaded,
changed; a row that is gone comes back with new times. -/
inductive PatchTurn (rows : Platform → Table α) (setRows : Platform → Table α → Platform)
    (last id : ℕ) (change : α → α) (h : History Platform) (s : Platform) : Platform → Prop where
  | nothing : PatchTurn rows setRows last id change h s s
  | save (loaded : α) (hlength : h.length = last) (hloaded : rowLoaded rows id h = some loaded) :
      PatchTurn rows setRows last id change h s (setRows s ((rows s).store id (change loaded)))
  | restore (loaded added : α) (hlength : h.length = last)
      (hloaded : rowLoaded rows id h = some loaded) (hgone : (rows s).get? id = none) :
      PatchTurn rows setRows last id change h s (setRows s ((rows s).store id added))

theorem along_saveRow {β : Type} {rows : Platform → Table α}
    {setRows : Platform → Table α → Platform} {ok : Platform → Except Exn Unit} {last id : ℕ}
    {change : α → α} {h : History Platform} {loaded added : α} {f : α → Statement β}
    (hret : ∀ a, ∃ b, f a = .ret b) (hh : Follows (PatchTurn rows setRows last id change) h) (hlength : h.length = last)
    (hloaded : rowLoaded rows id h = some loaded) :
    (saveRow rows setRows ok id (change loaded) added >>= f).Along Program.anyStore
      (Follows (PatchTurn rows setRows last id change))
      (fun g _ => Follows (PatchTurn rows setRows last id change) g) h := by
  refine Program.along_statement_bind hh (fun s a t _ hrun => ?_) fun s e _ _ => hh.snoc .nothing
  obtain ⟨b, hb⟩ := hret a
  rw [hb]
  cases hok : ok s with
  | error e => simp [hok] at hrun
  | ok v =>
    cases hget : (rows s).get? id with
    | some old =>
      have hstore : t = setRows s ((rows s).store id (change loaded)) := by
        simp only [hok, hget, Except.ok.injEq, Prod.mk.injEq] at hrun
        simpa [hget, Table.store] using hrun.2.symm
      exact hstore ▸ hh.snoc (.save loaded hlength hloaded)
    | none =>
      have hstore : t = setRows s ((rows s).store id added) := by
        simp only [hok, hget, Except.ok.injEq, Prod.mk.injEq] at hrun
        simpa [hget, Table.store] using hrun.2.symm
      exact hstore ▸ hh.snoc (.restore loaded added hlength hloaded hget)

end

/-- A PATCH on a device saves it with its fourth statement. -/
abbrev DeviceTurn (now : DateTime) (id : DeviceId) (data : DeviceData) :
    History Platform → Platform → Platform → Prop :=
  PatchTurn (·.devices) (fun db t => { db with devices := t }) 3 id (patchedDevice now data)

/-- A PATCH on an alert saves it with its third statement. -/
abbrev AlertTurn (id : AlertId) (patch : AlertPatch) :
    History Platform → Platform → Platform → Prop :=
  PatchTurn (·.alerts) (fun db t => { db with alerts := t }) 2 id patch.apply

theorem along_patchDevice (caller : Option UserId) (now : DateTime) (id : DeviceId)
    (data : DeviceData) :
    (respond (updateDevice caller .patch now id data)).Along Program.anyStore
      (Follows (DeviceTurn now id data)) (fun h _ => Follows (DeviceTurn now id data) h) [] := by
  have hstart : Follows (DeviceTurn now id data) [] := follows_nil
  unfold respond updateDevice
  simp only [bind_assoc]
  refine along_permit_bind hstart (fun s u _ _ _ => ?_) fun s e _ => hstart.snoc .nothing
  have hpermitted : Follows (DeviceTurn now id data) [(s, s)] := hstart.snoc .nothing
  refine along_getObject_bind hpermitted (fun s' device _ hdevice => ?_)
    fun s' e _ => hpermitted.snoc .nothing
  have hloaded := hpermitted.snoc (s := s') .nothing
  refine Program.along_statement_bind hloaded (fun s'' address t _ hrun => ?_)
    fun s'' e _ _ => hloaded.snoc .nothing
  obtain ⟨_, -, hrun⟩ := ok_of_bind hrun
  obtain ⟨address', haddress, hrun⟩ := ok_of_bind hrun
  obtain ⟨_, -, hrun⟩ := ok_of_bind hrun
  obtain ⟨rfl, rfl⟩ := Prod.mk.inj (Except.ok.inj hrun)
  have hvalid := hloaded.snoc (s := s'') .nothing
  have hchange : { data.apply address' device with updatedAt := now } =
      patchedDevice now data device := by simp [patchedDevice, haddress]
  rw [if_neg (by rintro ⟨⟨⟩, -⟩), hchange, bind_assoc]
  exact along_saveRow (fun saved => ⟨_, rfl⟩) hvalid rfl hdevice

theorem along_patchAlert (caller : Option UserId) (id : AlertId) (patch : AlertPatch) :
    (respond (partialUpdateAlert caller id patch)).Along Program.anyStore
      (Follows (AlertTurn id patch)) (fun h _ => Follows (AlertTurn id patch) h) [] := by
  have hstart : Follows (AlertTurn id patch) [] := follows_nil
  unfold respond partialUpdateAlert
  simp only [bind_assoc]
  refine along_permit_bind hstart (fun s u _ _ _ => ?_) fun s e _ => hstart.snoc .nothing
  have hpermitted : Follows (AlertTurn id patch) [(s, s)] := hstart.snoc .nothing
  refine along_getObject_bind hpermitted (fun s' r _ hr => ?_) fun s' e _ =>
    hpermitted.snoc .nothing
  obtain ⟨alert, halert, rfl⟩ := Option.map_eq_some_iff.mp hr
  have hloaded := hpermitted.snoc (s := s') .nothing
  dsimp only
  split
  · exact hloaded
  · rw [bind_assoc]
    exact along_saveRow (fun saved => ⟨_, rfl⟩) hloaded rfl halert

/-- A check writes the status of its device and records the row. -/
def CheckTurn (id : DeviceId) (s t : Tracked) : Prop :=
  t = s ∨ ∃ status, t.1 = { s.1 with
    devices := s.1.devices.update id (fun d => { d with status := status }) } ∧
    t.2 = s.2 ++ deviceNote id t.1

/-- The webhook upserts rows and records them. -/
def UpsertTurn (s t : Tracked) : Prop :=
  t = s ∨ ∃ row, (rowsWith s.1.alerts row.fingerprint).length ≤ 1 ∧
    t.1 = { s.1 with alerts := (upsert s.1.alerts row).2 } ∧
    t.2 = s.2 ++ alertNote row.fingerprint t.1

/-- What a statement of a writer can do, given the statements before it. -/
def Turn : Writer → History Tracked → Tracked → Tracked → Prop
  | .patchDevice _ now id data, h, s, t =>
    DeviceTurn now id data (Program.eraseLog h) s.1 t.1 ∧ t.2 = s.2
  | .checkDevice _ id, _, s, t => CheckTurn id s t
  | .patchAlert _ id patch, h, s, t =>
    AlertTurn id patch (Program.eraseLog h) s.1 t.1 ∧ t.2 = s.2
  | .webhook _ _, _, s, t => UpsertTurn s t

/-- A program that reads only is one also with a log. -/
theorem writes_read {α : Type} {p : Statement α} {R : Tracked → Tracked → Prop}
    (hp : p.Writes fun s t => t = s) (hR : ∀ s, R s s) : (p.logged (ω := Written)).Writes R := by
  refine hp.logged.mono fun s t h => ?_
  obtain rfl : t = s := Prod.ext h.1 h.2
  exact hR t

instance : Std.Refl fun s t : Platform => t = s := ⟨fun _ => rfl⟩

theorem writes_trackedCheck (net : Network) (id : DeviceId) :
    (trackedCheck net id).Writes (CheckTurn id) := by
  have hget : (Device.get id).Writes fun s t => t = s := by
    refine Program.writes_statement (fun s d t hrun => ?_)
    split at hrun
    · exact (Prod.mk.inj (Except.ok.inj hrun)).2.symm
    · cases hrun
  refine (writes_read hget fun s => .inl rfl).bind fun device => ?_
  refine (Program.writes_ofExcept _).bind fun reachable => ?_
  refine Program.Writes.bind (Program.writes_noted (fun s u t hrun => ?_) fun s e t hrun => ?_)
    fun _ => trivial
  · obtain ⟨-, rfl⟩ := Prod.mk.inj hrun
    exact .inr ⟨_, rfl, rfl⟩
  · cases (Prod.mk.inj hrun).1

theorem writes_trackedAlerts (w : WebhookWorld) (k : ℕ) (raws : List (List (String × Json))) :
    (trackedAlerts w k raws).Writes UpsertTurn := by
  induction raws generalizing k with
  | nil => trivial
  | cons raw raws ih =>
    refine Program.Writes.bind ?_ fun created => (ih (k + 1)).bind fun count => trivial
    refine (Program.writes_ofExcept _).bind fun input => ?_
    refine (writes_read (writes_firstDevice _) fun s => .inl rfl).bind fun device => ?_
    refine (Program.writes_ofExcept _).bind fun d => ?_
    have hcases := fun s : Tracked =>
      updateOrCreate_cases w (w.clock k) input.fingerprint d s.1
    refine Program.writes_noted (fun s created t hrun => ?_) fun s e t hrun => ?_
    · rcases hcases s with ⟨e, he⟩ | ⟨f, row, hf, hone, hrow, hrow'⟩
      · cases (Prod.mk.inj (hrun.symm.trans he)).1
      · obtain ⟨-, rfl⟩ := Prod.mk.inj (hrun.symm.trans hrow')
        have hfingerprint : row.fingerprint = f := (row_columns hrow).1
        exact .inr ⟨row, hfingerprint ▸ hone, rfl, by rw [hf, hfingerprint]⟩
    · rcases hcases s with ⟨e, he⟩ | ⟨f, row, -, -, -, hrow'⟩
      · obtain ⟨-, rfl⟩ := Prod.mk.inj (hrun.symm.trans he)
        exact .inl rfl
      · cases (Prod.mk.inj (hrun.symm.trans hrow')).1

theorem along_program (r : Writer) :
    r.program.Along Program.anyStore (Follows (Turn r)) (fun h _ => Follows (Turn r) h) [] := by
  cases r with
  | patchDevice caller now id data =>
    exact Program.along_logged (along_patchDevice caller now id data) rfl follows_nil
  | checkDevice net id => exact (writes_trackedCheck net id).along follows_nil
  | patchAlert caller id patch =>
    exact Program.along_logged (along_patchAlert caller id patch) rfl follows_nil
  | webhook w body =>
    have hwebhook : (trackedWebhook w body).Writes UpsertTurn := by
      unfold trackedWebhook
      split
      · trivial
      · exact (writes_trackedAlerts w 0 _).bind fun created => trivial
    have hrespond : (Writer.webhook w body).program.Writes UpsertTurn :=
      hwebhook.bind fun response => trivial
    exact hrespond.along follows_nil

/-! ### The value last written -/

section

variable {α β : Type}

/-- The last entry of the log that `pick` finds. -/
def lastOf (pick : Written → Option α) (log : List Written) : Option α :=
  log.reverse.findSome? pick

theorem lastOf_append (pick : Written → Option α) (log entries : List Written) :
    lastOf pick (log ++ entries) = (lastOf pick entries).or (lastOf pick log) := by
  simp [lastOf, List.findSome?_append]

theorem lastOf_append_of_none {pick : Written → Option α} (log : List Written)
    {entries : List Written} (h : ∀ x ∈ entries, pick x = none) :
    lastOf pick (log ++ entries) = lastOf pick log := by
  have hnone : lastOf pick entries = none := by
    simpa [lastOf, List.findSome?_eq_none_iff] using h
  rw [lastOf_append, hnone, Option.none_or]

/-- A step leaves the column and the log of the row as they are, or it is a background write of
the row. -/
def Keeps (row : Platform → Option α) (pick : Written → Option α) (col : α → β)
    (s t : Tracked) : Prop :=
  ((row t.1).map col = (row s.1).map col ∧ lastOf pick t.2 = lastOf pick s.2) ∨
    ∃ a, row t.1 = some a ∧ lastOf pick t.2 = some a

/-- The column has the value that was last written in the background, or the one that it had
at the start. -/
def HasLastWritten (row : Platform → Option α) (pick : Written → Option α) (col : α → β)
    (store : Platform) (s : Tracked) : Prop :=
  (row s.1).map col = ((lastOf pick s.2).or (row store)).map col

theorem HasLastWritten.step {row : Platform → Option α} {pick : Written → Option α} {col : α → β}
    {store : Platform} {s t : Tracked} (h : HasLastWritten row pick col store s)
    (hstep : Keeps row pick col s t) : HasLastWritten row pick col store t := by
  unfold HasLastWritten at h ⊢
  rcases hstep with ⟨hrow, hlast⟩ | ⟨a, hrow, hlast⟩
  · rw [hrow, h, hlast]
  · rw [hrow, hlast]
    rfl

theorem hasLastWritten_run {row : Platform → Option α} {pick : Written → Option α} {col : α → β}
    {store : Platform} {writers : List Writer} (schedule : List ℕ)
    (hstep : ∀ done k later, schedule = done ++ k :: later →
      ((startTracked store writers).run done).Moves k →
      Keeps row pick col ((startTracked store writers).run done).store
        (((startTracked store writers).run done).step k).store) :
    HasLastWritten row pick col store ((startTracked store writers).run schedule).store := by
  induction schedule using List.reverseRecOn with
  | nil => exact congrArg (Option.map col) (Option.none_or ..).symm
  | append_singleton done k ih =>
    have hdone := ih fun before i after heq =>
      hstep before i (after ++ [k]) (by simp [heq])
    rw [Pool.run_append, Pool.run_cons, Pool.run_nil]
    rcases ((startTracked store writers).run done).moves_or k with hmoves | ⟨hs, -⟩
    · exact hdone.step (hstep done k [] rfl hmoves)
    · rw [hs]
      exact hdone

end

/-! ### Steps -/

section

variable {α β : Type} {rows : Platform → Table α} {setRows : Platform → Table α → Platform}

theorem PatchTurn.other {γ : Type} (read : Platform → γ) {last id : ℕ} {change : α → α}
    {h : History Platform} {s t : Platform}
    (hturn : PatchTurn rows setRows last id change h s t)
    (hread : ∀ db t, read (setRows db t) = read db) : read t = read s := by
  cases hturn with
  | nothing => rfl
  | save loaded hlength hloaded => exact hread _ _
  | restore loaded added hlength hloaded hgone => exact hread _ _

/-- A PATCH that leaves the column, and saves while the stored row has the column as it was
loaded, keeps the column of every row. -/
theorem PatchTurn.keeps (hrows : ∀ db t, rows (setRows db t) = t) {last id id' : ℕ}
    {change : α → α} {col : α → β} {h : History Platform} {s t : Platform}
    (hturn : PatchTurn rows setRows last id change h s t)
    (hleaves : id = id' → ∀ a, col (change a) = col a)
    (hfresh : id = id' → h.length = last → ∀ loaded, rowLoaded rows id' h = some loaded →
      ((rows s).get? id').map col = some (col loaded)) :
    ((rows t).get? id').map col = ((rows s).get? id').map col := by
  cases hturn with
  | nothing => rfl
  | save loaded hlength hloaded =>
    rw [hrows]
    by_cases hid : id = id'
    · subst hid
      have hstored := hfresh rfl hlength loaded hloaded
      obtain ⟨a, ha, -⟩ := Option.map_eq_some_iff.mp hstored
      rw [Table.get?_store_self, if_pos (Table.lt_nextId_of_get? ha), hstored]
      exact congrArg some (hleaves rfl loaded)
    · rw [Table.get?_store_of_ne _ _ (Ne.symm hid)]
  | restore loaded added hlength hloaded hgone =>
    rw [hrows]
    by_cases hid : id = id'
    · subst hid
      have hstored := hfresh rfl hlength loaded hloaded
      rw [hgone] at hstored
      cases hstored
    · rw [Table.get?_store_of_ne _ _ (Ne.symm hid)]

end

theorem CheckTurn.keeps_devices {β : Type} {id id' : DeviceId} {col : Device → β} {s t : Tracked}
    (h : CheckTurn id s t) :
    Keeps (fun db => db.devices.get? id') (Written.deviceRow id') col s t := by
  rcases h with rfl | ⟨status, hdb, hlog⟩
  · exact .inl ⟨rfl, rfl⟩
  · have hdevices : t.1.devices =
        s.1.devices.update id (fun d => { d with status := status }) := by rw [hdb]
    by_cases hid : id = id'
    · subst hid
      cases hrow : t.1.devices.get? id with
      | none =>
        refine .inl ⟨?_, ?_⟩
        · have hnone := hrow
          rw [hdevices, Table.get?_update_self, Option.map_eq_none_iff] at hnone
          dsimp only
          rw [hrow, hnone]
        · rw [hlog]
          exact lastOf_append_of_none _ (by simp [deviceNote, hrow])
      | some a =>
        refine .inr ⟨a, hrow, ?_⟩
        rw [hlog, lastOf_append]
        simp [deviceNote, hrow, lastOf, Written.deviceRow]
    · refine .inl ⟨?_, ?_⟩
      · dsimp only
        rw [hdevices, Table.get?_update, if_neg (Ne.symm hid)]
      · rw [hlog]
        refine lastOf_append_of_none _ fun x hx => ?_
        obtain ⟨a, -, rfl⟩ := Option.map_eq_some_iff.mp (Option.mem_toList.mp hx)
        simp [Written.deviceRow, hid]

theorem UpsertTurn.keeps_alerts {β : Type} {id' : AlertId} {col : Alert → β} {s t : Tracked}
    (h : UpsertTurn s t) :
    Keeps (fun db => db.alerts.get? id') (Written.alertRow id') col s t := by
  rcases h with rfl | ⟨row, hone, hdb, hlog⟩
  · exact .inl ⟨rfl, rfl⟩
  · obtain ⟨id, result, hwritten, -⟩ := rowsWith_upsert hone
    have halerts : t.1.alerts = (upsert s.1.alerts row).2 := by rw [hdb]
    have hnote : alertNote row.fingerprint t.1 = [.alert id result] := by
      rw [alertNote, halerts, hwritten]
      rfl
    rw [hnote] at hlog
    by_cases hid : id = id'
    · subst hid
      have hmem : (id, result) ∈ rowsWith (upsert s.1.alerts row).2 row.fingerprint := by
        simp [hwritten]
      refine .inr ⟨result, ?_, ?_⟩
      · dsimp only
        rw [halerts]
        exact (mem_rowsWith.mp hmem).1
      · rw [hlog, lastOf_append]
        simp [lastOf, Written.alertRow]
    · refine .inl ⟨?_, ?_⟩
      · dsimp only
        rw [halerts, get?_upsert_of_not_mem]
        intro b hb
        rw [hwritten, List.mem_singleton] at hb
        exact hid (Prod.mk.inj hb).1.symm
      · rw [hlog]
        exact lastOf_append_of_none _ (by simp [Written.alertRow, hid])

/-- A statement that leaves the rows of a table and records none of them. -/
theorem keeps_of_eq {α β : Type} {row : Platform → Option α} {pick : Written → Option α}
    {col : α → β} {s t : Tracked} (hrow : row t.1 = row s.1) {entries : List Written}
    (hlog : t.2 = s.2 ++ entries) (hnone : ∀ x ∈ entries, pick x = none) :
    Keeps row pick col s t := by
  refine .inl ⟨congrArg _ hrow, ?_⟩
  rw [hlog]
  exact lastOf_append_of_none s.2 hnone

/-! ### Runs -/

/-- The body names none of the columns that `col` reads. -/
def LeavesDevice (data : DeviceData) {β : Type} (col : Device → β) : Prop :=
  ∀ now d, col (patchedDevice now data d) = col d

def LeavesAlert (patch : AlertPatch) {β : Type} (col : Alert → β) : Prop :=
  ∀ a, col (patch.apply a) = col a

/-- When a PATCH on the device is about to save, the stored row has the columns as the PATCH
loaded them. -/
def FreshDevice (store : Platform) (writers : List Writer) (schedule : List ℕ) (id : DeviceId)
    {β : Type} (col : Device → β) : Prop :=
  ∀ done k later caller now data, schedule = done ++ k :: later →
    writers[k]? = some (.patchDevice caller now id data) →
    ((startTracked store writers).run done).Moves k →
    ((startTracked store writers).history k done).length = 3 →
    ∀ loaded, rowLoaded (·.devices) id
        (Program.eraseLog ((startTracked store writers).history k done)) = some loaded →
      (((startTracked store writers).run done).store.1.devices.get? id).map col =
        some (col loaded)

/-- The same for a PATCH on an alert. -/
def FreshAlert (store : Platform) (writers : List Writer) (schedule : List ℕ) (id : AlertId)
    {β : Type} (col : Alert → β) : Prop :=
  ∀ done k later caller patch, schedule = done ++ k :: later →
    writers[k]? = some (.patchAlert caller id patch) →
    ((startTracked store writers).run done).Moves k →
    ((startTracked store writers).history k done).length = 2 →
    ∀ loaded, rowLoaded (·.alerts) id
        (Program.eraseLog ((startTracked store writers).history k done)) = some loaded →
      (((startTracked store writers).run done).store.1.alerts.get? id).map col =
        some (col loaded)

/-- The columns of the device have the values that the reachability checks wrote last. -/
def DeviceKept (store : Platform) (writers : List Writer) (schedule : List ℕ) (id : DeviceId)
    {β : Type} (col : Device → β) : Prop :=
  HasLastWritten (fun db => db.devices.get? id) (Written.deviceRow id) col store
    ((startTracked store writers).run schedule).store

/-- The columns of the alert have the values that the webhook wrote last. -/
def AlertKept (store : Platform) (writers : List Writer) (schedule : List ℕ) (id : AlertId)
    {β : Type} (col : Alert → β) : Prop :=
  HasLastWritten (fun db => db.alerts.get? id) (Written.alertRow id) col store
    ((startTracked store writers).run schedule).store

variable {store : Platform} {writers : List Writer}

/-- A step is a turn of the writer that takes it. -/
theorem turn_of_moves {done : List ℕ} {k : ℕ}
    (hmoves : ((startTracked store writers).run done).Moves k) :
    ∃ r, writers[k]? = some r ∧ Turn r ((startTracked store writers).history k done)
      ((startTracked store writers).run done).store
      (((startTracked store writers).run done).step k).store := by
  have ⟨t, ht, _⟩ := hmoves
  obtain ⟨u, hu, -⟩ := Pool.name_run ht
  obtain ⟨r, hr, rfl⟩ := Option.map_eq_some_iff.mp ((List.getElem?_map ..).symm.trans hu)
  exact ⟨r, hr, Pool.follows_step hu (along_program r) hmoves⟩

theorem deviceKept_of_fresh (schedule : List ℕ) (id : DeviceId) {β : Type} (col : Device → β)
    (hleaves : ∀ caller now data, .patchDevice caller now id data ∈ writers →
      LeavesDevice data col)
    (hfresh : FreshDevice store writers schedule id col) :
    DeviceKept store writers schedule id col := by
  refine hasLastWritten_run schedule fun done k later hschedule hmoves => ?_
  obtain ⟨r, hr, hturn⟩ := turn_of_moves hmoves
  cases r with
  | patchDevice caller now id' data =>
    refine .inl ⟨hturn.1.keeps (fun _ _ => rfl) ?_ ?_, by rw [hturn.2]⟩
    · rintro rfl d
      exact hleaves caller now data (List.mem_of_getElem? hr) now d
    · rintro rfl hlength
      have hthree : ((startTracked store writers).history k done).length = 3 := by
        simpa [Program.eraseLog] using hlength
      exact hfresh done k later caller now data hschedule hr hmoves hthree
  | checkDevice net id' => exact CheckTurn.keeps_devices hturn
  | patchAlert caller id' patch =>
    have hrow := PatchTurn.other (fun db => db.devices.get? id) hturn.1 fun _ _ => rfl
    exact keeps_of_eq hrow (hturn.2.trans (List.append_nil _).symm) (by simp)
  | webhook w body =>
    rcases hturn with hsame | ⟨row, hone, hdb, hlog⟩
    · exact .inl ⟨by rw [hsame], by rw [hsame]⟩
    · refine keeps_of_eq (by rw [hdb]) hlog fun x hx => ?_
      obtain ⟨a, -, rfl⟩ := List.mem_map.mp hx
      rfl

theorem alertKept_of_fresh (schedule : List ℕ) (id : AlertId) {β : Type} (col : Alert → β)
    (hleaves : ∀ caller patch, .patchAlert caller id patch ∈ writers → LeavesAlert patch col)
    (hfresh : FreshAlert store writers schedule id col) :
    AlertKept store writers schedule id col := by
  refine hasLastWritten_run schedule fun done k later hschedule hmoves => ?_
  obtain ⟨r, hr, hturn⟩ := turn_of_moves hmoves
  cases r with
  | patchDevice caller now id' data =>
    have hrow := PatchTurn.other (fun db => db.alerts.get? id) hturn.1 fun _ _ => rfl
    exact keeps_of_eq hrow (hturn.2.trans (List.append_nil _).symm) (by simp)
  | checkDevice net id' =>
    rcases hturn with hsame | ⟨status, hdb, hlog⟩
    · exact .inl ⟨by rw [hsame], by rw [hsame]⟩
    · refine keeps_of_eq (by rw [hdb]) hlog fun x hx => ?_
      obtain ⟨a, -, rfl⟩ := Option.map_eq_some_iff.mp (Option.mem_toList.mp hx)
      rfl
  | patchAlert caller id' patch =>
    refine .inl ⟨hturn.1.keeps (fun _ _ => rfl) ?_ ?_, by rw [hturn.2]⟩
    · rintro rfl
      exact hleaves caller patch (List.mem_of_getElem? hr)
    · rintro rfl hlength
      have htwo : ((startTracked store writers).history k done).length = 2 := by
        simpa [Program.eraseLog] using hlength
      exact hfresh done k later caller patch hschedule hr hmoves htwo
  | webhook w body => exact UpsertTurn.keeps_alerts hturn

/-- While every PATCH saves the columns that no PATCH names as they are stored, these columns
have the values last written in the background, of devices and of alerts. -/
theorem keeps_background_writes (store : Platform) (writers : List Writer) (schedule : List ℕ) :
    (∀ (id : DeviceId) (β : Type) (col : Device → β),
      (∀ caller now data, .patchDevice caller now id data ∈ writers → LeavesDevice data col) →
      FreshDevice store writers schedule id col → DeviceKept store writers schedule id col) ∧
    ∀ (id : AlertId) (β : Type) (col : Alert → β),
      (∀ caller patch, .patchAlert caller id patch ∈ writers → LeavesAlert patch col) →
      FreshAlert store writers schedule id col → AlertKept store writers schedule id col :=
  ⟨fun id _ col hleaves hfresh => deviceKept_of_fresh schedule id col hleaves hfresh,
    fun id _ col hleaves hfresh => alertKept_of_fresh schedule id col hleaves hfresh⟩

/-! ### A PATCH that saves what it loaded before -/

/-- A network on which no host answers. -/
def silent : Network where
  ping _ := .exit 1
  pingFallback _ := .exit 1
  getCmd _ _ := .ok (false, "")
  gethostbyaddr _ := .ok ""
  hosts _ := .ok []
  clock n := n
  snmpCommunity := "public"

/-- The small platform with an alert that fires. -/
def labAlert : Platform := { lab with
  alerts := Table.empty.insert {
    alertName := "InterfaceDown", fingerprint := "f1", receivedAt := 0 } }

/-- The notification that the alert is resolved. -/
def labResolved : Json :=
  notification [[("labels", .obj [("alertname", .str "InterfaceDown")]), ("fingerprint", .str "f1"),
    ("status", .str "resolved")]]

/-- An administrator changes the description of a device while it is checked, and the
annotations of an alert while the webhook resolves it. -/
def labWriters : List Writer :=
  [.patchDevice (some 1) 0 1 { description := some "core" }, .checkDevice silent 1,
    .patchAlert (some 1) 1 { annotations := some (.obj [("note", .str "seen")]) },
    .webhook { parseDatetime := fun _ => .ok none, pyStr := Json.typeName, clock := fun k => k }
      labResolved]

theorem patchDevice_labWriters {k : ℕ} {caller : Option UserId} {now : DateTime} {id : DeviceId}
    {data : DeviceData} (h : labWriters[k]? = some (.patchDevice caller now id data)) :
    k = 0 ∧ data = { description := some "core" } := by
  match k with
  | 0 => exact ⟨rfl, (Writer.patchDevice.inj (Option.some.inj h)).2.2.2.symm⟩
  | 1 => cases h
  | 2 => cases h
  | 3 => cases h
  | _ + 4 => cases h

theorem patchAlert_labWriters {k : ℕ} {caller : Option UserId} {id : AlertId} {patch : AlertPatch}
    (h : labWriters[k]? = some (.patchAlert caller id patch)) :
    k = 2 ∧ patch = { annotations := some (.obj [("note", .str "seen")]) } := by
  match k with
  | 0 => cases h
  | 1 => cases h
  | 2 => exact ⟨rfl, (Writer.patchAlert.inj (Option.some.inj h)).2.2.symm⟩
  | 3 => cases h
  | _ + 4 => cases h

/-- Each PATCH runs on its own. -/
def labInTurn : List ℕ := [1, 1, 0, 0, 0, 0, 3, 3, 2, 2, 2]

theorem freshDevice_labInTurn : FreshDevice labAlert labWriters labInTurn 1 Device.status := by
  intro done k later caller now data hschedule hk hmoves hlength loaded hloaded
  obtain ⟨rfl, -⟩ := patchDevice_labWriters hk
  obtain ⟨n, hn, rfl⟩ := Pool.take_of_schedule hschedule
  change n < 11 at hn
  interval_cases n
  case «5» => exact congrArg (Option.map Device.status) hloaded
  all_goals exact absurd hlength (by decide)

theorem freshAlert_labInTurn : FreshAlert labAlert labWriters labInTurn 1 Alert.status := by
  intro done k later caller patch hschedule hk hmoves hlength loaded hloaded
  obtain ⟨rfl, -⟩ := patchAlert_labWriters hk
  obtain ⟨n, hn, rfl⟩ := Pool.take_of_schedule hschedule
  change n < 11 at hn
  interval_cases n
  case «10» => exact congrArg (Option.map Alert.status) hloaded
  all_goals exact absurd hlength (by decide)

/-- The background writers write before the PATCH requests load. -/
theorem keeps_background_writes_of_lab :
    DeviceKept labAlert labWriters labInTurn 1 Device.status ∧
      AlertKept labAlert labWriters labInTurn 1 Alert.status := by
  have hkeeps := keeps_background_writes labAlert labWriters labInTurn
  refine ⟨hkeeps.1 1 _ _ ?_ freshDevice_labInTurn, hkeeps.2 1 _ _ ?_ freshAlert_labInTurn⟩
  · intro caller now data h now' d
    obtain ⟨k, hk⟩ := List.mem_iff_getElem?.mp h
    obtain ⟨-, rfl⟩ := patchDevice_labWriters hk
    rfl
  · intro caller patch h a
    obtain ⟨k, hk⟩ := List.mem_iff_getElem?.mp h
    obtain ⟨-, rfl⟩ := patchAlert_labWriters hk
    rfl

/-- The background writers write between the load and the save of a PATCH. -/
theorem not_keeps_background_writes :
    ¬ DeviceKept labAlert labWriters [0, 0, 0, 1, 1, 0] 1 Device.status ∧
      ¬ AlertKept labAlert labWriters [2, 2, 3, 3, 2] 1 Alert.status := by
  refine ⟨fun h => ?_, fun h => ?_⟩
  · exact absurd (Option.some.inj h) (by decide)
  · exact absurd (Option.some.inj h) (by decide)

end DevSecOpsPlatform.BackgroundWrites
