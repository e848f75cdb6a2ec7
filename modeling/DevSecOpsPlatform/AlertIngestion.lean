import DevSecOpsPlatform.AlertUpserts
import DevSecOpsPlatform.Rfc3339Timestamps
import Mathlib.Data.List.TakeWhile

/-!
# Which notifications the webhook ingests

`V4Alert` is an alert as AlertManager sends it: texts for labels and annotations, two
timestamps, a fingerprint, every text within its column. A notification is ingested when it
is answered 200 and each of its alerts has its row with the device at the host part of the
instance label. That holds exactly when every instance label is `Resolvable` and no text of
an alert has a NUL character.
-/

namespace DevSecOpsPlatform.AlertIngestion

open KeyedTables StatementPrograms PlatformModels PlatformStore RolePermissions PythonValues
open IpAddresses AlertManagerPayloads MonitoringViews AlertUpserts Rfc3339Timestamps

/-! ### Alerts as AlertManager sends them -/

def textOf (labels : List (String × String)) (key default : String) : String :=
  (labels.lookup key).getD default

/-- A JSON object of texts. -/
def texts (entries : List (String × String)) : List (String × Json) :=
  entries.map (fun e => (e.1, .str e.2))

structure V4Alert where
  status : String
  labels : List (String × String)
  annotations : List (String × String)
  startsAt : String
  endsAt : String
  generatorUrl : String
  fingerprint : String
  startsAt_ok : (rfc3339 startsAt).isSome
  endsAt_ok : (rfc3339 endsAt).isSome
  fingerprint_ne : fingerprint ≠ ""
  fingerprint_length : fingerprint.length ≤ 64
  status_length : status.length ≤ 16
  alertName_length : (textOf labels "alertname" "Unknown").length ≤ 255
  instance_length : (textOf labels "instance" "").length ≤ 255
  generatorUrl_length : generatorUrl.length ≤ 200

namespace V4Alert

def alertName (a : V4Alert) : String := textOf a.labels "alertname" "Unknown"

def instanceLabel (a : V4Alert) : String := textOf a.labels "instance" ""

def severity (a : V4Alert) : AlertSeverity := severityOf (lower (textOf a.labels "severity" "info"))

/-- `raw` is the JSON object of the alert. -/
structure IsRaw (a : V4Alert) (raw : List (String × Json)) : Prop where
  status : raw.lookup "status" = some (.str a.status)
  labels : raw.lookup "labels" = some (.obj (texts a.labels))
  annotations : raw.lookup "annotations" = some (.obj (texts a.annotations))
  startsAt : raw.lookup "startsAt" = some (.str a.startsAt)
  endsAt : raw.lookup "endsAt" = some (.str a.endsAt)
  generatorUrl : raw.lookup "generatorURL" = some (.str a.generatorUrl)
  fingerprint : raw.lookup "fingerprint" = some (.str a.fingerprint)

/-- No text of the alert has a NUL character. -/
def nulFree (a : V4Alert) : Bool :=
  !(Json.obj [("status", .str a.status), ("labels", .obj (texts a.labels)),
    ("annotations", .obj (texts a.annotations)), ("generatorURL", .str a.generatorUrl),
    ("fingerprint", .str a.fingerprint)]).hasNul

/-- The columns that an alert determines. -/
structure IsRowOf (a : V4Alert) (row : Alert) : Prop where
  alertName : row.alertName = a.alertName
  severity : row.severity = a.severity
  status : row.status = a.status
  instanceLabel : row.instanceLabel = a.instanceLabel
  labels : row.labels = .obj (texts a.labels)
  annotations : row.annotations = .obj (texts a.annotations)
  startsAt : row.startsAt = rfc3339 a.startsAt
  endsAt : row.endsAt = rfc3339 a.endsAt
  generatorUrl : row.generatorUrl = a.generatorUrl
  fingerprint : row.fingerprint = a.fingerprint

end V4Alert

/-- The host of an instance label: what the brackets hold, or an address, or what stands
before the first colon. -/
def hostPart (label : String) : String :=
  match label.toList with
  | '[' :: cs => String.ofList (cs.takeWhile (· != ']'))
  | cs => if (ipAddress label).isSome then label else String.ofList (cs.takeWhile (· != ':'))

/-- The inventory device whose address is the host, or null when there is none. -/
inductive IsDeviceAt (devices : Table Device) (host : String) : Option DeviceId → Prop where
  | found {id : DeviceId} {d : Device} (hget : devices.get? id = some d)
      (hhost : ipAddress host = some d.ipAddress) : IsDeviceAt devices host (some id)
  | missing (h : ∀ id d, devices.get? id = some d → ipAddress host ≠ some d.ipAddress) :
      IsDeviceAt devices host none

/-- Every alert has its row, with its device. -/
def Ingested (db : Platform) (a : V4Alert) : Prop :=
  ∃ id row, rowsWith db.alerts a.fingerprint = [(id, row)] ∧ a.IsRowOf row ∧
    IsDeviceAt db.devices (hostPart a.instanceLabel) row.device

def Ingests (w : WebhookWorld) (db : Platform) (body : Json) (alerts : List V4Alert) : Prop :=
  (∃ data, ((alertmanagerWebhook w body).run db).1 = .ok ⟨200, data⟩) ∧
    ∀ a ∈ alerts, Ingested ((alertmanagerWebhook w body).run db).2 a

/-- What stands before the first colon is an address; or nothing stands there, and the label
is not the address of an inventory device. -/
def Resolvable (devices : Table Device) (label : String) : Prop :=
  (ipAddress (ipText label)).isSome ∨
    (ipText label = "" ∧ ∀ id d, devices.get? id = some d → ipAddress label ≠ some d.ipAddress)

/-! ### Host parts and the text the webhook looks up -/

theorem ipText_no_colon (label : String) : ':' ∉ (ipText label).toList := by
  intro h
  have := List.mem_takeWhile_imp (by simpa [ipText] using h)
  simp at this

/-- A label is what stands before its first colon, or that with a colon and more. -/
theorem label_cases (label : String) :
    label = ipText label ∨ ∃ cs, label = String.ofList ((ipText label).toList ++ ':' :: cs) := by
  have hsplit := List.takeWhile_append_dropWhile (p := (· != ':')) (l := label.toList)
  cases hd : label.toList.dropWhile (· != ':') with
  | nil =>
    left
    rw [hd, List.append_nil] at hsplit
    rw [ipText, hsplit, String.ofList_toList]
  | cons c cs =>
    right
    have hc : c = ':' := by
      have := List.head_dropWhile_not (· != ':') (l := label.toList) (by simp [hd])
      simpa [hd] using this
    refine ⟨cs, ?_⟩
    rw [hd, hc] at hsplit
    rw [ipText, String.toList_ofList, hsplit, String.ofList_toList]

theorem ipText_bracket {label : String} {cs : List Char} (h : label.toList = '[' :: cs) :
    (ipText label).toList = '[' :: cs.takeWhile (· != ':') := by
  simp [ipText, h]

/-- An address before the first colon is the host part. -/
theorem hostPart_of_ipText {label : String} (h : (ipAddress (ipText label)).isSome) :
    ipAddress (hostPart label) = ipAddress (ipText label) := by
  rw [ipAddress_eq_ipv4 (ipText_no_colon label), Option.isSome_map] at h
  obtain ⟨os, hos⟩ := Option.isSome_iff_exists.mp h
  unfold hostPart
  split
  · rename_i cs hcs
    have := ipv4Address_chars hos (c := '[') (by simp [ipText_bracket hcs])
    exact absurd this (by decide)
  · rcases label_cases label with heq | ⟨cs, heq⟩
    · have hsome : (ipAddress label).isSome := by
        rw [heq, ipAddress_eq_ipv4 (ipText_no_colon label), hos]
        rfl
      rw [if_pos hsome, ← heq]
    · have hnone : ipAddress label = none := by
        rw [heq]
        exact ipAddress_eq_none_of_ipv4_colon hos
      rw [if_neg (by simp [hnone])]
      rfl

/-- When nothing stands before the first colon, the host part is an address only if the
label is. -/
theorem hostPart_of_ipText_empty {label : String} (h : ipText label = "") :
    ipAddress (hostPart label) = ipAddress label := by
  unfold hostPart
  split
  · rename_i cs hcs
    have := ipText_bracket hcs
    simp [h] at this
  · cases hl : ipAddress label with
    | some a => rw [if_pos (by simp), hl]
    | none =>
      rw [if_neg (by simp)]
      have : ipAddress (ipText label) = none := by rw [h]; decide
      exact this

/-- The device that the webhook finds for a text that is empty or an address. -/
def foundDevice (devices : Table Device) (ip : String) : Option DeviceId :=
  (ipAddress ip).bind (fun address =>
    (devices.select (fun _ d => d.ipAddress == address)).head?.map Prod.fst)

theorem isDeviceAt_foundDevice (devices : Table Device) (ip : String) :
    IsDeviceAt devices ip (foundDevice devices ip) := by
  unfold foundDevice
  cases hip : ipAddress ip with
  | none => exact .missing (by simp [hip])
  | some address =>
    rw [Option.bind_some]
    cases hrows : devices.select (fun _ d => d.ipAddress == address) with
    | nil =>
      have hnone := Table.select_eq_nil.mp hrows
      refine .missing (fun id d hget heq => ?_)
      obtain rfl := Option.some.inj (hip.symm.trans heq)
      simpa using hnone id d hget
    | cons r rs =>
      have hr : r ∈ devices.select (fun _ d => d.ipAddress == address) := by simp [hrows]
      obtain ⟨hget, haddr⟩ := (Table.mem_select _ _ r.1 r.2).mp hr
      have haddress : r.2.ipAddress = address := by simpa using haddr
      exact .found hget (by rw [haddress, hip])

theorem isDeviceAt_none {devices : Table Device} {host : String} :
    IsDeviceAt devices host none ↔
      ∀ id d, devices.get? id = some d → ipAddress host ≠ some d.ipAddress := by
  constructor
  · rintro ⟨h⟩
    assumption
  · exact .missing

theorem IsDeviceAt.congr {devices : Table Device} {host host' : String} {device : Option DeviceId}
    (h : IsDeviceAt devices host device) (heq : ipAddress host = ipAddress host') :
    IsDeviceAt devices host' device := by
  cases h with
  | found hget hhost => exact .found hget (heq ▸ hhost)
  | missing hnone => exact .missing (heq ▸ hnone)

/-- The webhook looks up something it can, and finds the device of the host part, exactly
for the resolvable labels. -/
theorem resolvable_iff (devices : Table Device) (label : String) :
    Resolvable devices label ↔
      (ipText label = "" ∨ (ipAddress (ipText label)).isSome) ∧
        IsDeviceAt devices (hostPart label) (foundDevice devices (ipText label)) := by
  by_cases hsome : (ipAddress (ipText label)).isSome
  · have hdevice := (isDeviceAt_foundDevice devices (ipText label)).congr
      (hostPart_of_ipText hsome).symm
    simp [Resolvable, hsome, hdevice]
  · by_cases hempty : ipText label = ""
    · have hnone : ipAddress "" = none := by decide
      simp [Resolvable, hempty, foundDevice, hnone, isDeviceAt_none,
        hostPart_of_ipText_empty hempty]
    · simp [Resolvable, hsome, hempty]

/-! ### One alert -/

/-- `parse_datetime` reads RFC 3339 timestamps. -/
def ReadsTimestamps (w : WebhookWorld) : Prop :=
  ∀ text t, rfc3339 text = some t → w.parseDatetime text = .ok (some t)

theorem run_firstDevice (ip : String) (db : Platform) :
    (firstDevice ip).run db =
      if ip = "" ∨ (ipAddress ip).isSome then (.ok (foundDevice db.devices ip), db)
      else (.error inetError, db) := by
  rw [firstDevice, Program.run_statement]
  by_cases hempty : ip = ""
  · have hnone : ipAddress "" = none := by decide
    simp [hempty, foundDevice, hnone]
  · cases hip : ipAddress ip with
    | none => simp [hempty]
    | some address => simp [hempty, foundDevice, hip, devicesAt]

theorem refersTo_foundDevice (devices : Table Device) (ip : String) :
    refersToOrNull devices (foundDevice devices ip) = true := by
  have hdevice := isDeviceAt_foundDevice devices ip
  cases hfound : foundDevice devices ip with
  | none => rfl
  | some id =>
    rw [hfound] at hdevice
    cases hdevice with
    | found hget => exact refersTo_of_get? hget

theorem lookup_texts (entries : List (String × String)) (key : String) :
    (texts entries).lookup key = (entries.lookup key).map Json.str := by
  induction entries with
  | nil => rfl
  | cons e entries ih =>
    obtain ⟨k, v⟩ := e
    cases hkey : key == k with
    | true => simp [texts, List.lookup_cons, hkey]
    | false => simpa [texts, List.lookup_cons, hkey] using ih

theorem dictGet_texts (entries : List (String × String)) (key default : String) :
    Json.dictGet (texts entries) key (.str default) = .str (textOf entries key default) := by
  rw [Json.dictGet, lookup_texts, textOf]
  cases entries.lookup key <;> rfl

/-- A text among the values of an object without NUL characters has none. -/
theorem textOf_nulFree {entries : List (String × String)} {key default : String}
    (h : Json.hasNulEntries (texts entries) = false)
    (hdefault : default.toList.any Json.isNul = false) :
    (textOf entries key default).toList.any Json.isNul = false := by
  induction entries with
  | nil => exact hdefault
  | cons e entries ih =>
    obtain ⟨k, v⟩ := e
    simp only [texts, List.map_cons, Json.hasNulEntries, Json.hasNul, Bool.or_eq_false_iff] at h
    cases hkey : key == k with
    | true =>
      rw [textOf, List.lookup_cons, hkey]
      exact h.1.2
    | false =>
      rw [textOf, List.lookup_cons, hkey]
      exact ih h.2

namespace V4Alert

variable {a : V4Alert} {raw : List (String × Json)}

theorem dictGet_of_lookup {key : String} {v default : Json} (h : raw.lookup key = some v) :
    Json.dictGet raw key default = v := by
  simp [Json.dictGet, h]

theorem IsRaw.alertInput_eq (h : a.IsRaw raw) :
    alertInput raw = .ok {
      labels := texts a.labels
      annotations := .obj (texts a.annotations)
      fingerprint := .str a.fingerprint
      alertStatus := .str a.status
      instanceLabel := .str a.instanceLabel
      alertName := .str a.alertName
      severity := a.severity
      ip := ipText a.instanceLabel } := by
  simp only [alertInput, dictGet_of_lookup h.labels, dictGet_texts, dictGet_of_lookup h.annotations,
    dictGet_of_lookup h.fingerprint, dictGet_of_lookup h.status, instanceIp]
  rfl

/-- What the webhook passes to the upsert. -/
def defaults (a : V4Alert) (device : Option DeviceId) : AlertDefaults where
  alertName := .str a.alertName
  severity := a.severity
  status := .str a.status
  device := device
  instanceLabel := .str a.instanceLabel
  labels := .obj (texts a.labels)
  annotations := .obj (texts a.annotations)
  startsAt := rfc3339 a.startsAt
  endsAt := rfc3339 a.endsAt
  generatorUrl := .str a.generatorUrl

/-- The row of an alert that is new. -/
def row (a : V4Alert) (device : Option DeviceId) (now : DateTime) : Alert where
  alertName := a.alertName
  severity := a.severity
  status := a.status
  device := device
  instanceLabel := a.instanceLabel
  labels := .obj (texts a.labels)
  annotations := .obj (texts a.annotations)
  startsAt := rfc3339 a.startsAt
  endsAt := rfc3339 a.endsAt
  generatorUrl := a.generatorUrl
  fingerprint := a.fingerprint
  receivedAt := now

theorem isRowOf_of_isUpsertOf {device : Option DeviceId} {now : DateTime} {result : Alert}
    (h : IsUpsertOf (a.row device now) result) : a.IsRowOf result ∧ result.device = device := by
  rcases h with rfl | ⟨old, rfl⟩ <;> exact ⟨by constructor <;> simp only [row, overwrite], rfl⟩

theorem textColumn_eq {n : ℕ} {s : String} (h : s.length ≤ n) :
    textColumn n s = if s.toList.any Json.isNul then .error nulTextError else .ok s := by
  unfold textColumn
  cases hnul : s.toList.any Json.isNul with
  | true => rfl
  | false => simp [require, h]

theorem jsonColumn_obj (entries : List (String × Json)) :
    jsonColumn (.obj entries) =
      if Json.hasNulEntries entries then .error nulJsonError else .ok (.obj entries) := rfl

theorem nulFree_eq (a : V4Alert) :
    a.nulFree = (!a.status.toList.any Json.isNul && !Json.hasNulEntries (texts a.labels) &&
      !Json.hasNulEntries (texts a.annotations) && !a.generatorUrl.toList.any Json.isNul &&
      !a.fingerprint.toList.any Json.isNul) := by
  have hkeys : ∀ key ∈ ["status", "labels", "annotations", "generatorURL", "fingerprint"],
      key.toList.any Json.isNul = false := by decide
  simp only [List.forall_mem_cons] at hkeys
  simp only [nulFree, Json.hasNul, Json.hasNulEntries, hkeys, Bool.false_or, Bool.or_false,
    Bool.not_or, Bool.and_assoc]

/-- Without a NUL character every column takes its value. -/
theorem row_of_nulFree (h : a.nulFree = true) (pyStr : Json → String) (device : Option DeviceId)
    (now : DateTime) :
    charColumn pyStr 64 (.str a.fingerprint) = .ok a.fingerprint ∧
      (a.defaults device).row pyStr now a.fingerprint = .ok (a.row device now) := by
  simp only [nulFree_eq, Bool.and_eq_true, Bool.not_eq_true'] at h
  obtain ⟨⟨⟨⟨hstatus, hlabels⟩, hannotations⟩, hurl⟩, hfingerprint⟩ := h
  have hcolumn {n : ℕ} {s : String} (hs : s.length ≤ n) (hnul : s.toList.any Json.isNul = false) :
      charColumn pyStr n (.str s) = .ok s := by
    rw [charColumn, textColumn_eq hs, hnul]
    rfl
  have hname : charColumn pyStr 255 (.str a.alertName) = .ok a.alertName :=
    hcolumn a.alertName_length (textOf_nulFree hlabels (by decide))
  have hinstance : charColumn pyStr 255 (.str a.instanceLabel) = .ok a.instanceLabel :=
    hcolumn a.instance_length (textOf_nulFree hlabels (by decide))
  refine ⟨hcolumn a.fingerprint_length hfingerprint, ?_⟩
  simp only [AlertDefaults.row, defaults, hname, hinstance, hcolumn a.status_length hstatus,
    hcolumn a.generatorUrl_length hurl, jsonColumn_obj, hlabels, hannotations]
  rfl

theorem nulFree_of_charColumn {pyStr : Json → String} {n : ℕ} {s t : String}
    (h : charColumn pyStr n (.str s) = .ok t) : s.toList.any Json.isNul = false := by
  obtain ⟨_, hnul, -⟩ := ok_of_bind h
  cases hs : s.toList.any Json.isNul with
  | false => rfl
  | true => simp [hs] at hnul

theorem nulFree_of_jsonColumn {entries : List (String × Json)} {v : Json}
    (h : jsonColumn (.obj entries) = .ok v) : Json.hasNulEntries entries = false := by
  rw [jsonColumn_obj] at h
  cases hnul : Json.hasNulEntries entries with
  | false => rfl
  | true => simp [hnul] at h

/-- Every column takes its value only without a NUL character. -/
theorem nulFree_of_row {pyStr : Json → String} {device : Option DeviceId} {now : DateTime}
    {f : String} {r : Alert} (hf : charColumn pyStr 64 (.str a.fingerprint) = .ok f)
    (hr : (a.defaults device).row pyStr now f = .ok r) : a.nulFree = true := by
  obtain ⟨_, -, hr⟩ := ok_of_bind hr
  obtain ⟨_, hstatus, hr⟩ := ok_of_bind hr
  obtain ⟨_, -, hr⟩ := ok_of_bind hr
  obtain ⟨_, hlabels, hr⟩ := ok_of_bind hr
  obtain ⟨_, hannotations, hr⟩ := ok_of_bind hr
  obtain ⟨_, hurl, -⟩ := ok_of_bind hr
  simp [nulFree_eq, nulFree_of_charColumn hf, nulFree_of_charColumn hstatus,
    nulFree_of_jsonColumn hlabels, nulFree_of_jsonColumn hannotations, nulFree_of_charColumn hurl]

/-- The store after the upsert of an alert. -/
def stored (a : V4Alert) (db : Platform) (now : DateTime) : Platform :=
  { db with
    alerts := (upsert db.alerts (a.row (foundDevice db.devices (ipText a.instanceLabel)) now)).2 }

/-- The webhook gets through the alert. -/
def Accepted (a : V4Alert) : Prop :=
  (ipText a.instanceLabel = "" ∨ (ipAddress (ipText a.instanceLabel)).isSome) ∧ a.nulFree = true

theorem timestamp_eq {w : WebhookWorld} (hw : ReadsTimestamps w) {text : String}
    (h : (rfc3339 text).isSome) : timestamp w (.str text) = .ok (rfc3339 text) := by
  obtain ⟨t, ht⟩ := Option.isSome_iff_exists.mp h
  have hne : text ≠ "" := by
    rintro rfl
    simp at ht
  simp [timestamp, Json.truthy, hne, ht, hw text t ht]

/-- A round of the loop, past the reading of the alert. -/
theorem run_processAlert {w : WebhookWorld} (hw : ReadsTimestamps w) {k : ℕ} (hraw : a.IsRaw raw)
    (db : Platform) :
    (processAlert w k raw).run db =
      if ipText a.instanceLabel = "" ∨ (ipAddress (ipText a.instanceLabel)).isSome then
        (Alert.updateOrCreate w (w.clock k) (.str a.fingerprint)
          (a.defaults (foundDevice db.devices (ipText a.instanceLabel)))).run db
      else (.error inetError, db) := by
  simp only [processAlert, hraw.alertInput_eq, Program.ofExcept_ok, Program.ret_bind]
  rw [Program.run_bind, run_firstDevice]
  by_cases hip : ipText a.instanceLabel = "" ∨ (ipAddress (ipText a.instanceLabel)).isSome
  · rw [if_pos hip, if_pos hip]
    simp only [alertDefaults, dictGet_of_lookup hraw.startsAt, dictGet_of_lookup hraw.endsAt,
      dictGet_of_lookup hraw.generatorUrl, timestamp_eq hw a.startsAt_ok,
      timestamp_eq hw a.endsAt_ok, ok_bind]
    rfl
  · rw [if_neg hip, if_neg hip]

/-- The webhook stores an alert that it accepts. -/
theorem processAlert_of_accepted {w : WebhookWorld} (hw : ReadsTimestamps w) {k : ℕ}
    (hraw : a.IsRaw raw) {db : Platform} (hone : (rowsWith db.alerts a.fingerprint).length ≤ 1)
    (h : a.Accepted) :
    ∃ created, (processAlert w k raw).run db = (.ok created, a.stored db (w.clock k)) := by
  have hrefers := refersTo_foundDevice db.devices (ipText a.instanceLabel)
  rw [run_processAlert hw hraw, if_pos h.1, stored]
  generalize foundDevice db.devices (ipText a.instanceLabel) = device at hrefers ⊢
  obtain ⟨hf, hrow⟩ := row_of_nulFree h.2 w.pyStr device (w.clock k)
  exact ⟨_, run_updateOrCreate hf hone hrow hrefers⟩

/-- An alert that the webhook gets through is accepted. -/
theorem accepted_of_processAlert {w : WebhookWorld} (hw : ReadsTimestamps w) {k : ℕ}
    (hraw : a.IsRaw raw) {db : Platform} {created : Bool}
    (h : ((processAlert w k raw).run db).1 = .ok created) : a.Accepted := by
  rw [run_processAlert hw hraw] at h
  split at h
  · rename_i hip
    rcases updateOrCreate_cases w (w.clock k) (.str a.fingerprint)
      (a.defaults (foundDevice db.devices (ipText a.instanceLabel))) db with
      ⟨e, he⟩ | ⟨f, r, hf, -, hr, -⟩
    · simp [he] at h
    · exact ⟨hip, nulFree_of_row hf hr⟩
  · cases h

end V4Alert

/-! ### The loop -/

/-- The rows of the alerts of a notification, and those of all other fingerprints. -/
structure Stored (db db' : Platform) (alerts : List V4Alert) : Prop where
  devices : db'.devices = db.devices
  row : ∀ a ∈ alerts, ∃ id row, rowsWith db'.alerts a.fingerprint = [(id, row)] ∧
    a.IsRowOf row ∧ row.device = foundDevice db.devices (ipText a.instanceLabel)
  other : ∀ f, f ∉ alerts.map (·.fingerprint) → rowsWith db'.alerts f = rowsWith db.alerts f

theorem stored_cons {a : V4Alert} {alerts : List V4Alert} {db db' : Platform} {now : DateTime}
    (hone : (rowsWith db.alerts a.fingerprint).length ≤ 1)
    (hne : a.fingerprint ∉ alerts.map (·.fingerprint))
    (h : Stored (a.stored db now) db' alerts) : Stored db db' (a :: alerts) where
  devices := h.devices
  row := by
    have hone' : (rowsWith db.alerts
        (a.row (foundDevice db.devices (ipText a.instanceLabel)) now).fingerprint).length ≤ 1 :=
      hone
    refine List.forall_mem_cons.mpr ⟨?_, h.row⟩
    obtain ⟨id, result, hrow, hresult⟩ := rowsWith_upsert hone'
    obtain ⟨hcolumns, hdevice⟩ := V4Alert.isRowOf_of_isUpsertOf hresult
    exact ⟨id, result, (h.other _ hne).trans hrow, hcolumns, hdevice⟩
  other := by
    intro f hf
    have hone' : (rowsWith db.alerts
        (a.row (foundDevice db.devices (ipText a.instanceLabel)) now).fingerprint).length ≤ 1 :=
      hone
    rw [List.map_cons, List.mem_cons, not_or] at hf
    rw [h.other f hf.2]
    exact rowsWith_upsert_of_ne hone' hf.1

/-- The loop gets through exactly when it accepts every alert, and then stores them all. -/
theorem run_processAlerts {w : WebhookWorld} (hw : ReadsTimestamps w)
    {raws : List (List (String × Json))} {alerts : List V4Alert}
    (hraws : List.Forall₂ (fun raw a => V4Alert.IsRaw a raw) raws alerts)
    (hdistinct : (alerts.map (·.fingerprint)).Nodup) (k : ℕ) (db : Platform)
    (hone : ∀ a ∈ alerts, (rowsWith db.alerts a.fingerprint).length ≤ 1) :
    ((∃ n, ((processAlerts w k raws).run db).1 = .ok n) ↔ ∀ a ∈ alerts, a.Accepted) ∧
      ((∀ a ∈ alerts, a.Accepted) → Stored db ((processAlerts w k raws).run db).2 alerts) := by
  induction hraws generalizing k db with
  | nil =>
    refine ⟨by simp [processAlerts], fun _ => ⟨rfl, by simp, fun _ _ => rfl⟩⟩
  | @cons raw a raws alerts hraw _ ih =>
    rw [List.map_cons, List.nodup_cons] at hdistinct
    rw [List.forall_mem_cons] at hone
    rw [List.forall_mem_cons, processAlerts, Program.run_bind]
    by_cases ha : a.Accepted
    · obtain ⟨created, hrun⟩ := V4Alert.processAlert_of_accepted hw (k := k) hraw hone.1 ha
      have hrest : ∀ b ∈ alerts,
          (rowsWith (a.stored db (w.clock k)).alerts b.fingerprint).length ≤ 1 := by
        intro b hb
        have hne : b.fingerprint ≠ a.fingerprint := by
          intro hf
          exact hdistinct.1 (hf ▸ List.mem_map_of_mem hb)
        rw [V4Alert.stored, rowsWith_upsert_of_ne hone.1 hne]
        exact hone.2 b hb
      obtain ⟨hiff, hstored⟩ := ih hdistinct.2 (k + 1) (a.stored db (w.clock k)) hrest
      rw [hrun]
      dsimp only
      rw [Program.run_bind]
      rcases hloop : (processAlerts w (k + 1) raws).run (a.stored db (w.clock k)) with ⟨o, t⟩
      rw [hloop] at hiff hstored
      cases o with
      | ok n =>
        have hall := hiff.mp ⟨n, rfl⟩
        refine ⟨⟨fun _ => ⟨ha, hall⟩, fun _ => ⟨_, rfl⟩⟩, fun _ => ?_⟩
        exact stored_cons hone.1 hdistinct.1 (hstored hall)
      | error e =>
        have hnot : ¬ ∀ b ∈ alerts, b.Accepted := fun hall => by simpa using hiff.mpr hall
        exact ⟨⟨fun ⟨n, hn⟩ => by simp at hn, fun h => absurd h.2 hnot⟩, fun h => absurd h.2 hnot⟩
    · have hnot : ∀ created, ((processAlert w k raw).run db).1 ≠ .ok created :=
        fun created hrun => ha (V4Alert.accepted_of_processAlert hw hraw hrun)
      rcases hfail : (processAlert w k raw).run db with ⟨o, t⟩
      rw [hfail] at hnot
      cases o with
      | ok created => exact absurd rfl (hnot created)
      | error e =>
        exact ⟨⟨fun ⟨n, hn⟩ => by simp at hn, fun h => absurd h.1 ha⟩, fun h => absurd h.1 ha⟩

/-! ### The notification -/

/-- The webhook ingests a notification exactly when every instance label can be resolved and
no text has a NUL character. -/
theorem ingests_iff (w : WebhookWorld) (hw : ReadsTimestamps w) (db : Platform) (body : Json)
    (raws : List (List (String × Json))) (hbody : validatePayload body = .ok raws)
    (alerts : List V4Alert) (hraws : List.Forall₂ (fun raw a => V4Alert.IsRaw a raw) raws alerts)
    (hdistinct : (alerts.map (·.fingerprint)).Nodup)
    (hone : ∀ a ∈ alerts, (rowsWith db.alerts a.fingerprint).length ≤ 1) :
    Ingests w db body alerts ↔
      ∀ a ∈ alerts, Resolvable db.devices a.instanceLabel ∧ a.nulFree = true := by
  obtain ⟨hok, hstored⟩ := run_processAlerts hw hraws hdistinct 0 db hone
  have hrun : (alertmanagerWebhook w body).run db =
      match (processAlerts w 0 raws).run db with
      | (.ok created, t) => (.ok ⟨200, .obj [("received", .nat raws.length),
          ("created", .nat created)]⟩, t)
      | (.error e, t) => (.error e, t) := by
    simp only [alertmanagerWebhook, hbody, Program.run_bind]
    rcases (processAlerts w 0 raws).run db with ⟨o, t⟩
    cases o <;> rfl
  have hanswer : (∃ data, ((alertmanagerWebhook w body).run db).1 = .ok ⟨200, data⟩) ↔
      ∀ a ∈ alerts, a.Accepted := by
    rw [← hok, hrun]
    rcases (processAlerts w 0 raws).run db with ⟨o, t⟩
    cases o <;> simp
  have hstore : ((alertmanagerWebhook w body).run db).2 = ((processAlerts w 0 raws).run db).2 := by
    rw [hrun]
    rcases (processAlerts w 0 raws).run db with ⟨o, t⟩
    cases o <;> rfl
  have hdevice (hall : ∀ a ∈ alerts, a.Accepted) (a : V4Alert) (ha : a ∈ alerts) :
      Ingested ((processAlerts w 0 raws).run db).2 a ↔
        IsDeviceAt db.devices (hostPart a.instanceLabel)
          (foundDevice db.devices (ipText a.instanceLabel)) := by
    obtain ⟨id, row, hrow, hcolumns, hdev⟩ := (hstored hall).row a ha
    rw [Ingested, (hstored hall).devices, ← hdev]
    constructor
    · rintro ⟨id', row', hrow', -, hdevice⟩
      rw [hrow] at hrow'
      obtain ⟨-, rfl⟩ : _ ∧ row = row' := by simpa using hrow'
      exact hdevice
    · exact fun hdevice => ⟨id, row, hrow, hcolumns, hdevice⟩
  rw [Ingests, hanswer, hstore]
  constructor
  · rintro ⟨hall, hingested⟩ a ha
    have hat := (hdevice hall a ha).mp (hingested a ha)
    exact ⟨(resolvable_iff db.devices a.instanceLabel).mpr ⟨(hall a ha).1, hat⟩, (hall a ha).2⟩
  · intro h
    have hlabel (a : V4Alert) (ha : a ∈ alerts) :=
      (resolvable_iff db.devices a.instanceLabel).mp (h a ha).1
    have hall : ∀ a ∈ alerts, a.Accepted := fun a ha => ⟨(hlabel a ha).1, (h a ha).2⟩
    exact ⟨hall, fun a ha => (hdevice hall a ha).mpr (hlabel a ha).2⟩

/-! ### Two notifications -/

/-- The JSON object of an alert. -/
def V4Alert.raw (a : V4Alert) : List (String × Json) := [
  ("status", .str a.status), ("labels", .obj (texts a.labels)),
  ("annotations", .obj (texts a.annotations)), ("startsAt", .str a.startsAt),
  ("endsAt", .str a.endsAt), ("generatorURL", .str a.generatorUrl),
  ("fingerprint", .str a.fingerprint)]

theorem V4Alert.isRaw_raw (a : V4Alert) : a.IsRaw a.raw := ⟨rfl, rfl, rfl, rfl, rfl, rfl, rfl⟩

def rfcWorld : WebhookWorld where
  parseDatetime := fun text => .ok (rfc3339 text)
  pyStr := Json.typeName
  clock := fun k => k

theorem rfcWorld_readsTimestamps : ReadsTimestamps rfcWorld := fun _ _ h => congrArg Except.ok h

def firing (alertname label fingerprint : String) (hname : alertname.length ≤ 255)
    (hlabel : label.length ≤ 255) (hne : fingerprint ≠ "") (hlength : fingerprint.length ≤ 64) :
    V4Alert where
  status := "firing"
  labels := [("alertname", alertname), ("instance", label), ("severity", "critical")]
  annotations := []
  startsAt := "2024-01-01T00:00:00Z"
  endsAt := "0001-01-01T00:00:00Z"
  generatorUrl := "http://prometheus:9090/graph"
  fingerprint := fingerprint
  startsAt_ok := by decide
  endsAt_ok := by decide
  fingerprint_ne := hne
  fingerprint_length := hlength
  status_length := by decide
  alertName_length := hname
  instance_length := hlabel
  generatorUrl_length := by decide

/-- An alert on the device of the lab, and one without an instance. -/
def deviceAlerts : List V4Alert := [
  firing "InterfaceDown" "10.0.0.1:161" "abc123def456" (by decide) (by decide) (by decide)
    (by decide),
  firing "Watchdog" "" "0f0f0f" (by decide) (by decide) (by decide) (by decide)]

/-- The lab after an earlier notification of the first alert. -/
def notifiedLab : Platform :=
  { lab with alerts := Table.empty.insert {
      alertName := "InterfaceDown", fingerprint := "abc123def456", receivedAt := 0 } }

theorem ingests_deviceAlerts :
    Ingests rfcWorld notifiedLab (notification (deviceAlerts.map V4Alert.raw)) deviceAlerts :=
  (ingests_iff rfcWorld rfcWorld_readsTimestamps notifiedLab
    (notification (deviceAlerts.map V4Alert.raw)) (deviceAlerts.map V4Alert.raw) rfl deviceAlerts
    (.cons (V4Alert.isRaw_raw _) (.cons (V4Alert.isRaw_raw _) .nil)) (by decide)
    (by decide)).mpr (by
      have hnone : ipAddress "" = none := by decide
      refine List.forall_mem_cons.mpr ⟨⟨.inl (by decide), by decide⟩, ?_⟩
      refine List.forall_mem_singleton.mpr ⟨.inr ⟨by decide, fun id d _ => ?_⟩, by decide⟩
      exact fun heq => by cases hnone.symm.trans heq)

/-- An alert of the host rules, whose instances are names. -/
def hostAlert : V4Alert :=
  firing "HostHighCPU" "node_exporter:9100" "a1b2c3" (by decide) (by decide) (by decide) (by decide)

/-- The notification of a host alert passes validation and is not ingested. -/
theorem not_ingests_hostAlert :
    validatePayload (notification [hostAlert.raw]) = .ok [hostAlert.raw] ∧
      hostAlert.IsRaw hostAlert.raw ∧ lab.alerts.rows = [] ∧
      ¬ Ingests rfcWorld lab (notification [hostAlert.raw]) [hostAlert] := by
  refine ⟨rfl, hostAlert.isRaw_raw, rfl, fun h => ?_⟩
  have hraised : ((alertmanagerWebhook rfcWorld (notification [hostAlert.raw])).run lab).1 =
      .error inetError := rfl
  obtain ⟨⟨data, hok⟩, -⟩ := h
  rw [hraised] at hok
  cases hok

end DevSecOpsPlatform.AlertIngestion
