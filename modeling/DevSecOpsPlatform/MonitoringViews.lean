import DevSecOpsPlatform.AlertManagerPayloads
import DevSecOpsPlatform.PlatformSerializers

/-!
# The monitoring endpoints

`alertmanager_webhook` works its alerts off one after the other: it reads the raw alert,
looks the device up, parses the two timestamps and updates or creates the row under the
fingerprint. `AlertViewSet` lists and patches the same rows, and acknowledges them. A text
with a NUL character and a text over the column's length are refused by the database.
-/

namespace DevSecOpsPlatform.MonitoringViews

open KeyedTables StatementPrograms PlatformModels PlatformStore RolePermissions PythonValues
open PlatformSerializers IpAddresses AlertManagerPayloads

/-- What the webhook takes from outside: `parse_datetime`, which may raise a `ValueError`
with some message, `str()` of a value that is not a text, and the clock. -/
structure WebhookWorld where
  parseDatetime : String → Except String (Option DateTime)
  pyStr : Json → String
  clock : ℕ → DateTime

/-! ### Columns -/

def inetError : Exn := ⟨.dataError, "invalid input syntax for type inet"⟩

def textColumn (maxLength : ℕ) (s : String) : Except Exn String := do
  require (!s.toList.any Json.isNul) nulTextError
  require (decide (s.length ≤ maxLength)) tooLongError
  return s

/-- The value of a `CharField` column: `str(value)`. -/
def charColumn (pyStr : Json → String) (maxLength : ℕ) : Json → Except Exn String
  | .null => .error notNullError
  | .str s => textColumn maxLength s
  | v => textColumn maxLength (pyStr v)

/-- The value of a `JSONField` column, which keeps `None` as NULL. -/
def jsonColumn : Json → Except Exn Json
  | .null => .error notNullError
  | v => if v.hasNul then .error nulJsonError else .ok v

/-! ### The alert webhook -/

def attributeError (v : Json) (name : String) : Exn :=
  ⟨.attributeError, "'" ++ v.typeName ++ "' object has no attribute '" ++ name ++ "'"⟩

/-- `AlertSeverity.values` membership, with `AlertSeverity.INFO` for the rest. -/
def severityOf (raw : String) : AlertSeverity :=
  (AlertSeverity.all.find? (fun s => s.value == raw)).getD .info

/-- `instance.split(":")[0] if ":" in instance else instance`. -/
def ipText (label : String) : String := String.ofList (label.toList.takeWhile (· != ':'))

/-- The text that the address lookup receives. A list or an object never is an address. -/
def instanceIp : Json → Except Exn String
  | .str s => .ok (ipText s)
  | .arr items =>
    if items.any (fun v => match v with | .str s => s == ":" | _ => false) then
      .error (attributeError (.arr []) "split")
    else .error inetError
  | .obj entries =>
    if (entries.lookup ":").isSome then .error (attributeError (.obj []) "split")
    else .error inetError
  | v => .error ⟨.typeError, "argument of type '" ++ v.typeName ++ "' is not iterable"⟩

/-- What the loop reads from a raw alert before it looks the device up. -/
structure AlertInput where
  labels : List (String × Json)
  annotations : Json
  fingerprint : Json
  alertStatus : Json
  instanceLabel : Json
  alertName : Json
  severity : AlertSeverity
  ip : String

def alertInput (raw : List (String × Json)) : Except Exn AlertInput :=
  match Json.dictGet raw "labels" (.obj []) with
  | .obj labels =>
    match Json.dictGet labels "severity" (.str "info") with
    | .str severity => do
      let instanceLabel := Json.dictGet labels "instance" (.str "")
      let ip ← instanceIp instanceLabel
      return {
        labels
        annotations := Json.dictGet raw "annotations" (.obj [])
        fingerprint := Json.dictGet raw "fingerprint" (.str "")
        alertStatus := Json.dictGet raw "status" (.str "firing")
        instanceLabel
        alertName := Json.dictGet labels "alertname" (.str "Unknown")
        severity := severityOf (lower severity)
        ip }
    | v => .error (attributeError v "lower")
  | v => .error (attributeError v "get")

/-- The rows that `ip_address=...` matches; the addresses are unique. -/
def devicesAt (db : Platform) (address : IpAddress) : List (DeviceId × Device) :=
  db.devices.select (fun _ d => d.ipAddress == address)

/-- `Device.objects.filter(ip_address=ip).first()`. -/
def firstDevice (ip : String) : Statement (Option DeviceId) :=
  .statement fun db =>
    if ip = "" then .ok (none, db)
    else match ipAddress ip with
      | some address => .ok ((devicesAt db address).head?.map Prod.fst, db)
      | none => .error inetError

/-- `parse_datetime(text) if text else None`. -/
def timestamp (w : WebhookWorld) (v : Json) : Except Exn (Option DateTime) :=
  if v.truthy then
    match v with
    | .str text => match w.parseDatetime text with
      | .ok t => .ok t
      | .error message => .error ⟨.valueError, message⟩
    | _ => .error ⟨.typeError, "fromisoformat: argument must be str"⟩
  else .ok none

/-- The `defaults` of the upsert. -/
structure AlertDefaults where
  alertName : Json
  severity : AlertSeverity
  status : Json
  device : Option DeviceId
  instanceLabel : Json
  labels : Json
  annotations : Json
  startsAt : Option DateTime
  endsAt : Option DateTime
  generatorUrl : Json

/-- What the loop passes to the upsert once it has the device. -/
def alertDefaults (w : WebhookWorld) (raw : List (String × Json)) (input : AlertInput)
    (device : Option DeviceId) : Except Exn AlertDefaults := do
  let startsAt ← timestamp w (Json.dictGet raw "startsAt" .null)
  let endsAt ← timestamp w (Json.dictGet raw "endsAt" .null)
  return {
    alertName := input.alertName
    severity := input.severity
    status := input.alertStatus
    device
    instanceLabel := input.instanceLabel
    labels := .obj input.labels
    annotations := input.annotations
    startsAt
    endsAt
    generatorUrl := Json.dictGet raw "generatorURL" (.str "") }

/-- The row that the defaults make under a fingerprint. -/
def AlertDefaults.row (pyStr : Json → String) (now : DateTime) (fingerprint : String)
    (d : AlertDefaults) : Except Exn Alert := do
  return {
    alertName := ← charColumn pyStr 255 d.alertName
    severity := d.severity
    status := ← charColumn pyStr 16 d.status
    device := d.device
    instanceLabel := ← charColumn pyStr 255 d.instanceLabel
    labels := ← jsonColumn d.labels
    annotations := ← jsonColumn d.annotations
    startsAt := d.startsAt
    endsAt := d.endsAt
    generatorUrl := ← charColumn pyStr 200 d.generatorUrl
    fingerprint
    receivedAt := now }

/-- `setattr` of the defaults on the row that is there. -/
def overwrite (new old : Alert) : Alert :=
  { new with
    receivedAt := old.receivedAt
    acknowledged := old.acknowledged
    acknowledgedAt := old.acknowledgedAt }

def rowsWith (alerts : Table Alert) (fingerprint : String) : List (AlertId × Alert) :=
  alerts.select (fun _ a => a.fingerprint == fingerprint)

def multipleAlertsError (n : ℕ) : Exn :=
  ⟨.multipleObjectsReturned, "get() returned more than one Alert -- it returned " ++
    (if n < 21 then toString n else "more than 20") ++ "!"⟩

/-- Update the row that has the fingerprint, or insert one: whether the row was created,
and the table after. -/
def upsert (alerts : Table Alert) (row : Alert) : Bool × Table Alert :=
  match rowsWith alerts row.fingerprint with
  | [] => (true, alerts.insert row)
  | (id, _) :: _ => (false, alerts.update id (overwrite row))

/-- `Alert.objects.update_or_create(fingerprint=..., defaults=...)`. -/
def Alert.updateOrCreate (w : WebhookWorld) (now : DateTime) (fingerprint : Json)
    (d : AlertDefaults) : Statement Bool :=
  .statement fun db => do
    let fingerprint ← charColumn w.pyStr 64 fingerprint
    let rows := rowsWith db.alerts fingerprint
    require (decide (rows.length ≤ 1)) (multipleAlertsError rows.length)
    let row ← d.row w.pyStr now fingerprint
    require (refersToOrNull db.devices row.device) foreignKeyError
    let (created, alerts) := upsert db.alerts row
    return (created, { db with alerts := alerts })

/-- One round of the loop of `alertmanager_webhook`. -/
def processAlert (w : WebhookWorld) (k : ℕ) (raw : List (String × Json)) : Statement Bool := do
  let input ← Program.ofExcept (alertInput raw)
  let device ← firstDevice input.ip
  let d ← Program.ofExcept (alertDefaults w raw input device)
  Alert.updateOrCreate w (w.clock k) input.fingerprint d

/-- The loop, from the alert numbered `k` on; the number of rows it created. -/
def processAlerts (w : WebhookWorld) : ℕ → List (List (String × Json)) → Statement ℕ
  | _, [] => return 0
  | k, raw :: raws => do
    let created ← processAlert w k raw
    let count ← processAlerts w (k + 1) raws
    return count + created.toNat

/-- `alertmanager_webhook`, past the rate limiter. -/
def alertmanagerWebhook (w : WebhookWorld) (body : Json) : Statement Response :=
  match validatePayload body with
  | .error errors => return ⟨400, errors⟩
  | .ok alerts => do
    let created ← processAlerts w 0 alerts
    return ⟨200, .obj [("received", .nat alerts.length), ("created", .nat created)]⟩

/-! ### AlertViewSet -/

/-- The writable fields of `AlertSerializer`, each value as its field's
`to_internal_value` gives it. -/
structure AlertPatch where
  alertName : Option String := none
  severity : Option AlertSeverity := none
  status : Option String := none
  instanceLabel : Option String := none
  labels : Option Json := none
  annotations : Option Json := none
  startsAt : Option (Option DateTime) := none
  endsAt : Option (Option DateTime) := none
  fingerprint : Option String := none
  acknowledged : Option Bool := none
  acknowledgedAt : Option (Option DateTime) := none

/-- A text that is absent, or passes the field's checks of length, blankness and NUL. -/
def textFieldOk (maxLength : ℕ) (allowBlank : Bool) (value : Option String) : Bool :=
  value.all (fun s => decide (s.length ≤ maxLength) && (allowBlank || s != "") &&
    !s.toList.any Json.isNul)

/-- A document that is absent or not null. -/
def jsonFieldOk (value : Option Json) : Bool :=
  value.all (fun v => match v with | .null => false | _ => true)

/-- `AlertSerializer(partial=True).is_valid`. -/
def AlertPatch.isValid (p : AlertPatch) : Bool :=
  textFieldOk 255 false p.alertName && textFieldOk 16 false p.status &&
    textFieldOk 255 true p.instanceLabel && textFieldOk 64 true p.fingerprint &&
    jsonFieldOk p.labels && jsonFieldOk p.annotations

/-- The attributes of the row after `setattr` of every field that was given. -/
def AlertPatch.apply (p : AlertPatch) (a : Alert) : Alert :=
  { a with
    alertName := p.alertName.getD a.alertName
    severity := p.severity.getD a.severity
    status := p.status.getD a.status
    instanceLabel := p.instanceLabel.getD a.instanceLabel
    labels := p.labels.getD a.labels
    annotations := p.annotations.getD a.annotations
    startsAt := p.startsAt.getD a.startsAt
    endsAt := p.endsAt.getD a.endsAt
    fingerprint := p.fingerprint.getD a.fingerprint
    acknowledged := p.acknowledged.getD a.acknowledged
    acknowledgedAt := p.acknowledgedAt.getD a.acknowledgedAt }

/-- The row an action works on, with the store it was loaded from. -/
def getAlert (id : AlertId) : Statement (Alert × Platform) :=
  getObject (fun db => (db.alerts.get? id).map (fun a => (a, db)))

/-- Nothing deletes alerts, so the row is there. -/
def saveAlert (id : AlertId) (a : Alert) : Statement Alert :=
  saveRow (·.alerts) (fun db t => { db with alerts := t })
    (fun db => do
      require (!(a.labels.hasNul || a.annotations.hasNul)) nulJsonError
      require (refersToOrNull db.devices a.device) foreignKeyError)
    id a a

def acknowledgedRow (now : DateTime) (a : Alert) : Alert :=
  { a with acknowledged := true, acknowledgedAt := some now }

/-- `alert.save(update_fields=["acknowledged", "acknowledged_at"])`. -/
def saveAcknowledged (id : AlertId) (now : DateTime) : Statement Unit :=
  saveFields (·.alerts) (fun db t => { db with alerts := t }) id (acknowledgedRow now)

def acknowledge (caller : Option UserId) (now : DateTime) (id : AlertId) : Statement Response := do
  let _ ← permit (readOnlyOrAbove .patch) caller
  let (alert, loaded) ← getAlert id
  saveAcknowledged id now
  return ⟨200, alertData loaded id (acknowledgedRow now alert)⟩

/-- `AlertViewSet.partial_update`. -/
def partialUpdateAlert (caller : Option UserId) (id : AlertId) (patch : AlertPatch) :
    Statement Response := do
  let _ ← permit (readOnlyOrAbove .patch) caller
  let (alert, loaded) ← getAlert id
  if !patch.isValid then throw (invalidError "Invalid input.")
  let alert ← saveAlert id (patch.apply alert)
  return ⟨200, alertData loaded id alert⟩

/-! ### A notification -/

/-- The body of a notification with the given alerts. -/
def notification (alerts : List (List (String × Json))) : Json := .obj [
  ("version", .str "4"), ("groupKey", .str "interfaces"), ("status", .str "firing"),
  ("receiver", .str "django_webhook"), ("groupLabels", .obj []), ("commonLabels", .obj []),
  ("commonAnnotations", .obj []), ("externalURL", .str "http://alertmanager:9093"),
  ("alerts", .arr (alerts.map .obj))]

end DevSecOpsPlatform.MonitoringViews
