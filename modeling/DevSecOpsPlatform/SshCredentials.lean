import DevSecOpsPlatform.InventoryViews
import DevSecOpsPlatform.NetmikoSessions

/-!
# The credentials that an SSH connection uses

A device's address, vendor, type, user name and port come from the last request that gave
them. The password does not: `DeviceSerializer` makes `ssh_password` write-only but leaves it
out of its fields, so that no request reaches the column, which keeps its default.
-/

namespace DevSecOpsPlatform.SshCredentials

open KeyedTables StatementPrograms PlatformModels PlatformStore RolePermissions PythonValues
open IpAddresses PlatformSerializers InventoryViews NetmikoSessions

/-- The body of a request on a device: what the serializer reads from it, and the password,
which it does not read. -/
structure DeviceBody where
  fields : DeviceData
  sshPassword : Option String := none

/-- The value of a field in the last body that has it. -/
def lastSupplied {α : Type} (field : DeviceBody → Option α) (bodies : List DeviceBody) : Option α :=
  bodies.foldl (fun last body => (field body).or last) none

/-- Requests on a device that were all accepted, in the order in which they came, with the
store that they lead to. Between them anything may happen that leaves the row. -/
inductive Accepted : List DeviceBody → Platform → DeviceId → Prop
  | post {db : Platform} (caller : Option UserId) (now : DateTime)
      (body : DeviceBody)
      (hrun : ((createDevice caller now body.fields).run db).1.isOk = true) :
      Accepted [body] ((createDevice caller now body.fields).run db).2 db.devices.nextId
  | update {bodies : List DeviceBody} {db : Platform} {id : DeviceId}
      (h : Accepted bodies db id) (caller : Option UserId) (method : Method)
      (hmethod : method = .put ∨ method = .patch) (now : DateTime) (body : DeviceBody)
      (hrun : ((updateDevice caller method now id body.fields).run db).1.isOk = true) :
      Accepted (bodies ++ [body]) ((updateDevice caller method now id body.fields).run db).2 id
  | other {bodies : List DeviceBody} {db db' : Platform} {id : DeviceId}
      (h : Accepted bodies db id) (hsame : db'.devices.get? id = db.devices.get? id) :
      Accepted bodies db' id

/-- The parameters of the connection are those that were last given, and the defaults where
none was. -/
structure Used (bodies : List DeviceBody) (params : SshParams) : Prop where
  host : (lastSupplied (·.fields.ipAddress) bodies).bind ipAddress = some params.host
  deviceType : ∀ d : Device, d.vendor = (lastSupplied (·.fields.vendor) bodies).getD .cisco →
    d.deviceType = (lastSupplied (·.fields.deviceType) bodies).getD .unknown →
    params.deviceType = d.netmikoDeviceType
  username : params.username = (lastSupplied (·.fields.sshUsername) bodies).getD "admin"
  password : params.password = (lastSupplied (·.sshPassword) bodies).getD ""
  port : params.port = (lastSupplied (·.fields.sshPort) bodies).getD 22

/-- The columns of the row behind these parameters. -/
structure Stored (bodies : List DeviceBody) (d : Device) : Prop where
  address : (lastSupplied (·.fields.ipAddress) bodies).bind ipAddress = some d.ipAddress
  vendor : d.vendor = (lastSupplied (·.fields.vendor) bodies).getD .cisco
  deviceType : d.deviceType = (lastSupplied (·.fields.deviceType) bodies).getD .unknown
  username : d.sshUsername = (lastSupplied (·.fields.sshUsername) bodies).getD "admin"
  password : d.sshPassword = ""
  port : d.sshPort = (lastSupplied (·.fields.sshPort) bodies).getD 22

variable {bodies : List DeviceBody} {db : Platform} {id : DeviceId} {d : Device}
  {body : DeviceBody} {caller : Option UserId} {now : DateTime} {response : Response}

theorem exists_of_isOk {α : Type} {x : Except Exn α} (h : x.isOk = true) : ∃ a, x = .ok a := by
  cases x with
  | error e => cases h
  | ok a => exact ⟨a, rfl⟩

theorem lastSupplied_append {α : Type} (field : DeviceBody → Option α) (bodies : List DeviceBody)
    (body : DeviceBody) :
    lastSupplied field (bodies ++ [body]) = (field body).or (lastSupplied field bodies) := by
  rw [lastSupplied, List.foldl_append]
  rfl

theorem lastSupplied_singleton {α : Type} (field : DeviceBody → Option α) (body : DeviceBody) :
    lastSupplied field [body] = field body := Option.or_none

/-! ### One request -/

/-- What goes on after the validation has a valid address, if any. -/
theorem run_validateDevice_bind {β : Type} {self : Option DeviceId} {data : DeviceData}
    {f : Option IpAddress → Statement β} {b : β}
    (h : ((validateDevice self data >>= f).run db).1 = .ok b) :
    ∃ address, data.address = .ok address ∧
      (validateDevice self data >>= f).run db = (f address).run db := by
  rw [validateDevice, Program.run_statement_bind] at h ⊢
  cases hfields : data.fieldsOk with
  | false => simp [hfields] at h
  | true =>
    cases haddress : data.address with
    | error e => simp [hfields, haddress] at h
    | ok address =>
      refine ⟨address, rfl, ?_⟩
      simp only [hfields, haddress, require_true, ok_bind] at h ⊢
      split at h
      · rename_i a t hchecks
        obtain ⟨_, -, hchecks⟩ := ok_of_bind hchecks
        obtain ⟨rfl, rfl⟩ := Prod.mk.inj (Except.ok.inj hchecks)
        rfl
      · cases h

theorem address_of_data {data : DeviceData} {address : Option IpAddress}
    (h : data.address = .ok address) :
    (data.ipAddress = none ∧ address = none) ∨
      ∃ value a, data.ipAddress = some value ∧ ipAddress value = some a ∧ address = some a := by
  unfold DeviceData.address at h
  cases hvalue : data.ipAddress with
  | none => exact .inl ⟨rfl, by simpa [hvalue] using h.symm⟩
  | some value =>
    right
    simp only [hvalue, validateIpAddress] at h
    cases ha : ipAddress value with
    | none => simp [ha] at h
    | some a => exact ⟨value, a, rfl, ha, by simpa [ha] using h.symm⟩

/-- An accepted POST adds the device that its fields make. -/
theorem row_of_createDevice {data : DeviceData}
    (h : ((createDevice caller now data).run db).1 = .ok response) :
    ∃ (value : String) (a : IpAddress) (base : Device), data.ipAddress = some value ∧
      ipAddress value = some a ∧ base.deviceType = .unknown ∧ base.vendor = .cisco ∧
      base.sshUsername = "admin" ∧ base.sshPassword = "" ∧ base.sshPort = 22 ∧
      ((createDevice caller now data).run db).2.devices =
        db.devices.insert (data.apply (some a) base) := by
  unfold createDevice at h ⊢
  obtain ⟨user, hpermit⟩ := run_permit_bind_ok h
  rw [hpermit] at h ⊢
  obtain ⟨address, haddress, hvalidate⟩ := run_validateDevice_bind h
  rw [hvalidate] at h ⊢
  rcases address_of_data haddress with ⟨-, rfl⟩ | ⟨value, a, hvalue, ha, rfl⟩
  · cases data.hostname <;> simp at h
  · cases hname : data.hostname with
    | none => simp [hname] at h
    | some hostname =>
      simp only [hname] at h ⊢
      obtain ⟨hinsert, -⟩ := run_insertRow_bind_ok h
      refine ⟨value, a, {
        hostname, ipAddress := a, createdAt := now, updatedAt := now
        createdBy := some user.id }, hvalue, ha, rfl, rfl, rfl, rfl, rfl, ?_⟩
      rw [Device.create, hinsert]
      rfl

/-- An accepted PUT or PATCH writes its fields into the row. -/
theorem row_of_updateDevice {method : Method} {data : DeviceData}
    (h : ((updateDevice caller method now id data).run db).1 = .ok response) :
    ∃ address d, data.address = .ok address ∧ db.devices.get? id = some d ∧
      ((updateDevice caller method now id data).run db).2.devices.get? id =
        some { data.apply address d with updatedAt := now } := by
  unfold updateDevice at h ⊢
  obtain ⟨user, hpermit⟩ := run_permit_bind_ok h
  rw [hpermit] at h ⊢
  obtain ⟨d, hget, hfound⟩ := run_getObject_bind_ok h
  rw [hfound] at h ⊢
  dsimp only at h ⊢
  obtain ⟨address, haddress, hvalidate⟩ := run_validateDevice_bind h
  rw [hvalidate] at h ⊢
  refine ⟨address, d, haddress, hget, ?_⟩
  split at h
  · simp at h
  · rename_i hrequired
    rw [if_neg hrequired]
    have hsaved := run_saveRow_bind_ok hget h
    rw [saveDevice, hsaved]
    have hrow := Table.get?_update_self db.devices id
      (fun _ => ({ data.apply address d with updatedAt := now } : Device))
    rw [hget] at hrow
    exact hrow

/-! ### Sequences of requests -/

theorem getD_lastSupplied_append {α : Type} (field : DeviceBody → Option α) (default : α) :
    (lastSupplied field (bodies ++ [body])).getD default =
      (field body).getD ((lastSupplied field bodies).getD default) := by
  rw [lastSupplied_append]
  cases field body <;> rfl

/-- A request that is accepted writes what it supplies. -/
theorem Stored.update {address : Option IpAddress} (h : Stored bodies d)
    (haddress : body.fields.address = .ok address) :
    Stored (bodies ++ [body]) { body.fields.apply address d with updatedAt := now } where
  address := by
    rw [lastSupplied_append]
    rcases address_of_data haddress with ⟨hnone, rfl⟩ | ⟨value, a, hvalue, ha, rfl⟩
    · rw [hnone, Option.none_or]
      exact h.address
    · rw [hvalue, Option.some_or]
      exact ha
  vendor := by
    rw [getD_lastSupplied_append, ← h.vendor]
    rfl
  deviceType := by
    rw [getD_lastSupplied_append, ← h.deviceType]
    rfl
  username := by
    rw [getD_lastSupplied_append, ← h.username]
    rfl
  password := h.password
  port := by
    rw [getD_lastSupplied_append, ← h.port]
    rfl

/-- What the accepted requests leave in the row. -/
theorem stored_of_accepted (h : Accepted bodies db id) :
    ∃ d, db.devices.get? id = some d ∧ Stored bodies d := by
  induction h with
  | @post db caller now body hrun =>
    obtain ⟨response, hrun⟩ := exists_of_isOk hrun
    obtain ⟨value, a, base, hvalue, ha, htype, hvendor, husername, hpassword, hport, hdevices⟩ :=
      row_of_createDevice hrun
    refine ⟨body.fields.apply (some a) base, ?_, ?_⟩
    · rw [hdevices]
      exact Table.get?_insert_nextId _ _
    · constructor
      · rw [lastSupplied_singleton, hvalue]
        exact ha
      · rw [lastSupplied_singleton, ← hvendor]
        rfl
      · rw [lastSupplied_singleton, ← htype]
        rfl
      · rw [lastSupplied_singleton, ← husername]
        rfl
      · exact hpassword
      · rw [lastSupplied_singleton, ← hport]
        rfl
  | @update bodies db id _ caller method _ now body hrun ih =>
    obtain ⟨response, hrun⟩ := exists_of_isOk hrun
    obtain ⟨d, hget, hstored⟩ := ih
    obtain ⟨address, d', haddress, hget', hrow⟩ := row_of_updateDevice hrun
    obtain rfl := Option.some.inj (hget.symm.trans hget')
    exact ⟨_, hrow, hstored.update haddress⟩
  | @other bodies db db' id _ hsame ih =>
    obtain ⟨d, hget, hstored⟩ := ih
    exact ⟨d, hsame.trans hget, hstored⟩

/-- The parameters are those that were last given exactly when the last password that was
given, if any, is the empty one. -/
theorem used_iff (h : Accepted bodies db id) :
    ∃ d, db.devices.get? id = some d ∧
      (Used bodies (buildParams d) ↔ (lastSupplied (·.sshPassword) bodies).getD "" = "") := by
  obtain ⟨d, hget, hstored⟩ := stored_of_accepted h
  refine ⟨d, hget, ?_⟩
  constructor
  · intro hused
    exact hused.password.symm.trans hstored.password
  · intro hempty
    refine ⟨hstored.address, fun e hvendor htype => ?_, hstored.username, ?_, hstored.port⟩
    · have hv : e.vendor = d.vendor := hvendor.trans hstored.vendor.symm
      have ht : e.deviceType = d.deviceType := htype.trans hstored.deviceType.symm
      have hsame : d.netmikoDeviceType = e.netmikoDeviceType := by
        rw [Device.netmikoDeviceType, Device.netmikoDeviceType, hv, ht]
      exact hsame
    · exact hstored.password.trans hempty.symm

def labSwitch : DeviceData where
  hostname := some "Core-SW"
  ipAddress := some "192.168.100.10"
  deviceType := some .switch
  vendor := some .cisco
  sshUsername := some "admin"

def labChange : DeviceData where
  sshUsername := some "netops"
  sshPort := some 2222

/-- A switch is added, and gets another user name and port. -/
def labBodies (sshPassword : Option String) : List DeviceBody :=
  [{ fields := labSwitch, sshPassword }, { fields := labChange }]

/-- The store after these requests of the lab's administrator. -/
def labAfter : Platform :=
  ((updateDevice (some 1) .patch 7 2 labChange).run
    ((createDevice (some 1) 5 labSwitch).run lab).2).2

theorem accepted_labBodies (sshPassword : Option String) :
    Accepted (labBodies sshPassword) labAfter 2 := by
  have hpost : ((createDevice (some 1) 5 labSwitch).run lab).1.isOk = true := by decide +kernel
  have hpatch : ((updateDevice (some 1) .patch 7 2 labChange).run
      ((createDevice (some 1) 5 labSwitch).run lab).2).1.isOk = true := by decide +kernel
  have haccepted := Accepted.post (some 1) 5 { fields := labSwitch, sshPassword } hpost
  exact .update haccepted (some 1) .patch (.inr rfl) 7 { fields := labChange } hpatch

/-- Without a password, the parameters are those of the requests. -/
theorem used_without_password :
    ∃ d, labAfter.devices.get? 2 = some d ∧ Used (labBodies none) (buildParams d) := by
  obtain ⟨d, hget, hiff⟩ := used_iff (accepted_labBodies none)
  exact ⟨d, hget, hiff.mpr rfl⟩

/-- The password that the API documents is accepted and not used. -/
theorem not_used_with_password :
    Accepted (labBodies (some "cisco123")) labAfter 2 ∧
      ∀ d, labAfter.devices.get? 2 = some d →
        ¬ Used (labBodies (some "cisco123")) (buildParams d) := by
  have haccepted := accepted_labBodies (some "cisco123")
  refine ⟨haccepted, fun d hget hused => ?_⟩
  obtain ⟨d', hget', hstored⟩ := stored_of_accepted haccepted
  obtain rfl := Option.some.inj (hget.symm.trans hget')
  have hempty := hused.password.symm.trans hstored.password
  exact absurd hempty (by decide)

end DevSecOpsPlatform.SshCredentials
