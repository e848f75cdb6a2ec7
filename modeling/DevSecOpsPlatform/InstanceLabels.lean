import DevSecOpsPlatform.AlertReadings

/-!
# Instance labels that name a device by its address

Prometheus writes the address of a target as it is, or with a port, and puts an IPv6 address
with a port in brackets. The webhook takes what stands before the first colon for the
address. It finds the device of an IPv4 address in both forms, and of an IPv6 address in
neither, as the text of every IPv6 address has a colon.
-/

namespace DevSecOpsPlatform.InstanceLabels

open KeyedTables StatementPrograms PlatformModels PlatformStore RolePermissions PythonValues
open IpAddresses AlertManagerPayloads MonitoringViews AlertUpserts AlertIngestion AlertReadings

/-! ### Texts of addresses -/

theorem decimalOctet_toString : ∀ o : Fin 256, decimalOctet (toString o.val).toList = some o := by
  decide +kernel

theorem mapM_decimalOctet (os : List (Fin 256)) :
    (os.map (fun o => (toString o.val).toList)).mapM decimalOctet = some os := by
  induction os with
  | nil => rfl
  | cons o os ih =>
    rw [List.map_cons, List.mapM_cons, decimalOctet_toString, ih]
    rfl

/-- The text of an IPv4 address is read as that address. -/
theorem ipv4Address_text (os : Octets) : ipv4Address (IpAddress.v4 os).text.toList = some os := by
  have hparts : (IpAddress.v4 os).text.toList.splitOn '.' =
      os.val.map (fun o => (toString o.val).toList) := by
    have htext : (IpAddress.v4 os).text.toList =
        ['.'].intercalate (os.val.map (fun o => (toString o.val).toList)) := by
      rw [IpAddress.text, String.toList_intercalate, List.map_map]
      rfl
    rw [htext, List.splitOn_intercalate]
    · intro part hpart hdot
      obtain ⟨o, -, rfl⟩ := List.mem_map.mp hpart
      exact absurd (isDigit_of_decimalOctet (decimalOctet_toString o) '.' hdot) (by decide)
    · intro hnil
      have hlength := congrArg List.length hnil
      rw [List.length_map, os.property] at hlength
      cases hlength
  rw [ipv4Address, hparts, mapM_decimalOctet]
  exact dif_pos os.property

theorem no_colon_text_v4 (os : Octets) : ':' ∉ (IpAddress.v4 os).text.toList := by
  intro h
  exact absurd (ipv4Address_chars (ipv4Address_text os) h) (by decide)

theorem ipAddress_text_v4 (os : Octets) : ipAddress (IpAddress.v4 os).text = some (.v4 os) := by
  rw [ipAddress_eq_ipv4 (no_colon_text_v4 os), ipv4Address_text]
  rfl

/-- The text of an IPv6 address has a colon. -/
theorem colon_mem_text_v6 (hs : Hextets) : ':' ∈ (IpAddress.v6 hs).text.toList := by
  rw [IpAddress.text]
  rcases longestZeroRun hs.val with ⟨start, length⟩
  dsimp only
  split
  · obtain ⟨hextets, hlength⟩ := hs
    match hextets, hlength with
    | a :: b :: rest, _ => simp [colonText]
  · simp

/-! ### Labels -/

inductive LabelForm where
  | bare
  | withPort (port : ℕ)

/-- The label of a target at an address. -/
def instanceText (a : IpAddress) : LabelForm → String
  | .bare => a.text
  | .withPort port =>
    match a with
    | .v4 _ => a.text ++ ":" ++ toString port
    | .v6 _ => "[" ++ a.text ++ "]:" ++ toString port

/-- No other device has the address. -/
def IsOnlyDeviceAt (devices : Table Device) (a : IpAddress) (id : DeviceId) : Prop :=
  ∀ id' d', devices.get? id' = some d' → (d'.ipAddress = a ↔ id' = id)

/-- The webhook takes the address from the label, finds the device that has it, and links
what it reads from an alert with that label to the device. -/
structure Undoes (a : IpAddress) (label : String) : Prop where
  host : instanceIp (.str label) = .ok a.text
  found : ∀ db id d, db.devices.get? id = some d → IsOnlyDeviceAt db.devices a id →
    (firstDevice (ipText label)).run db = (.ok (some id), db)
  linked : ∀ w db raw f id d, db.devices.get? id = some d → IsOnlyDeviceAt db.devices a id →
    Json.dictGet (labelsOf raw) "instance" (.str "") = .str label →
    readAlert w db raw = .ok f → f.device = some id

theorem ne_colon_of_mem {text : String} (h : ':' ∉ text.toList) {c : Char}
    (hc : c ∈ text.toList) : (c != ':') = true := by
  rw [bne_iff_ne]
  rintro rfl
  exact h hc

theorem ipText_of_no_colon {text : String} (h : ':' ∉ text.toList) : ipText text = text := by
  rw [ipText, List.takeWhile_eq_self_iff.mpr fun c hc => ne_colon_of_mem h hc, String.ofList_toList]

theorem ipText_colon {text rest : String} (h : ':' ∉ text.toList) :
    ipText (text ++ ":" ++ rest) = text := by
  have htake : (text.toList ++ ':' :: rest.toList).takeWhile (· != ':') = text.toList := by
    rw [List.takeWhile_append_of_pos fun c hc => ne_colon_of_mem h hc]
    simp
  simp [ipText, htake]

/-- The label of an IPv4 address gives the address back. -/
theorem ipText_instanceText_v4 (os : Octets) (form : LabelForm) :
    ipText (instanceText (.v4 os) form) = (IpAddress.v4 os).text := by
  cases form with
  | bare => exact ipText_of_no_colon (no_colon_text_v4 os)
  | withPort port => exact ipText_colon (no_colon_text_v4 os)

/-- The device of what is read from an alert is the one that the label leads to. -/
theorem device_of_readAlert {w : WebhookWorld} {db : Platform} {raw : List (String × Json)}
    {f : AlertFields} {label : String}
    (hlabel : Json.dictGet (labelsOf raw) "instance" (.str "") = .str label)
    (hread : readAlert w db raw = .ok f) :
    ((firstDevice (ipText label)).run db).1 = .ok f.device := by
  obtain ⟨input, hinput, h⟩ := ok_of_bind hread
  obtain ⟨device, hdevice, h⟩ := ok_of_bind h
  obtain ⟨d, hd, h⟩ := ok_of_bind h
  obtain ⟨fingerprint, -, h⟩ := ok_of_bind h
  obtain ⟨row, hrow, h⟩ := ok_of_bind h
  obtain rfl := Except.ok.inj h
  have hip : input.ip = ipText label := by
    obtain ⟨-, -, -, hinstance⟩ := columns_of_alertInput hinput
    rw [hlabel] at hinstance
    exact (Except.ok.inj hinstance).symm
  have hdev : (alertColumns.get row).device = device :=
    (device_of_row hrow).trans (device_of_alertDefaults hd)
  rw [← hip, hdevice, hdev]

theorem run_firstDevice_of_only {db : Platform} {a : IpAddress} {text : String} {id : DeviceId}
    {d : Device} (htext : ipAddress text = some a) (hget : db.devices.get? id = some d)
    (honly : IsOnlyDeviceAt db.devices a id) : (firstDevice text).run db = (.ok (some id), db) := by
  have hfound : foundDevice db.devices text = some id := by
    have hdevice := isDeviceAt_foundDevice db.devices text
    cases hfound : foundDevice db.devices text with
    | none =>
      rw [hfound] at hdevice
      cases hdevice with
      | missing hmissing =>
        exact absurd (((honly id d hget).mpr rfl) ▸ htext) (hmissing id d hget)
    | some id' =>
      rw [hfound] at hdevice
      cases hdevice with
      | @found _ d' hget' hhost =>
        have haddress : d'.ipAddress = a := Option.some.inj (hhost.symm.trans htext)
        exact congrArg some ((honly id' d' hget').mp haddress)
  rw [run_firstDevice, if_pos (.inr (by simp [htext])), hfound]

/-- The webhook undoes the label of an address exactly when it is an IPv4 address. -/
theorem undoes_instanceText_iff (a : IpAddress) (form : LabelForm) :
    Undoes a (instanceText a form) ↔ ∃ os, a = .v4 os := by
  cases a with
  | v4 os =>
    refine iff_of_true ?_ ⟨os, rfl⟩
    have htext := ipText_instanceText_v4 os form
    have hfound (db : Platform) (id : DeviceId) (d : Device) (hget : db.devices.get? id = some d)
        (honly : IsOnlyDeviceAt db.devices (.v4 os) id) :
        (firstDevice (ipText (instanceText (.v4 os) form))).run db = (.ok (some id), db) := by
      rw [htext]
      exact run_firstDevice_of_only (ipAddress_text_v4 os) hget honly
    refine ⟨congrArg Except.ok htext, hfound, ?_⟩
    intro w db raw f id d hget honly hlabel hread
    have hdevice := device_of_readAlert hlabel hread
    rw [hfound db id d hget honly] at hdevice
    exact (Except.ok.inj hdevice).symm
  | v6 hs =>
    refine iff_of_false (fun h => ?_) (by simp)
    have htext : ipText (instanceText (.v6 hs) form) = (IpAddress.v6 hs).text :=
      Except.ok.inj h.host
    exact ipText_no_colon (instanceText (.v6 hs) form) (htext ▸ colon_mem_text_v6 hs)

/-- A device at `2001:db8::1` is found by neither form of its label. -/
theorem not_undoes_v6 :
    ¬ Undoes (.v6 ⟨[0x2001, 0xdb8, 0, 0, 0, 0, 0, 1], rfl⟩)
        (instanceText (.v6 ⟨[0x2001, 0xdb8, 0, 0, 0, 0, 0, 1], rfl⟩) .bare) ∧
      ¬ Undoes (.v6 ⟨[0x2001, 0xdb8, 0, 0, 0, 0, 0, 1], rfl⟩)
        (instanceText (.v6 ⟨[0x2001, 0xdb8, 0, 0, 0, 0, 0, 1], rfl⟩) (.withPort 9100)) := by
  constructor
  · intro h
    exact absurd (Except.ok.inj h.host) (by decide)
  · intro h
    exact absurd (Except.ok.inj h.host) (by decide)

end DevSecOpsPlatform.InstanceLabels
