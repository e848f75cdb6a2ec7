import DevSecOpsPlatform.PlatformChanges

/-!
# What a caller without a role can change

Every request but the webhook's starts with the check of its permission class. A caller who
is not authenticated, has no profile or is read-only, and is no superuser, passes that check
for a GET request only, which writes nothing; so the requests of such callers can be left
out of any run. Profiles are written behind the check for administrators.
-/

namespace DevSecOpsPlatform.RoleNoninterference

open KeyedTables StatementPrograms PlatformModels PlatformStore RolePermissions PythonValues
open InventoryTasks ProvisioningTasks ProvisioningViews MonitoringViews SecurityTasks
open ProgramInterleaving PlatformOperations PlatformChanges

/-! ### Callers -/

/-- The caller is not authenticated, or is no superuser and has no profile or is read-only. -/
def Unprivileged (caller : Option UserId) (db : Platform) : Prop :=
  ∀ u, authenticate caller db = some u →
    u.isSuperuser = false ∧ (u.role = none ∨ u.role = some .readOnly)

/-- The caller is not authenticated, or is neither a superuser nor of role admin. -/
def NotAdministrator (caller : Option UserId) (db : Platform) : Prop :=
  ∀ u, authenticate caller db = some u → u.isSuperuser = false ∧ u.role ≠ some .admin

theorem isEngineer_eq_false {role : Option Role} (h : role = none ∨ role = some .readOnly) :
    isEngineer role = false := by
  rcases h with rfl | rfl <;> rfl

theorem isAdminOrNetworkEngineer_eq_false {caller : Option UserId} {db : Platform}
    {u : RequestUser} (h : Unprivileged caller db) (hu : authenticate caller db = some u) :
    isAdminOrNetworkEngineer (some u) = false := by
  obtain ⟨hsuper, hrole⟩ := h u hu
  simp [isAdminOrNetworkEngineer, hsuper, isEngineer_eq_false hrole]

theorem readOnlyOrAbove_eq_false {m : Method} (hm : m.isSafe = false) {caller : Option UserId}
    {db : Platform} {u : RequestUser} (h : Unprivileged caller db)
    (hu : authenticate caller db = some u) : readOnlyOrAbove m (some u) = false := by
  obtain ⟨hsuper, hrole⟩ := h u hu
  simp [readOnlyOrAbove, hm, hsuper, isEngineer_eq_false hrole]

theorem isAdminOnly_eq_false {caller : Option UserId} {db : Platform} {u : RequestUser}
    (h : NotAdministrator caller db) (hu : authenticate caller db = some u) :
    isAdminOnly (some u) = false := by
  obtain ⟨hsuper, hrole⟩ := h u hu
  simp [isAdminOnly, hsuper, hrole]

theorem Unprivileged.notAdministrator {caller : Option UserId} {db : Platform}
    (h : Unprivileged caller db) : NotAdministrator caller db := by
  intro u hu
  obtain ⟨hsuper, hrole⟩ := h u hu
  refine ⟨hsuper, fun hadmin => ?_⟩
  simp [hadmin] at hrole

/-! ### Requests -/

/-- The permission class and the caller of a request other than a webhook post. -/
def gate : Operation → Option ((Option RequestUser → Bool) × Option UserId)
  | .get allows caller _ => some (allows, caller)
  | .createDevice caller _ _ => some (readOnlyOrAbove .post, caller)
  | .updateDevice caller method _ _ _ => some (readOnlyOrAbove method, caller)
  | .destroyDevice caller _ => some (readOnlyOrAbove .delete, caller)
  | .checkReachability caller _ _ => some (isAdminOrNetworkEngineer, caller)
  | .createDiscoveryJob caller _ _ _ => some (isAdminOrNetworkEngineer, caller)
  | .createTemplate caller _ _ => some (isAdminOrNetworkEngineer, caller)
  | .updateTemplate caller _ _ _ _ => some (isAdminOrNetworkEngineer, caller)
  | .destroyTemplate caller _ => some (isAdminOrNetworkEngineer, caller)
  | .preview _ caller _ _ => some (isAdminOrNetworkEngineer, caller)
  | .createProvisioningJob caller _ _ _ => some (isAdminOrNetworkEngineer, caller)
  | .acknowledge caller _ _ => some (readOnlyOrAbove .patch, caller)
  | .partialUpdateAlert caller _ _ => some (readOnlyOrAbove .patch, caller)
  | .createRule caller _ _ => some (isAdminOrNetworkEngineer, caller)
  | .updateRule caller _ _ _ _ => some (isAdminOrNetworkEngineer, caller)
  | .destroyRule caller _ => some (isAdminOrNetworkEngineer, caller)
  | .setGolden caller _ => some (isAdminOrNetworkEngineer, caller)
  | .runCompliance caller _ _ _ => some (isAdminOrNetworkEngineer, caller)
  | .runDrift caller _ _ => some (isAdminOrNetworkEngineer, caller)
  | .takeSnapshot caller _ _ _ => some (isAdminOrNetworkEngineer, caller)
  | .createUserProfile caller => some (isAdminOnly, caller)
  | .updateUserProfile caller _ _ _ => some (isAdminOnly, caller)
  | .destroyUserProfile caller _ => some (isAdminOnly, caller)
  | _ => none

/-- The caller of a request other than a webhook post. -/
def callerOf (o : Operation) : Option (Option UserId) := (gate o).map Prod.snd

/-- The router sends only PUT and PATCH to the update of an object. -/
def Routed : Operation → Prop
  | .updateDevice _ method _ _ _ | .updateTemplate _ method _ _ _ | .updateRule _ method _ _ _ =>
    method = .put ∨ method = .patch
  | _ => True

/-- A request checks its permission class first. -/
theorem program_of_gate {o : Operation} {allows : Option RequestUser → Bool}
    {caller : Option UserId} (h : gate o = some (allows, caller)) :
    ∃ f, o.program = permit allows caller >>= f := by
  cases o with
  | alertmanagerWebhook => cases h
  | runDiscovery => cases h
  | checkDeviceReachability => cases h
  | refreshAllDeviceStatus => cases h
  | executeProvisioningJob => cases h
  | runComplianceCheck => cases h
  | runDriftDetection => cases h
  | takeConfigSnapshot => cases h
  | _ =>
    obtain ⟨rfl, rfl⟩ := Prod.mk.inj (Option.some.inj h)
    exact ⟨_, Program.bind_assoc _ _ _⟩

/-- The permission classes other than that of a GET request turn an unprivileged caller away. -/
theorem allows_eq_false {o : Operation} {allows : Option RequestUser → Bool}
    {caller : Option UserId} {db : Platform} (hgate : gate o = some (allows, caller))
    (hrouted : Routed o) (h : Unprivileged caller db) :
    (∃ view, o = .get allows caller view) ∨
      ∀ u, authenticate caller db = some u → allows (some u) = false := by
  have hengineer : ∀ u, authenticate caller db = some u →
      isAdminOrNetworkEngineer (some u) = false :=
    fun u hu => isAdminOrNetworkEngineer_eq_false h hu
  have hmethod (m : Method) (hm : m.isSafe = false) : ∀ u, authenticate caller db = some u →
      readOnlyOrAbove m (some u) = false := fun u hu => readOnlyOrAbove_eq_false hm h hu
  have hadmin : ∀ u, authenticate caller db = some u → isAdminOnly (some u) = false :=
    fun u hu => isAdminOnly_eq_false h.notAdministrator hu
  have hupdate (m : Method) (hm : m = .put ∨ m = .patch) : m.isSafe = false := by
    rcases hm with rfl | rfl <;> rfl
  cases o with
  | get allows caller view =>
    obtain ⟨rfl, rfl⟩ := Prod.mk.inj (Option.some.inj hgate)
    exact .inl ⟨view, rfl⟩
  | alertmanagerWebhook => cases hgate
  | runDiscovery => cases hgate
  | checkDeviceReachability => cases hgate
  | refreshAllDeviceStatus => cases hgate
  | executeProvisioningJob => cases hgate
  | runComplianceCheck => cases hgate
  | runDriftDetection => cases hgate
  | takeConfigSnapshot => cases hgate
  | updateDevice =>
    obtain ⟨rfl, rfl⟩ := Prod.mk.inj (Option.some.inj hgate)
    exact .inr (hmethod _ (hupdate _ hrouted))
  | createDevice | destroyDevice | acknowledge | partialUpdateAlert =>
    obtain ⟨rfl, rfl⟩ := Prod.mk.inj (Option.some.inj hgate)
    exact .inr (hmethod _ rfl)
  | createUserProfile | updateUserProfile | destroyUserProfile =>
    obtain ⟨rfl, rfl⟩ := Prod.mk.inj (Option.some.inj hgate)
    exact .inr hadmin
  | _ =>
    obtain ⟨rfl, rfl⟩ := Prod.mk.inj (Option.some.inj hgate)
    exact .inr hengineer

/-! ### What a request that is turned away does -/

/-- A permission check that fails ends the request. -/
theorem permit_denied {β : Type} {allows : Option RequestUser → Bool} {caller : Option UserId}
    {db : Platform} (h : ∀ u, authenticate caller db = some u → allows (some u) = false)
    (f : RequestUser → Statement β) :
    (permit allows caller >>= f).write db = db ∧
      ∃ e, (permit allows caller >>= f).next db = .raise e := by
  rw [permit, Program.write_statement_bind, Program.next_statement_bind]
  cases hu : authenticate caller db with
  | none => exact ⟨rfl, _, rfl⟩
  | some u =>
    have hdenied : allows (some u) = false := h u hu
    simp [hdenied]

/-- The relation of a statement that leaves every table and the queue as they are. -/
def Same (db db' : Platform) : Prop := db' = db

instance : Std.Refl Same := ⟨fun _ => rfl⟩

theorem same_of_denied {o : Operation} {allows : Option RequestUser → Bool}
    {caller : Option UserId} {db : Platform} (hgate : gate o = some (allows, caller))
    (h : ∀ u, authenticate caller db = some u → allows (some u) = false) :
    Same db (o.program.write db) ∧ (o.program.next db).Writes Same := by
  obtain ⟨f, hf⟩ := program_of_gate hgate
  obtain ⟨hwrite, e, hnext⟩ := permit_denied h f
  rw [hf]
  exact ⟨hwrite, hnext ▸ trivial⟩

/-- A request of an unprivileged caller changes nothing, whatever it is. -/
theorem same_of_unprivileged {o : Operation} {caller : Option UserId} {db : Platform}
    (hcaller : callerOf o = some caller) (hrouted : Routed o) (h : Unprivileged caller db) :
    Same db (o.program.write db) ∧ (o.program.next db).Writes Same := by
  obtain ⟨⟨allows, named⟩, hgate, rfl⟩ := Option.map_eq_some_iff.mp hcaller
  rcases allows_eq_false hgate hrouted h with ⟨view, rfl⟩ | hdenied
  · have hget : (Operation.get allows named view).program.Writes Same :=
      writes_get allows named view
    exact ⟨hget.write_refl db, hget.next db⟩
  · exact same_of_denied hgate hdenied

/-! ### Profiles -/

/-- The requests that write profiles. -/
def writesProfiles : Operation → Bool
  | .updateUserProfile .. | .destroyUserProfile .. => true
  | _ => false

theorem profiles_of_effect {o : Operation} {db db' : Platform} (ho : writesProfiles o = false)
    (h : Effect o db db') : db'.profiles = db.profiles := by
  cases h with
  | common hchange => cases hchange <;> rfl
  | saveProfile => cases ho
  | deleteProfile => cases ho
  | _ => rfl

/-- A request to write profiles is for administrators. -/
theorem gate_of_writesProfiles {o : Operation} (ho : writesProfiles o = true) :
    ∃ caller, gate o = some (isAdminOnly, caller) := by
  cases o with
  | updateUserProfile => exact ⟨_, rfl⟩
  | destroyUserProfile => exact ⟨_, rfl⟩
  | _ => cases ho

/-! ### Runs -/

section

variable {store : Platform} {operations : List Operation} {i : ℕ} {o : Operation}

/-- A thread whose first statement leaves the store and has only such statements after it
changes nothing. -/
theorem same_history (hi : operations[i]? = some o) (schedule : List ℕ)
    (h : ∀ p, ((startAll store operations).history i schedule).head? = some p →
      Same p.1 (o.program.write p.1) ∧ (o.program.next p.1).Writes Same) :
    ∀ p ∈ (startAll store operations).history i schedule, p.2 = p.1 := by
  rcases Pool.history_cases (threads_startAll store hi) schedule with hnone | ⟨s, later, hh, hl⟩
  · simp [hnone]
  · obtain ⟨hfirst, hrest⟩ := h _ (by rw [hh]; rfl)
    intro p hp
    rw [hh] at hp
    rcases List.mem_cons.mp hp with rfl | hp
    · exact hfirst
    · exact hl Same hrest p hp

/-- The requests of callers without a role leave every table and the queue as they are, so a
run ends as it does without them; and only administrators and superusers change profiles. -/
theorem role_noninterference (store : Platform) (operations : List Operation)
    (hrouted : ∀ o ∈ operations, Routed o) (schedule : List ℕ) (removed : ℕ → Bool)
    (hremoved : ∀ i, removed i = true → ∃ o caller, operations[i]? = some o ∧
      callerOf o = some caller ∧
      ∀ p, ((startAll store operations).history i schedule).head? = some p →
        Unprivileged caller p.1) :
    (∀ i, removed i = true →
      ∀ p ∈ (startAll store operations).history i schedule, p.2 = p.1) ∧
    ((startAll store operations).run schedule).store =
      ((startAll store operations).run (schedule.filter (fun i => !removed i))).store ∧
    ∀ i o, operations[i]? = some o →
      (∀ caller, callerOf o = some caller →
        ∀ p, ((startAll store operations).history i schedule).head? = some p →
          NotAdministrator caller p.1) →
      ∀ p ∈ (startAll store operations).history i schedule, p.2.profiles = p.1.profiles := by
  have hsame : ∀ i, removed i = true →
      ∀ p ∈ (startAll store operations).history i schedule, p.2 = p.1 := by
    intro i hi
    obtain ⟨o, caller, ho, hcaller, hun⟩ := hremoved i hi
    refine same_history ho schedule fun p hp => ?_
    exact same_of_unprivileged hcaller (hrouted o (List.mem_of_getElem? ho)) (hun p hp)
  refine ⟨hsame, Pool.store_run_filter hsame, fun i o ho hcaller p hp => ?_⟩
  cases hw : writesProfiles o with
  | true =>
    obtain ⟨caller, hgate⟩ := gate_of_writesProfiles hw
    have hadmin := hcaller caller (by rw [callerOf, hgate]; rfl)
    have hkeep := same_history ho schedule fun p hp =>
      same_of_denied hgate fun u hu => isAdminOnly_eq_false (hadmin p hp) hu
    rw [hkeep p hp]
  | false =>
    exact profiles_of_effect hw
      (Pool.writes_history (threads_startAll store ho) (writes_program o) schedule p hp)

end

/-- A platform with an administrator, a read-only user and one device. -/
def viewerLab : Platform :=
  { lab with
    users := lab.users.insert { username := "viewer" }
    profiles := Table.empty.insert { user := 2, createdAt := 0 } }

/-- The read-only user lists the devices and an anonymous caller deletes one while the
administrator deletes it. -/
def labRequests : List Operation :=
  [.get (readOnlyOrAbove .get) (some 2) (fun db => ⟨200, .nat db.devices.rows.length⟩),
    .destroyDevice none 1, .destroyDevice (some 1) 1]

theorem role_noninterference_of_lab :
    let c := startAll viewerLab labRequests
    (∀ i, decide (i < 2) = true → ∀ p ∈ c.history i [0, 1, 2, 2, 0, 2], p.2 = p.1) ∧
    (c.run [0, 1, 2, 2, 0, 2]).store =
      (c.run ([0, 1, 2, 2, 0, 2].filter (fun i => !decide (i < 2)))).store ∧
    ∀ i o, labRequests[i]? = some o →
      (∀ caller, callerOf o = some caller →
        ∀ p, (c.history i [0, 1, 2, 2, 0, 2]).head? = some p → NotAdministrator caller p.1) →
      ∀ p ∈ c.history i [0, 1, 2, 2, 0, 2], p.2.profiles = p.1.profiles := by
  refine role_noninterference viewerLab labRequests (fun o ho => ?_) [0, 1, 2, 2, 0, 2]
    (fun i => decide (i < 2)) (fun i hi => ?_)
  · simp only [labRequests, List.mem_cons, List.not_mem_nil, or_false] at ho
    rcases ho with rfl | rfl | rfl <;> trivial
  · have hi2 : i < 2 := of_decide_eq_true hi
    obtain rfl | rfl : i = 0 ∨ i = 1 := by omega
    · refine ⟨_, some 2, rfl, rfl, fun p hp u hu => ?_⟩
      obtain rfl := Option.some.inj hp
      obtain rfl := Option.some.inj hu
      exact ⟨rfl, .inr rfl⟩
    · refine ⟨_, none, rfl, rfl, fun p hp u hu => ?_⟩
      cases hu

end DevSecOpsPlatform.RoleNoninterference
