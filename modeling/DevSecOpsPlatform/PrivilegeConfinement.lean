import DevSecOpsPlatform.JobMessages
import DevSecOpsPlatform.RoleNoninterference

/-!
# Who can come to have a role

A level is a permission class that lets superusers and certain roles pass, administrators among
them. Whatever the other users ask for, and however their requests are interleaved, only trusted
users ever pass, as long as trusted callers give the roles of the level to trusted users only.
-/

namespace DevSecOpsPlatform.PrivilegeConfinement

open KeyedTables StatementPrograms PlatformModels PlatformStore RolePermissions PythonValues
open SecurityViews PlatformOperations PlatformChanges RoleNoninterference OrphanJobs JobMessages
open JobHandoffs (Worker)

/-- A permission class and the roles that it lets pass. -/
structure Level where
  allows : Option RequestUser → Bool
  high : Role → Bool
  admin : high .admin = true
  of_allows : ∀ u, allows (some u) = true → u.isSuperuser = true ∨ ∃ r ∈ u.role, high r = true

def administrators : Level where
  allows := isAdminOnly
  high role := role == .admin
  admin := rfl
  of_allows u h := by
    rcases Bool.or_eq_true_iff.mp h with h | h
    · exact .inl h
    · exact .inr ⟨.admin, by simpa using h, rfl⟩

def engineers : Level where
  allows := isAdminOrNetworkEngineer
  high role := role != .readOnly
  admin := rfl
  of_allows u h := by
    rcases Bool.or_eq_true_iff.mp h with h | h
    · exact .inl h
    · cases hrole : u.role with
      | none => simp [hrole, isEngineer] at h
      | some role =>
        refine .inr ⟨role, rfl, ?_⟩
        cases role <;> simp_all [isEngineer]

section

variable {level : Level} {trusted : UserId → Bool} {store db db' : Platform}

/-- Only trusted users pass. -/
def AdmitsOnly (level : Level) (trusted : UserId → Bool) (db : Platform) : Prop :=
  ∀ caller u, authenticate caller db = some u → level.allows (some u) = true → trusted u.id = true

/-- The profile is of the user it was of at the start, and of the level for a trusted user
only. -/
structure Proper (level : Level) (trusted : UserId → Bool) (store : Platform) (id : ℕ)
    (p : UserProfile) : Prop where
  owner : (store.profiles.get? id).map UserProfile.user = some p.user
  role : level.high p.role = true → trusted p.user = true

/-- The superusers and the users of the level are trusted. -/
structure Confined (level : Level) (trusted : UserId → Bool) (store db : Platform) : Prop where
  superusers : ∀ id user, db.users.get? id = some user → user.isSuperuser = true →
    trusted id = true
  profiles : ∀ id p, db.profiles.get? id = some p → Proper level trusted store id p

/-- A trusted caller gives a role of the level to a trusted user only. -/
def GrantsWithin (level : Level) (trusted : UserId → Bool) (store : Platform) (o : Operation) :
    Prop :=
  ∀ caller now id role, o = .updateUserProfile (some caller) now id (some role) →
    trusted caller = true → level.high role = true →
      ∀ p, store.profiles.get? id = some p → trusted p.user = true

theorem Confined.of_eq (h : Confined level trusted store db) (husers : db'.users = db.users)
    (hprofiles : db'.profiles = db.profiles) : Confined level trusted store db' where
  superusers id user huser := h.superusers id user (husers ▸ huser)
  profiles id p hp := h.profiles id p (hprofiles ▸ hp)

theorem Confined.admitsOnly (h : Confined level trusted store db) :
    AdmitsOnly level trusted db := by
  intro caller u hu hallows
  obtain ⟨id, rfl, hid⟩ := Option.bind_eq_some_iff.mp hu
  obtain ⟨user, huser, hactive⟩ := Option.bind_eq_some_iff.mp hid
  split at hactive
  · obtain rfl := Option.some.inj hactive
    rcases level.of_allows _ hallows with hsuper | ⟨role, hrole, hhigh⟩
    · exact h.superusers id user huser hsuper
    · obtain ⟨⟨k, p⟩, hfound, rfl⟩ := Option.map_eq_some_iff.mp hrole
      have hp := (Table.mem_rows_iff _ _ _).mp (List.mem_of_find?_eq_some hfound)
      have hid : p.user = id := by simpa using List.find?_some hfound
      exact hid ▸ (h.profiles k p hp).role hhigh
  · cases hactive

/-- An administrator passes at every level. -/
theorem Confined.administrator (h : Confined level trusted store db) {caller : UserId}
    {u : RequestUser} (hu : authenticate (some caller) db = some u)
    (hadmin : isAdminOnly (some u) = true) : trusted caller = true := by
  have hconfined : Confined administrators trusted store db := {
    superusers := h.superusers
    profiles := fun id p hp =>
      ⟨(h.profiles id p hp).owner, fun hrole => (h.profiles id p hp).role (by
        rw [beq_iff_eq.mp hrole]
        exact level.admin)⟩ }
  obtain rfl := Option.some.inj (caller_of_authenticate hu)
  exact hconfined.admitsOnly _ u hu hadmin

theorem confined_store (h : Confined level trusted store db) {id : ℕ} {p : UserProfile}
    (hp : Proper level trusted store id p) :
    Confined level trusted store { db with profiles := db.profiles.store id p } where
  superusers := h.superusers
  profiles k q hq := by
    by_cases hk : k = id
    · subst hk
      rw [Table.get?_store_self] at hq
      split at hq
      · exact Option.some.inj hq ▸ hp
      · cases hq
    · rw [Table.get?_store_of_ne _ _ hk] at hq
      exact h.profiles k q hq

theorem confined_delete (h : Confined level trusted store db) (id : ℕ) :
    Confined level trusted store { db with profiles := db.profiles.delete id } where
  superusers := h.superusers
  profiles k q hq := by
    dsimp only at hq
    rw [Table.delete, Table.get?_deleteWhere, Option.filter_eq_some_iff] at hq
    exact h.profiles k q hq.1

/-! ### Operations -/

theorem users_of_effect {o : Operation} (h : Effect o db db') : db'.users = db.users := by
  cases h with
  | common hchange => cases hchange <;> rfl
  | _ => rfl

/-- Only an administrator gets to the profile, and saves it as a proper one. -/
theorem keeps_updateUserProfile {caller : Option UserId} {now : DateTime} {id : ℕ}
    {role : Option Role}
    (hgrants : GrantsWithin level trusted store (.updateUserProfile caller now id role)) :
    (updateUserProfile caller now id role).Keeps (Confined level trusted store) := by
  refine Program.keeps_statement_bind fun db u db' h hpermit => ?_
  split at hpermit
  · cases hpermit
  · rename_i user huser
    split at hpermit
    · rename_i hadmin
      obtain ⟨rfl, rfl⟩ := Prod.mk.inj (Except.ok.inj hpermit)
      have hcaller := caller_of_authenticate huser
      subst hcaller
      have htrusted := h.administrator huser hadmin
      refine ⟨h, Program.keeps_statement_bind fun db p db' h hload => ?_⟩
      split at hload
      · rename_i p' hp
        obtain ⟨rfl, rfl⟩ := Prod.mk.inj (Except.ok.inj hload)
        have hproper := h.profiles id p' hp
        refine ⟨h, Program.Keeps.bind (Program.Writes.keeps ?_) fun _ => ?_⟩
        · refine writes_saveRow_of_ok fun _ _ _ hsaved h => confined_store h ?_
          have hrole : level.high (role.getD p'.role) = true → trusted p'.user = true := by
            cases role with
            | none => exact hproper.role
            | some role =>
              intro hhigh
              obtain ⟨q, hq, howner⟩ := Option.map_eq_some_iff.mp hproper.owner
              exact howner ▸ hgrants user.id now id role rfl htrusted hhigh q hq
          rcases hsaved with rfl | rfl <;> exact ⟨hproper.owner, hrole⟩
        · exact (Program.Writes.keeps (Program.writes_query _)).bind fun _ => trivial
      · cases hload
    · cases hpermit

theorem keeps_program {o : Operation} (hgrants : GrantsWithin level trusted store o) :
    o.program.Keeps (Confined level trusted store) := by
  cases ho : writesProfiles o with
  | false =>
    refine Program.Writes.keeps ((writes_program o).mono fun _ _ heffect h => ?_)
    exact h.of_eq (users_of_effect heffect) (profiles_of_effect ho heffect)
  | true =>
    cases o with
    | updateUserProfile caller now id role =>
      exact (keeps_updateUserProfile hgrants).bind fun _ => trivial
    | destroyUserProfile caller id =>
      exact Program.Writes.keeps
        (writes_destroyUserProfile caller id fun _ h => confined_delete h id)
    | _ => cases ho

/-! ### Runs -/

theorem writesProfiles_operation (w : Worker) (m : TaskMessage) (o : Operation)
    (h : writesProfiles o = true) : operation w m ≠ o := by
  rintro rfl
  cases m <;> cases h

/-- In every state of a run only trusted users pass, when this is so at the start and no trusted
caller gives a role of the level to another user. -/
theorem confined_run (level : Level) (trusted : UserId → Bool) (store : Platform)
    (hstore : Confined level trusted store store) (moves : List Move)
    (hmoves : ∀ o, .receive o ∈ moves → GrantsWithin level trusted store o) :
    AdmitsOnly level trusted (System.run { store := store } moves).store := by
  have hrun := invariant_run (K := Confined level trusted store) (fun o ho => keeps_program ho)
    (fun db n x h _ => ⟨h.of_eq rfl rfl, fun w => keeps_program ?_⟩) hstore moves hmoves
  · exact hrun.admitsOnly
  · exact fun caller now id role heq => absurd heq (writesProfiles_operation w x.2 _ rfl)

end

/-! ### A read-only user who asks for more -/

/-- The user asks to be an administrator, before the administrator makes an engineer of it and
after that. -/
def labMoves : List Move :=
  [.receive (.updateUserProfile (some 2) 0 1 (some .admin)),
    .receive (.updateUserProfile (some 1) 0 1 (some .networkEngineer)), .request 1, .request 0,
    .request 1, .request 1, .request 1,
    .receive (.updateUserProfile (some 2) 0 1 (some .admin)), .request 2]

theorem confined_viewerLab :
    Confined administrators (fun id => id == 1) viewerLab viewerLab where
  superusers id user huser hsuper := by
    have hmem : (id, user) ∈ [(1, ⟨"admin", "", true, true⟩), (2, ⟨"viewer", "", true, false⟩)] :=
      (Table.mem_rows_iff _ _ _).mpr huser
    rcases List.mem_cons.mp hmem with heq | hmem
    · obtain ⟨rfl, -⟩ := Prod.mk.inj heq
      rfl
    · obtain ⟨-, rfl⟩ := Prod.mk.inj (List.mem_singleton.mp hmem)
      cases hsuper
  profiles id p hp := by
    have hmem : (id, p) ∈ [(1, ⟨2, .readOnly, 0⟩)] := (Table.mem_rows_iff _ _ _).mpr hp
    obtain ⟨rfl, rfl⟩ := Prod.mk.inj (List.mem_singleton.mp hmem)
    exact ⟨rfl, fun hhigh => by cases hhigh⟩

theorem confined_run_of_viewerLab : AdmitsOnly administrators (fun id => id == 1)
    (System.run { store := viewerLab } labMoves).store := by
  refine confined_run administrators (fun id => id == 1) viewerLab confined_viewerLab labMoves
    fun o ho caller now id role heq htrusted hhigh => ?_
  subst heq
  simp only [labMoves, List.mem_cons, Move.receive.injEq, Operation.updateUserProfile.injEq,
    Option.some.injEq, reduceCtorEq, List.not_mem_nil, or_false, false_or] at ho
  rcases ho with ⟨rfl, -⟩ | ⟨-, -, -, rfl⟩ | ⟨rfl, -⟩
  · cases htrusted
  · cases hhigh
  · cases htrusted

example : profileRole (System.run { store := viewerLab } labMoves).store 2 =
    some .networkEngineer := rfl

end DevSecOpsPlatform.PrivilegeConfinement
