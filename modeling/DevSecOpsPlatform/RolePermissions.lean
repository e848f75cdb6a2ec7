import DevSecOpsPlatform.PlatformStore

/-!
# Requests, callers and permission classes

A request is authenticated against the user and profile rows of the moment it is
handled. The permission classes of `apps/inventory/permissions.py` then decide from the
caller, and `ReadOnlyOrAbove` also from the method.
-/

namespace DevSecOpsPlatform.RolePermissions

open KeyedTables StatementPrograms PlatformModels PlatformStore PythonValues

inductive Method where
  | get | head | options | post | put | patch | delete
  deriving DecidableEq, Repr

def Method.isSafe : Method → Bool
  | get | head | options => true
  | _ => false

structure Response where
  status : ℕ
  data : Json

/-- `request.user`, with the role of its profile when it has one. -/
structure RequestUser where
  id : UserId
  isSuperuser : Bool
  role : Option Role
  deriving DecidableEq

def profileRole (db : Platform) (id : UserId) : Option Role :=
  (db.profiles.rows.find? (fun p => p.2.user == id)).map (·.2.role)

/-- The user a token or session names, if that user is active. -/
def authenticate (caller : Option UserId) (db : Platform) : Option RequestUser := do
  let id ← caller
  let user ← db.users.get? id
  if user.isActive then some ⟨id, user.isSuperuser, profileRole db id⟩ else none

def isEngineer : Option Role → Bool
  | some .admin | some .networkEngineer => true
  | _ => false

def isAdminOrNetworkEngineer : Option RequestUser → Bool
  | none => false
  | some u => u.isSuperuser || isEngineer u.role

def isAdminOnly : Option RequestUser → Bool
  | none => false
  | some u => u.isSuperuser || u.role == some .admin

def readOnlyOrAbove (m : Method) : Option RequestUser → Bool
  | none => false
  | some u => m.isSafe || u.isSuperuser || isEngineer u.role

def notAuthenticatedError : Exn :=
  ⟨.notAuthenticated, "Authentication credentials were not provided."⟩

def permissionDeniedError : Exn :=
  ⟨.permissionDenied, "You do not have permission to perform this action."⟩

/-- Authenticate the caller and check the view's permission class. -/
def permit (allows : Option RequestUser → Bool) (caller : Option UserId) :
    Statement RequestUser :=
  .statement fun db => match authenticate caller db with
    | none => .error notAuthenticatedError
    | some u => if allows (some u) then .ok (u, db) else .error permissionDeniedError

/-- `get_object()`. -/
def getObject {α : Type} (find : Platform → Option α) : Statement α :=
  .statement fun db => match find db with
    | some a => .ok (a, db)
    | none => .error ⟨.http404, "Not found."⟩

theorem run_permit_bind {β : Type} (allows : Option RequestUser → Bool) (caller : Option UserId)
    (f : RequestUser → Statement β) (db : Platform) :
    (permit allows caller >>= f).run db = match authenticate caller db with
      | none => (.error notAuthenticatedError, db)
      | some u => if allows (some u) then (f u).run db else (.error permissionDeniedError, db) := by
  rw [permit, Program.run_statement_bind]
  cases authenticate caller db with
  | none => rfl
  | some u => cases h : allows (some u) <;> simp [h]

theorem run_getObject_bind {α β : Type} (find : Platform → Option α) (f : α → Statement β)
    (db : Platform) :
    (getObject find >>= f).run db = match find db with
      | some a => (f a).run db
      | none => (.error ⟨.http404, "Not found."⟩, db) := by
  rw [getObject, Program.run_statement_bind]
  cases find db <;> rfl

/-- What returns behind a gate was let through. -/
theorem run_permit_bind_ok {β : Type} {allows : Option RequestUser → Bool}
    {caller : Option UserId} {f : RequestUser → Statement β} {db : Platform} {b : β}
    (h : ((permit allows caller >>= f).run db).1 = .ok b) :
    ∃ u, (permit allows caller >>= f).run db = (f u).run db := by
  rw [run_permit_bind] at h ⊢
  cases huser : authenticate caller db with
  | none => simp [huser] at h
  | some u =>
    cases hallow : allows (some u) with
    | false => simp [huser, hallow] at h
    | true => exact ⟨u, by simp [hallow]⟩

/-- What returns after it has looked for an object has found it. -/
theorem run_getObject_bind_ok {α β : Type} {find : Platform → Option α} {f : α → Statement β}
    {db : Platform} {b : β} (h : ((getObject find >>= f).run db).1 = .ok b) :
    ∃ a, find db = some a ∧ (getObject find >>= f).run db = (f a).run db := by
  rw [run_getObject_bind] at h ⊢
  cases hfind : find db with
  | none => simp [hfind] at h
  | some a => exact ⟨a, rfl, rfl⟩

theorem writes_permit {R : Platform → Platform → Prop} [Std.Refl R]
    (allows : Option RequestUser → Bool) (caller : Option UserId) :
    (permit allows caller).Writes R := by
  refine Program.writes_statement (fun db u db' h => ?_)
  cases ha : authenticate caller db with
  | none => simp [ha] at h
  | some u' =>
    cases hallows : allows (some u') with
    | false => simp [ha, hallows] at h
    | true =>
      simp only [ha, hallows, if_true, Except.ok.injEq, Prod.mk.injEq] at h
      exact h.2 ▸ refl db

/-- The user of a request is its caller. -/
theorem caller_of_authenticate {caller : Option UserId} {db : Platform} {u : RequestUser}
    (h : authenticate caller db = some u) : caller = some u.id := by
  obtain ⟨id, rfl, hid⟩ := Option.bind_eq_some_iff.mp h
  obtain ⟨user, -, huser⟩ := Option.bind_eq_some_iff.mp hid
  split at huser
  · obtain rfl := Option.some.inj huser
    rfl
  · cases huser

/-- What is behind a gate goes on for the caller. -/
theorem writes_permit_bind {β : Type} {R : Platform → Platform → Prop} [Std.Refl R]
    {allows : Option RequestUser → Bool} {caller : Option UserId} {f : RequestUser → Statement β}
    (h : ∀ u, caller = some u.id → (f u).Writes R) : (permit allows caller >>= f).Writes R := by
  refine Program.writes_statement_bind fun db u db' hrun => ?_
  cases ha : authenticate caller db with
  | none => simp [ha] at hrun
  | some u' =>
    cases hallows : allows (some u') with
    | false => simp [ha, hallows] at hrun
    | true =>
      simp only [ha, hallows, if_true, Except.ok.injEq, Prod.mk.injEq] at hrun
      obtain ⟨rfl, rfl⟩ := hrun
      exact ⟨refl db, h u' (caller_of_authenticate ha)⟩

theorem writes_getObject {α : Type} {R : Platform → Platform → Prop} [Std.Refl R]
    (find : Platform → Option α) : (getObject find).Writes R := by
  refine Program.writes_statement (fun db a db' h => ?_)
  cases hfind : find db with
  | none => simp [hfind] at h
  | some b =>
    simp only [hfind, Except.ok.injEq, Prod.mk.injEq] at h
    exact h.2 ▸ refl db

def invalidError (message : String) : Exn := ⟨.validationError, message⟩

end DevSecOpsPlatform.RolePermissions
