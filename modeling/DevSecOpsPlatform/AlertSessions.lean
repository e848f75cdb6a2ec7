import DevSecOpsPlatform.AlertUpserts
import DevSecOpsPlatform.GuardedRuns

/-!
# Concurrent notifications, statement by statement

Each webhook request is a session of the database. For every alert it looks the device up,
and then `update_or_create` is a transaction: it selects the rows of the fingerprint FOR
UPDATE, inserts a row or updates the one it locked, and commits. A select sees what is
committed and waits for the locks that other sessions hold on the rows it finds; a row that
another session has inserted and not committed it neither sees nor waits for.
-/

namespace DevSecOpsPlatform.AlertSessions

open KeyedTables StatementPrograms PlatformModels PlatformStore RolePermissions PythonValues
open IpAddresses AlertManagerPayloads MonitoringViews AlertUpserts GuardedRuns

/-! ### Sessions -/

/-- The statement a request executes next, with what its transaction holds. -/
inductive Phase where
  | lookup
  | select (fingerprint : Json) (d : AlertDefaults)
  | insert (fingerprint : String) (d : AlertDefaults)
  | update (fingerprint : String) (d : AlertDefaults) (id : AlertId)
  | commitInsert (row : Alert)
  | commitUpdate (row : Alert) (id : AlertId)
  | answered (response : Response)
  | raised (e : Exn)

/-- The row the transaction has locked. -/
def Phase.locks : Phase → Option AlertId
  | update _ _ id | commitUpdate _ id => some id
  | _ => none

/-- The fingerprint that the transaction found without a row, from the select to the commit. -/
def Phase.inserts : Phase → Option String
  | insert f _ => some f
  | commitInsert row => some row.fingerprint
  | _ => none

/-- The row the transaction updates, with the fingerprint it was found under. -/
def Phase.updates : Phase → Option (AlertId × String)
  | update f _ id => some (id, f)
  | commitUpdate row id => some (id, row.fingerprint)
  | _ => none

/-- A webhook request at work; the head of `remaining` is the alert in hand. -/
structure Session where
  world : WebhookWorld
  received : ℕ
  created : ℕ := 0
  next : ℕ := 0
  remaining : List (List (String × Json))
  phase : Phase := .lookup

def Session.start (w : WebhookWorld) (body : Json) : Session :=
  match validatePayload body with
  | .error errors => {
      world := w, received := 0, remaining := [], phase := .answered ⟨400, errors⟩ }
  | .ok alerts => { world := w, received := alerts.length, remaining := alerts }

/-- The loop's next round up to the transaction, or the answer after the last round. -/
def Session.lookup (s : Session) (db : Platform) : Phase :=
  match s.remaining with
  | [] => .answered ⟨200, .obj [("received", .nat s.received), ("created", .nat s.created)]⟩
  | raw :: _ =>
    match (do
      let input ← alertInput raw
      let device ← ((firstDevice input.ip).run db).1
      let d ← alertDefaults s.world raw input device
      return (input.fingerprint, d)) with
    | .ok (fingerprint, d) => .select fingerprint d
    | .error e => .raised e

/-- The select, when `held` are the rows that other sessions have locked. -/
def Session.select (s : Session) (db : Platform) (held : AlertId → Bool) (fingerprint : Json)
    (d : AlertDefaults) : Phase :=
  match charColumn s.world.pyStr 64 fingerprint with
  | .error e => .raised e
  | .ok f =>
    if (rowsWith db.alerts f).any (fun r => held r.1) then .select fingerprint d
    else match rowsWith db.alerts f with
      | [] => .insert f d
      | [(id, _)] => .update f d id
      | rows => .raised (multipleAlertsError rows.length)

/-- The insertion or the update, of the row that `commit` then makes visible. -/
def Session.write (s : Session) (f : String) (d : AlertDefaults) (commit : Alert → Phase) : Phase :=
  match d.row s.world.pyStr (s.world.clock s.next) f with
  | .error e => .raised e
  | .ok row => commit row

/-- The session after a commit, at the next alert. -/
def Session.advance (s : Session) (created : ℕ) : Session :=
  { s with
    created := s.created + created
    next := s.next + 1
    remaining := s.remaining.tail
    phase := .lookup }

/-- The committed store and the requests that work on it. -/
structure Sessions where
  store : Platform
  sessions : List Session

namespace Sessions

def start (store : Platform) (requests : List (WebhookWorld × Json)) : Sessions where
  store := store
  sessions := requests.map (fun r => Session.start r.1 r.2)

/-- Another session than the one numbered `i` has locked the row. -/
def held (c : Sessions) (i : ℕ) (id : AlertId) : Bool :=
  c.sessions.zipIdx.any (fun t => t.2 != i && t.1.phase.locks == some id)

/-- Session `i` goes on to `phase`; the store stays. -/
def move (c : Sessions) (i : ℕ) (s : Session) (phase : Phase) : Sessions :=
  { c with sessions := c.sessions.set i { s with phase := phase } }

/-- Session `i` commits; its foreign keys are checked now. -/
def commit (c : Sessions) (i : ℕ) (s : Session) (row : Alert) (created : ℕ)
    (alerts : Table Alert) : Sessions :=
  if refersToOrNull c.store.devices row.device then
    ⟨{ c.store with alerts := alerts }, c.sessions.set i (s.advance created)⟩
  else c.move i s (.raised foreignKeyError)

/-- The next statement of session `i`. -/
def step (c : Sessions) (i : ℕ) : Sessions :=
  match c.sessions[i]? with
  | none => c
  | some s => match s.phase with
    | .lookup => c.move i s (s.lookup c.store)
    | .select fingerprint d => c.move i s (s.select c.store (c.held i) fingerprint d)
    | .insert f d => c.move i s (s.write f d .commitInsert)
    | .update f d id => c.move i s (s.write f d (fun row => .commitUpdate row id))
    | .commitInsert row => c.commit i s row 1 (c.store.alerts.insert row)
    | .commitUpdate row id => c.commit i s row 0 (c.store.alerts.update id (overwrite row))
    | .answered _ | .raised _ => c

def run (c : Sessions) (schedule : List ℕ) : Sessions := runFrom step c schedule

end Sessions

/-! ### Errors that are not MultipleObjectsReturned -/

/-- The computation does not raise MultipleObjectsReturned. -/
def NotMultiple {α : Type} (x : Except Exn α) : Prop :=
  ∀ e, x = .error e → e.cls ≠ .multipleObjectsReturned

theorem notMultiple_ok {α : Type} (a : α) : NotMultiple (.ok a : Except Exn α) :=
  fun _ h => nomatch h

theorem notMultiple_error {α : Type} {e : Exn} (h : e.cls ≠ .multipleObjectsReturned) :
    NotMultiple (.error e : Except Exn α) := by
  intro e' he
  obtain rfl := Except.error.inj he
  exact h

theorem NotMultiple.bind {α β : Type} {x : Except Exn α} {f : α → Except Exn β}
    (hx : NotMultiple x) (hf : ∀ a, NotMultiple (f a)) : NotMultiple (x >>= f) := by
  cases x with
  | ok a => exact hf a
  | error e => exact notMultiple_error (hx e rfl)

theorem notMultiple_require {b : Bool} {e : Exn} (h : e.cls ≠ .multipleObjectsReturned) :
    NotMultiple (require b e) := by
  cases b with
  | true => exact notMultiple_ok ()
  | false => exact notMultiple_error h

theorem notMultiple_textColumn (n : ℕ) (s : String) : NotMultiple (textColumn n s) := by
  refine (notMultiple_require (by decide)).bind fun _ => ?_
  exact (notMultiple_require (by decide)).bind fun _ => notMultiple_ok s

theorem notMultiple_charColumn (pyStr : Json → String) (n : ℕ) (v : Json) :
    NotMultiple (charColumn pyStr n v) := by
  cases v with
  | null => exact notMultiple_error (by decide)
  | _ => exact notMultiple_textColumn n _

theorem notMultiple_jsonColumn (v : Json) : NotMultiple (jsonColumn v) := by
  unfold jsonColumn
  split
  · exact notMultiple_error (by decide)
  · split
    · exact notMultiple_error (by decide)
    · exact notMultiple_ok _

theorem notMultiple_row (d : AlertDefaults) (pyStr : Json → String) (now : DateTime) (f : String) :
    NotMultiple (d.row pyStr now f) := by
  refine (notMultiple_charColumn pyStr 255 _).bind fun _ => ?_
  refine (notMultiple_charColumn pyStr 16 _).bind fun _ => ?_
  refine (notMultiple_charColumn pyStr 255 _).bind fun _ => ?_
  refine (notMultiple_jsonColumn _).bind fun _ => (notMultiple_jsonColumn _).bind fun _ => ?_
  exact (notMultiple_charColumn pyStr 200 _).bind fun _ => notMultiple_ok _

theorem notMultiple_instanceIp (v : Json) : NotMultiple (instanceIp v) := by
  unfold instanceIp
  split
  · exact notMultiple_ok _
  · split <;> exact notMultiple_error (by decide)
  · split <;> exact notMultiple_error (by decide)
  · exact notMultiple_error (by simp)

theorem notMultiple_alertInput (raw : List (String × Json)) : NotMultiple (alertInput raw) := by
  unfold alertInput
  split
  · split
    · exact (notMultiple_instanceIp _).bind fun _ => notMultiple_ok _
    · exact notMultiple_error (fun h => nomatch h)
  · exact notMultiple_error (fun h => nomatch h)

theorem notMultiple_firstDevice (ip : String) (db : Platform) :
    NotMultiple ((firstDevice ip).run db).1 := by
  rw [firstDevice, Program.run_statement]
  by_cases hempty : ip = ""
  · rw [if_pos hempty]
    exact notMultiple_ok _
  · rw [if_neg hempty]
    cases ipAddress ip with
    | some address => exact notMultiple_ok _
    | none => exact notMultiple_error (by decide)

theorem notMultiple_timestamp (w : WebhookWorld) (v : Json) : NotMultiple (timestamp w v) := by
  unfold timestamp
  split
  · split
    · split
      · exact notMultiple_ok _
      · exact notMultiple_error (fun h => nomatch h)
    · exact notMultiple_error (by decide)
  · exact notMultiple_ok _

theorem notMultiple_alertDefaults (w : WebhookWorld) (raw : List (String × Json))
    (input : AlertInput) (device : Option DeviceId) :
    NotMultiple (alertDefaults w raw input device) := by
  refine (notMultiple_timestamp w _).bind fun _ => ?_
  exact (notMultiple_timestamp w _).bind fun _ => notMultiple_ok _

/-! ### What one statement of a session does -/

/-- What moves a session to a phase and leaves a store. -/
inductive Move (db : Platform) (s : Session) : Phase → Platform → Prop where
  /-- The session holds nothing, or what it held. -/
  | quiet (phase : Phase) (hi : ∀ f, phase.inserts = some f → s.phase.inserts = some f)
      (hu : ∀ r, phase.updates = some r → s.phase.updates = some r)
      (he : ∀ e, phase = .raised e → e.cls ≠ .multipleObjectsReturned) : Move db s phase db
  | missing (fingerprint : Json) (f : String) (d : AlertDefaults)
      (hphase : s.phase = .select fingerprint d)
      (hf : charColumn s.world.pyStr 64 fingerprint = .ok f)
      (hrows : rowsWith db.alerts f = []) : Move db s (.insert f d) db
  | found (f : String) (d : AlertDefaults) (id : AlertId) (old : Alert)
      (hrows : rowsWith db.alerts f = [(id, old)]) : Move db s (.update f d id) db
  | several (f : String) (hrows : 1 < (rowsWith db.alerts f).length) :
      Move db s (.raised (multipleAlertsError (rowsWith db.alerts f).length)) db
  | inserted (row : Alert) (hphase : s.phase.inserts = some row.fingerprint) :
      Move db s .lookup { db with alerts := db.alerts.insert row }
  | updated (row : Alert) (id : AlertId) (hphase : s.phase.updates = some (id, row.fingerprint)) :
      Move db s .lookup { db with alerts := db.alerts.update id (overwrite row) }

theorem Move.wait (db : Platform) (s : Session) (h : ∀ e, s.phase ≠ .raised e) :
    Move db s s.phase db :=
  .quiet s.phase (fun _ h => h) (fun _ h => h) (fun e he => absurd he (h e))

theorem Move.raise (db : Platform) (s : Session) {e : Exn} (h : e.cls ≠ .multipleObjectsReturned) :
    Move db s (.raised e) db := by
  refine .quiet _ (fun _ h => nomatch h) (fun _ h => nomatch h) (fun e' he => ?_)
  cases he
  exact h

theorem move_lookup (s : Session) (db : Platform) : Move db s (s.lookup db) db := by
  unfold Session.lookup
  split
  · exact .quiet _ (fun _ h => nomatch h) (fun _ h => nomatch h) (fun _ h => nomatch h)
  · rename_i raw _ _
    split
    · exact .quiet _ (fun _ h => nomatch h) (fun _ h => nomatch h) (fun _ h => nomatch h)
    · rename_i e he
      refine .raise db s (NotMultiple.bind (notMultiple_alertInput raw) (fun input => ?_) e he)
      refine (notMultiple_firstDevice input.ip db).bind fun device => ?_
      exact (notMultiple_alertDefaults s.world raw input device).bind fun _ => notMultiple_ok _

theorem move_select (s : Session) (db : Platform) (held : AlertId → Bool) (fingerprint : Json)
    (d : AlertDefaults) (hphase : s.phase = .select fingerprint d) :
    Move db s (s.select db held fingerprint d) db := by
  unfold Session.select
  split
  · rename_i e he
    exact .raise db s (notMultiple_charColumn _ _ _ e he)
  · rename_i f hf
    split
    · rw [← hphase]
      exact .wait db s (by simp [hphase])
    · split
      · rename_i hrows
        exact .missing fingerprint f d hphase hf hrows
      · rename_i id old hrows
        exact .found f d id old hrows
      · rename_i rows hne hone
        refine .several f ?_
        rcases hrows : rowsWith db.alerts f with _ | ⟨r, _ | _⟩
        · exact absurd hrows hne
        · exact absurd hrows (hone r.1 r.2)
        · simp

theorem move_write (s : Session) (db : Platform) (f : String) (d : AlertDefaults)
    (commit : Alert → Phase)
    (hinserts : ∀ row g, row.fingerprint = f → (commit row).inserts = some g →
      s.phase.inserts = some g)
    (hupdates : ∀ row r, row.fingerprint = f → (commit row).updates = some r →
      s.phase.updates = some r)
    (hraised : ∀ row e, commit row ≠ .raised e) :
    Move db s (s.write f d commit) db := by
  unfold Session.write
  split
  · rename_i e he
    exact .raise db s (notMultiple_row _ _ _ _ e he)
  · rename_i row hrow
    have hf := (row_columns hrow).1
    exact .quiet _ (fun g => hinserts row g hf) (fun r => hupdates row r hf)
      (fun e he => absurd he (hraised row e))

/-- What a step can do: nothing, or move one session. -/
theorem step_cases (c : Sessions) (i : ℕ) :
    c.step i = c ∨ ∃ s s' db', c.sessions[i]? = some s ∧ Move c.store s s'.phase db' ∧
      c.step i = ⟨db', c.sessions.set i s'⟩ := by
  unfold Sessions.step
  cases hs : c.sessions[i]? with
  | none => exact .inl rfl
  | some s =>
    have hmove {phase : Phase} (h : Move c.store s phase c.store) :
        ∃ t s' db', some s = some t ∧ Move c.store t s'.phase db' ∧
          c.move i s phase = ⟨db', c.sessions.set i s'⟩ :=
      ⟨s, { s with phase := phase }, c.store, rfl, h, rfl⟩
    have hcommit (row : Alert) (created : ℕ) (alerts : Table Alert)
        (h : Move c.store s .lookup { c.store with alerts := alerts }) :
        ∃ t s' db', some s = some t ∧ Move c.store t s'.phase db' ∧
          c.commit i s row created alerts = ⟨db', c.sessions.set i s'⟩ := by
      unfold Sessions.commit
      split
      · exact ⟨s, s.advance created, _, rfl, h, rfl⟩
      · exact hmove (.raise c.store s (by decide))
    dsimp only
    split
    · exact .inr (hmove (move_lookup s c.store))
    · rename_i fingerprint d hphase
      exact .inr (hmove (move_select s c.store _ fingerprint d hphase))
    · rename_i f d hphase
      refine .inr (hmove (move_write s c.store f d _ ?_ ?_ ?_))
      · rintro row g rfl hg
        simpa [hphase, Phase.inserts] using hg
      · exact fun _ _ _ h => nomatch h
      · exact fun _ _ h => nomatch h
    · rename_i f d id hphase
      refine .inr (hmove (move_write s c.store f d _ ?_ ?_ ?_))
      · exact fun _ _ _ h => nomatch h
      · rintro row r rfl hr
        simpa [hphase, Phase.updates] using hr
      · exact fun _ _ h => nomatch h
    · rename_i row hphase
      exact .inr (hcommit row 1 _ (.inserted row (by simp [hphase, Phase.inserts])))
    · rename_i row id hphase
      exact .inr (hcommit row 0 _ (.updated row id (by simp [hphase, Phase.updates])))
    · exact .inl rfl
    · exact .inl rfl

/-! ### The invariant of orderly runs -/

/-- The fingerprint that the session selects next. -/
def Session.selects (s : Session) : Option String :=
  match s.phase with
  | .select fingerprint _ => (charColumn s.world.pyStr 64 fingerprint).toOption
  | _ => none

/-- Session `i` selects a fingerprint without a row only while no other session is between
its own select of that fingerprint and its commit. -/
def Orderly (c : Sessions) (i : ℕ) : Prop :=
  ∀ f ∈ c.sessions[i]?.bind Session.selects, (rowsWith c.store.alerts f).isEmpty →
    ∀ t ∈ c.sessions.zipIdx, t.2 ≠ i → t.1.phase.inserts ≠ some f

instance (c : Sessions) (i : ℕ) : Decidable (Orderly c i) :=
  inferInstanceAs (Decidable (∀ f ∈ c.sessions[i]?.bind Session.selects,
    (rowsWith c.store.alerts f).isEmpty → ∀ t ∈ c.sessions.zipIdx, t.2 ≠ i →
      t.1.phase.inserts ≠ some f))

structure OneRowEach (c : Sessions) : Prop where
  single : ∀ f, (rowsWith c.store.alerts f).length ≤ 1
  inserting : ∀ (i : ℕ) s f, c.sessions[i]? = some s → s.phase.inserts = some f →
    rowsWith c.store.alerts f = []
  alone : ∀ (i j : ℕ) s t f, c.sessions[i]? = some s → c.sessions[j]? = some t →
    s.phase.inserts = some f → t.phase.inserts = some f → i = j
  updating : ∀ (i : ℕ) s id f, c.sessions[i]? = some s → s.phase.updates = some (id, f) →
    ∃ a, (id, a) ∈ rowsWith c.store.alerts f
  raised : ∀ (i : ℕ) s e, c.sessions[i]? = some s → s.phase = .raised e →
    e.cls ≠ .multipleObjectsReturned

/-- The session that moved, or one that did not. -/
theorem session_cases {α : Type} {l : List α} {i j : ℕ} {s' t : α}
    (h : (l.set i s')[j]? = some t) :
    (j = i ∧ t = s') ∨ (j ≠ i ∧ l[j]? = some t) := by
  rw [List.getElem?_set] at h
  split at h
  · rename_i hij
    split at h
    · exact .inl ⟨hij.symm, (Option.some.inj h).symm⟩
    · cases h
  · rename_i hij
    exact .inr ⟨fun hji => hij hji.symm, h⟩

theorem oneRowEach_start (store : Platform) (requests : List (WebhookWorld × Json))
    (hone : ∀ f, (rowsWith store.alerts f).length ≤ 1) :
    OneRowEach (Sessions.start store requests) := by
  have hphase (i : ℕ) (s : Session)
      (hs : (Sessions.start store requests).sessions[i]? = some s) :
      s.phase = .lookup ∨ ∃ r, s.phase = .answered r := by
    obtain ⟨r, -, rfl⟩ := List.mem_map.mp (List.mem_of_getElem? hs)
    unfold Session.start
    split
    · exact .inr ⟨_, rfl⟩
    · exact .inl rfl
  refine ⟨hone, fun i s f hs h => ?_, fun i j s t f hs _ h _ => ?_, fun i s id f hs h => ?_,
    fun i s e hs h => ?_⟩ <;> rcases hphase i s hs with hp | ⟨r, hp⟩ <;> rw [hp] at h <;> cases h

/-- A session that moves without a change of the store, and does not start an insertion that
another session has started, keeps the invariant. -/
theorem OneRowEach.set {c : Sessions} (h : OneRowEach c) {i : ℕ} {s' : Session}
    (hinserting : ∀ f, s'.phase.inserts = some f → rowsWith c.store.alerts f = [] ∧
      ∀ j t, j ≠ i → c.sessions[j]? = some t → t.phase.inserts ≠ some f)
    (hupdating : ∀ id f, s'.phase.updates = some (id, f) →
      ∃ a, (id, a) ∈ rowsWith c.store.alerts f)
    (hraised : ∀ e, s'.phase = .raised e → e.cls ≠ .multipleObjectsReturned) :
    OneRowEach ⟨c.store, c.sessions.set i s'⟩ where
  single := h.single
  inserting := by
    intro j t f hj hf
    rcases session_cases hj with ⟨rfl, rfl⟩ | ⟨-, hj⟩
    · exact (hinserting f hf).1
    · exact h.inserting j t f hj hf
  alone := by
    intro j k t u f hj hk hf hf'
    rcases session_cases hj with ⟨rfl, rfl⟩ | ⟨hne, hold⟩ <;>
      rcases session_cases hk with ⟨rfl, rfl⟩ | ⟨hne', hold'⟩
    · rfl
    · exact absurd hf' ((hinserting f hf).2 k u hne' hold')
    · exact absurd hf ((hinserting f hf').2 j t hne hold)
    · exact h.alone j k t u f hold hold' hf hf'
  updating := by
    intro j t id f hj hf
    rcases session_cases hj with ⟨rfl, rfl⟩ | ⟨-, hj⟩
    · exact hupdating id f hf
    · exact h.updating j t id f hj hf
  raised := by
    intro j t e hj he
    rcases session_cases hj with ⟨rfl, rfl⟩ | ⟨-, hj⟩
    · exact hraised e he
    · exact h.raised j t e hj he

/-- A commit that upserts a row of a fingerprint nobody else inserts keeps the invariant. -/
theorem OneRowEach.committed {c : Sessions} (h : OneRowEach c) {i : ℕ} {s' : Session} {row : Alert}
    (hphase : s'.phase = .lookup)
    (halone : ∀ j t, j ≠ i → c.sessions[j]? = some t →
      t.phase.inserts ≠ some row.fingerprint) :
    OneRowEach ⟨{ c.store with alerts := (upsert c.store.alerts row).2 }, c.sessions.set i s'⟩ where
  single := by
    intro f
    by_cases hf : f = row.fingerprint
    · obtain ⟨id, result, hrow, -⟩ := rowsWith_upsert (h.single row.fingerprint)
      simp [hf, hrow]
    · rw [rowsWith_upsert_of_ne (h.single row.fingerprint) hf]
      exact h.single f
  inserting := by
    intro j t f hj hf
    rcases session_cases hj with ⟨rfl, rfl⟩ | ⟨hne, hold⟩
    · simp [hphase, Phase.inserts] at hf
    · have hother : f ≠ row.fingerprint := by
        rintro rfl
        exact halone j t hne hold hf
      rw [rowsWith_upsert_of_ne (h.single row.fingerprint) hother]
      exact h.inserting j t f hold hf
  alone := by
    intro j k t u f hj hk hf hf'
    rcases session_cases hj with ⟨rfl, rfl⟩ | ⟨-, hold⟩
    · simp [hphase, Phase.inserts] at hf
    · rcases session_cases hk with ⟨rfl, rfl⟩ | ⟨-, hold'⟩
      · simp [hphase, Phase.inserts] at hf'
      · exact h.alone j k t u f hold hold' hf hf'
  updating := by
    intro j t id f hj hf
    rcases session_cases hj with ⟨rfl, rfl⟩ | ⟨-, hold⟩
    · simp [hphase, Phase.updates] at hf
    · obtain ⟨a, ha⟩ := h.updating j t id f hold hf
      by_cases hother : f = row.fingerprint
      · subst hother
        exact mem_rowsWith_upsert (h.single _) ha
      · rw [rowsWith_upsert_of_ne (h.single row.fingerprint) hother]
        exact ⟨a, ha⟩
  raised := by
    intro j t e hj he
    rcases session_cases hj with ⟨rfl, rfl⟩ | ⟨-, hold⟩
    · simp [hphase] at he
    · exact h.raised j t e hold he

/-- An orderly step keeps the invariant. -/
theorem OneRowEach.step {c : Sessions} (h : OneRowEach c) (i : ℕ) (hi : Orderly c i) :
    OneRowEach (c.step i) := by
  obtain heq | ⟨s, s', db', hs, hmove, heq⟩ := step_cases c i
  · rw [heq]
    exact h
  · rw [heq]
    generalize hphase : s'.phase = phase at hmove
    cases hmove with
    | quiet _ hinserts hupdates hraised =>
      refine h.set (fun f hf => ?_) (fun id f hf => ?_) (fun e he => hraised e (hphase ▸ he))
      · have hold := hinserts f (hphase ▸ hf)
        refine ⟨h.inserting i s f hs hold, fun j t hne hj hf' => ?_⟩
        exact hne (h.alone j i t s f hj hs hf' hold)
      · exact h.updating i s id f hs (hupdates (id, f) (hphase ▸ hf))
    | missing fingerprint f d hselect hf hrows =>
      refine h.set (fun g hg => ?_) (fun id g hg => ?_) (fun e he => ?_)
      · obtain rfl : f = g := by simpa [hphase, Phase.inserts] using hg
        refine ⟨hrows, fun j t hne hj => ?_⟩
        have hselects : f ∈ c.sessions[i]?.bind Session.selects := by
          simp [hs, Session.selects, hselect, hf, Except.toOption]
        exact hi f hselects (by simp [hrows]) (t, j) (List.mem_zipIdx_iff_getElem?.mpr hj) hne
      · simp [hphase, Phase.updates] at hg
      · simp [hphase] at he
    | found f d id old hrows =>
      refine h.set (fun g hg => ?_) (fun id' g hg => ?_) (fun e he => ?_)
      · simp [hphase, Phase.inserts] at hg
      · obtain ⟨rfl, rfl⟩ : id = id' ∧ f = g := by simpa [hphase, Phase.updates] using hg
        exact ⟨old, by simp [hrows]⟩
      · simp [hphase] at he
    | several f hrows => exact absurd (h.single f) (by omega)
    | inserted row hinserts =>
      have hnil := h.inserting i s row.fingerprint hs hinserts
      rw [← upsert_nil hnil]
      refine h.committed hphase (fun j t hne hj hf => ?_)
      exact hne (h.alone j i t s row.fingerprint hj hs hf hinserts)
    | updated row id hupdates =>
      obtain ⟨a, ha⟩ := h.updating i s id row.fingerprint hs hupdates
      rw [← upsert_of_mem (h.single row.fingerprint) ha]
      refine h.committed hphase (fun j t _ hj hf => ?_)
      have hnil := h.inserting j t row.fingerprint hj hf
      simp [hnil] at ha

/-- A notification of one alert. -/
def labRequest : WebhookWorld × Json :=
  ({ parseDatetime := fun _ => .ok none, pyStr := Json.typeName, clock := fun k => k },
    notification [[("labels", .obj [("alertname", .str "InterfaceDown")]),
      ("fingerprint", .str "f1")]])

/-- Session 0, on its own, gets from `c` to `c'`. -/
def Reaches (c c' : Sessions) : Prop := ∃ n, c.run (List.replicate n 0) = c'

theorem Reaches.refl (c : Sessions) : Reaches c c := ⟨0, rfl⟩

theorem Reaches.trans {c c' c'' : Sessions} (h : Reaches c c') (h' : Reaches c' c'') :
    Reaches c c'' := by
  obtain ⟨n, rfl⟩ := h
  obtain ⟨m, rfl⟩ := h'
  exact ⟨n + m, by rw [← List.replicate_append_replicate]; exact runFrom_append _ _ _⟩

theorem Reaches.step {c c' : Sessions} (h : c.step 0 = c') : Reaches c c' := ⟨1, h⟩

theorem step_select (db : Platform) (s : Session) (fingerprint : Json) (d : AlertDefaults) :
    Sessions.step ⟨db, [{ s with phase := .select fingerprint d }]⟩ 0 =
      ⟨db, [{ s with phase := s.select db (fun _ => false) fingerprint d }]⟩ := by
  simp [Sessions.step, Sessions.move, Sessions.held, Session.select]

/-- Writing and committing, once the rows of the fingerprint are known. -/
theorem reaches_commit {db : Platform} {s : Session} {f : String} {d : AlertDefaults}
    (hone : (rowsWith db.alerts f).length ≤ 1) (phase : Phase)
    (hphase : phase = .insert f d ∧ rowsWith db.alerts f = [] ∨
      ∃ id old, phase = .update f d id ∧ rowsWith db.alerts f = [(id, old)]) :
    Reaches ⟨db, [{ s with phase := phase }]⟩
      (match d.row s.world.pyStr (s.world.clock s.next) f with
      | .error e => ⟨db, [{ s with phase := .raised e }]⟩
      | .ok row =>
        if refersToOrNull db.devices row.device then
          ⟨{ db with alerts := (upsert db.alerts row).2 },
            [s.advance (upsert db.alerts row).1.toNat]⟩
        else ⟨db, [{ s with phase := .raised foreignKeyError }]⟩) := by
  cases hrow : d.row s.world.pyStr (s.world.clock s.next) f with
  | error e =>
    refine .step ?_
    rcases hphase with ⟨rfl, -⟩ | ⟨id, old, rfl, -⟩ <;>
      simp [Sessions.step, Session.write, hrow, Sessions.move]
  | ok row =>
    obtain ⟨rfl, -⟩ := row_columns hrow
    rcases hphase with ⟨rfl, hrows⟩ | ⟨id, old, rfl, hrows⟩
    · have hwrite : Sessions.step ⟨db, [{ s with phase := .insert row.fingerprint d }]⟩ 0 =
          ⟨db, [{ s with phase := .commitInsert row }]⟩ := by
        simp [Sessions.step, Session.write, hrow, Sessions.move]
      refine (Reaches.step hwrite).trans (.step ?_)
      simp [Sessions.step, Sessions.commit, Sessions.move, upsert, hrows, Session.advance]
    · have hwrite : Sessions.step ⟨db, [{ s with phase := .update row.fingerprint d id }]⟩ 0 =
          ⟨db, [{ s with phase := .commitUpdate row id }]⟩ := by
        simp [Sessions.step, Session.write, hrow, Sessions.move]
      refine (Reaches.step hwrite).trans (.step ?_)
      simp [Sessions.step, Sessions.commit, Sessions.move, upsert, hrows, Session.advance]

/-- The transaction on its own is the upsert. -/
theorem reaches_select (db : Platform) (s : Session) (fingerprint : Json) (d : AlertDefaults) :
    Reaches ⟨db, [{ s with phase := .select fingerprint d }]⟩
      (match (Alert.updateOrCreate s.world (s.world.clock s.next) fingerprint d).run db with
      | (.ok created, t) => ⟨t, [s.advance created.toNat]⟩
      | (.error e, t) => ⟨t, [{ s with phase := .raised e }]⟩) := by
  refine (Reaches.step (step_select db s fingerprint d)).trans ?_
  rw [Alert.updateOrCreate, Program.run_statement]
  cases hf : charColumn s.world.pyStr 64 fingerprint with
  | error e =>
    have hselect : s.select db (fun _ => false) fingerprint d = .raised e := by
      simp [Session.select, hf]
    rw [hselect]
    exact .refl _
  | ok f =>
    by_cases hone : (rowsWith db.alerts f).length ≤ 1
    · have hselect : s.select db (fun _ => false) fingerprint d = .insert f d ∧
            rowsWith db.alerts f = [] ∨
          ∃ id old, s.select db (fun _ => false) fingerprint d = .update f d id ∧
            rowsWith db.alerts f = [(id, old)] := by
        rcases rows_cases hone with hnil | ⟨id, old, hrows⟩
        · exact .inl ⟨by simp [Session.select, hf, hnil], hnil⟩
        · exact .inr ⟨id, old, by simp [Session.select, hf, hrows], hrows⟩
      have hcommit := reaches_commit (s := s) hone _ hselect
      simp only [ok_bind, decide_eq_true hone, require_true]
      cases hrow : d.row s.world.pyStr (s.world.clock s.next) f with
      | error e =>
        rw [hrow] at hcommit
        exact hcommit
      | ok row =>
        rw [hrow] at hcommit
        cases hdevice : refersToOrNull db.devices row.device with
        | true =>
          simp only [hdevice, if_true] at hcommit
          simp only [ok_bind, hdevice, require_true]
          exact hcommit
        | false =>
          simp only [hdevice, Bool.false_eq_true, if_false] at hcommit
          simp only [ok_bind, hdevice, require_false]
          exact hcommit
    · have hselect : s.select db (fun _ => false) fingerprint d =
          .raised (multipleAlertsError (rowsWith db.alerts f).length) := by
        rcases hrows : rowsWith db.alerts f with _ | ⟨r, _ | ⟨r', rest⟩⟩
        · simp [hrows] at hone
        · simp [hrows] at hone
        · simp [Session.select, hf, hrows]
      simp only [ok_bind, decide_eq_false hone, require_false, hselect]
      exact .refl _

/-- A round of the loop, as the session runs it. -/
theorem reaches_round (db : Platform) (s : Session) (raw : List (String × Json))
    (raws : List (List (String × Json))) (hphase : s.phase = .lookup)
    (hraws : s.remaining = raw :: raws) :
    Reaches ⟨db, [s]⟩
      (match (processAlert s.world s.next raw).run db with
      | (.ok created, t) => ⟨t, [s.advance created.toNat]⟩
      | (.error e, t) => ⟨t, [{ s with phase := .raised e }]⟩) := by
  have hlookup : Sessions.step ⟨db, [s]⟩ 0 = ⟨db, [{ s with phase := s.lookup db }]⟩ := by
    simp [Sessions.step, hphase, Sessions.move]
  refine (Reaches.step hlookup).trans ?_
  unfold processAlert
  cases hinput : alertInput raw with
  | error e =>
    have hraised : s.lookup db = .raised e := by simp [Session.lookup, hraws, hinput]
    rw [hraised]
    exact .refl _
  | ok input =>
    simp only [Program.ofExcept_ok, Program.ret_bind]
    rw [Program.run_bind, run_firstDevice_store]
    cases hdevice : ((firstDevice input.ip).run db).1 with
    | error e =>
      have hraised : s.lookup db = .raised e := by simp [Session.lookup, hraws, hinput, hdevice]
      rw [hraised]
      exact .refl _
    | ok device =>
      dsimp only
      cases hd : alertDefaults s.world raw input device with
      | error e =>
        have hraised : s.lookup db = .raised e := by
          simp [Session.lookup, hraws, hinput, hdevice, hd]
        rw [hraised]
        exact .refl _
      | ok d =>
        have hselect : s.lookup db = .select input.fingerprint d := by
          simp [Session.lookup, hraws, hinput, hdevice, hd]
        rw [hselect]
        exact reaches_select db s input.fingerprint d

/-- What a request that has run to its end answers or raises. -/
def outcome : Except Exn Response → Phase
  | .ok response => .answered response
  | .error e => .raised e

theorem reaches_end (s : Session) (hphase : s.phase = .lookup) (db : Platform) :
    ∃ s', Reaches ⟨db, [s]⟩ ⟨((processAlerts s.world s.next s.remaining).run db).2, [s']⟩ ∧
      s'.phase = outcome (((processAlerts s.world s.next s.remaining).run db).1.map (fun count =>
        ⟨200, .obj [("received", .nat s.received), ("created", .nat (s.created + count))]⟩)) := by
  generalize hraws : s.remaining = raws
  induction raws generalizing s db with
  | nil =>
    refine ⟨{ s with phase := s.lookup db }, .step ?_, ?_⟩
    · simp [Sessions.step, hphase, Sessions.move, processAlerts]
    · simp [Session.lookup, hraws, processAlerts, outcome, Except.map]
  | cons raw raws ih =>
    have hround := reaches_round db s raw raws hphase hraws
    rw [processAlerts, Program.run_bind]
    rcases hrun : (processAlert s.world s.next raw).run db with ⟨o, t⟩
    rw [hrun] at hround
    cases o with
    | error e => exact ⟨{ s with phase := .raised e }, hround, rfl⟩
    | ok created =>
      have hraws' : (s.advance created.toNat).remaining = raws := by simp [Session.advance, hraws]
      obtain ⟨s', hreaches, hphase'⟩ := ih (s.advance created.toNat) rfl t hraws'
      have hworld : (s.advance created.toNat).world = s.world := rfl
      have hnext : (s.advance created.toNat).next = s.next + 1 := rfl
      rw [hworld, hnext] at hreaches hphase'
      dsimp only
      rw [Program.run_bind]
      rcases hloop : (processAlerts s.world (s.next + 1) raws).run t with ⟨o, t'⟩
      rw [hloop] at hreaches hphase'
      cases o with
      | error e => exact ⟨s', hround.trans hreaches, hphase'⟩
      | ok count =>
        refine ⟨s', hround.trans hreaches, hphase'.trans ?_⟩
        have hcount : s.created + created.toNat + count = s.created + (count + created.toNat) := by
          omega
        simp [outcome, Except.map, Session.advance, hcount]

/-- A request that runs on its own does to the store what the webhook's program does, and
ends as it does. -/
theorem run_alone (w : WebhookWorld) (body : Json) (db : Platform) :
    ∃ n s, (Sessions.start db [(w, body)]).run (List.replicate n 0) =
        ⟨((alertmanagerWebhook w body).run db).2, [s]⟩ ∧
      s.phase = outcome ((alertmanagerWebhook w body).run db).1 := by
  cases hbody : validatePayload body with
  | error errors =>
    refine ⟨0, Session.start w body, ?_, ?_⟩
    · simp [Sessions.run, Sessions.start, alertmanagerWebhook, hbody]
    · simp [Session.start, alertmanagerWebhook, hbody, outcome]
  | ok alerts =>
    obtain ⟨s', ⟨n, hreaches⟩, hphase⟩ := reaches_end (Session.start w body)
      (by simp [Session.start, hbody]) db
    have hstart : Session.start w body =
        { world := w, received := alerts.length, remaining := alerts } := by
      simp [Session.start, hbody]
    have hsessions : Sessions.start db [(w, body)] = ⟨db, [Session.start w body]⟩ := rfl
    have hrun : (alertmanagerWebhook w body).run db =
        (((processAlerts w 0 alerts).run db).1.map (fun count =>
          ⟨200, .obj [("received", .nat alerts.length), ("created", .nat count)]⟩),
          ((processAlerts w 0 alerts).run db).2) := by
      simp only [alertmanagerWebhook, hbody, Program.run_bind]
      rcases (processAlerts w 0 alerts).run db with ⟨o, t⟩
      cases o <;> rfl
    rw [hstart] at hreaches hphase
    refine ⟨n, s', ?_, ?_⟩
    · rw [hsessions, hstart, hreaches, hrun]
    · rw [hphase, hrun]
      simp

end DevSecOpsPlatform.AlertSessions
