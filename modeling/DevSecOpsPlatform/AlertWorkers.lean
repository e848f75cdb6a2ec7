import DevSecOpsPlatform.AlertSessions

/-!
# Acknowledgements among notifications, statement by statement

An acknowledgement reads the alert without a lock and later writes its two columns, which
waits while a notification has the row locked. A notification updates the row that it has
selected FOR UPDATE: it writes the columns of its defaults, and every date as it was
selected, `acknowledged_at` among them. `commits` is what was committed, in order.

The lock keeps the selected row current until the commit, so that notifications among
themselves run as in `AlertSessions`.
-/

namespace DevSecOpsPlatform.AlertWorkers

open KeyedTables StatementPrograms PlatformModels PlatformStore RolePermissions PythonValues
open PlatformSerializers MonitoringViews AlertUpserts GuardedRuns
open AlertSessions (Session Sessions Phase session_cases)

/-! ### Notifications and acknowledgements at work -/

inductive Request where
  | webhook (w : WebhookWorld) (body : Json)
  | acknowledge (caller : Option UserId) (now : DateTime) (id : AlertId)

/-- The statement an acknowledgement executes next. -/
inductive AckPhase where
  | permit
  | load
  | save (alert : Alert) (loaded : Platform)
  | answered (response : Response)
  | raised (e : Exn)

structure Acknowledgement where
  caller : Option UserId
  now : DateTime
  id : AlertId
  phase : AckPhase := .permit

/-- A request at work; a notification with the row that its transaction has selected. -/
inductive Worker where
  | webhook (s : Session) (selected : Option Alert)
  | acknowledge (a : Acknowledgement)

def Request.start : Request → Worker
  | webhook w body => .webhook (Session.start w body) none
  | acknowledge caller now id => .acknowledge ⟨caller, now, id, .permit⟩

/-- The row the worker has locked, with the fingerprint it was found under. -/
def Worker.updates : Worker → Option (AlertId × String)
  | webhook s _ => s.phase.updates
  | acknowledge _ => none

/-- The fingerprint that the worker is about to insert. -/
def Worker.inserts : Worker → Option String
  | webhook s _ => s.phase.inserts
  | acknowledge _ => none

def Worker.selected : Worker → Option Alert
  | webhook _ selected => selected
  | acknowledge _ => none

/-- The worker has answered or raised. -/
def Worker.completed : Worker → Bool
  | webhook s _ => match s.phase with
    | .answered _ | .raised _ => true
    | _ => false
  | acknowledge a => match a.phase with
    | .answered _ | .raised _ => true
    | _ => false

/-- What a commit writes to the alerts. -/
inductive Commit where
  | upserted (row : Alert)
  | acknowledged (id : AlertId) (now : DateTime)

/-- What the commit makes of the alert `id`. -/
def Commit.apply (id : AlertId) (a : Alert) : Commit → Alert
  | upserted row => if row.fingerprint = a.fingerprint then overwrite row a else a
  | acknowledged id' now => if id' = id then acknowledgedRow now a else a

/-- The columns of the defaults and the dates of the row that was selected, over what is
stored: `save(update_fields=...)` of `update_or_create`. -/
def saveSelected (row : Alert) (selected : Option Alert) (stored : Alert) : Alert :=
  let loaded := selected.getD stored
  { row with
    receivedAt := loaded.receivedAt
    acknowledged := stored.acknowledged
    acknowledgedAt := loaded.acknowledgedAt }

/-- The committed store, the requests that work on it, and what they have committed. -/
structure Workers where
  store : Platform
  workers : List Worker
  commits : List Commit := []

namespace Workers

def start (store : Platform) (requests : List Request) : Workers where
  store := store
  workers := requests.map Request.start

/-- Another worker than the one numbered `i` has locked the row. -/
def held (c : Workers) (i : ℕ) (id : AlertId) : Bool :=
  c.workers.zipIdx.any (fun t => t.2 != i && t.1.updates.map Prod.fst == some id)

/-- Worker `i` goes on as `w`; the store stays. -/
def move (c : Workers) (i : ℕ) (w : Worker) : Workers :=
  { c with workers := c.workers.set i w }

/-- Worker `i` commits and goes on as `w`. -/
def write (c : Workers) (i : ℕ) (w : Worker) (alerts : Table Alert) (x : Commit) : Workers :=
  ⟨{ c.store with alerts := alerts }, c.workers.set i w, c.commits ++ [x]⟩

/-- A notification commits; its foreign keys are checked now. -/
def commit (c : Workers) (i : ℕ) (s : Session) (row : Alert) (created : ℕ)
    (alerts : Table Alert) : Workers :=
  if refersToOrNull c.store.devices row.device then
    c.write i (.webhook (s.advance created) none) alerts (.upserted row)
  else c.move i (.webhook { s with phase := .raised foreignKeyError } none)

/-- The next statement of a notification. -/
def stepWebhook (c : Workers) (i : ℕ) (s : Session) (selected : Option Alert) : Workers :=
  match s.phase with
  | .lookup => c.move i (.webhook { s with phase := s.lookup c.store } none)
  | .select fingerprint d =>
    let phase := s.select c.store (c.held i) fingerprint d
    c.move i (.webhook { s with phase := phase } (phase.locks.bind c.store.alerts.get?))
  | .insert f d => c.move i (.webhook { s with phase := s.write f d .commitInsert } none)
  | .update f d id =>
    c.move i (.webhook { s with phase := s.write f d (fun row => .commitUpdate row id) } selected)
  | .commitInsert row => c.commit i s row 1 (c.store.alerts.insert row)
  | .commitUpdate row id =>
    c.commit i s row 0 (c.store.alerts.update id (saveSelected row selected))
  | .answered _ | .raised _ => c

/-- The next statement of an acknowledgement; its write waits for the row. -/
def stepAcknowledge (c : Workers) (i : ℕ) (a : Acknowledgement) : Workers :=
  match a.phase with
  | .permit => match ((permit (readOnlyOrAbove .patch) a.caller).run c.store).1 with
    | .ok _ => c.move i (.acknowledge { a with phase := .load })
    | .error e => c.move i (.acknowledge { a with phase := .raised e })
  | .load => match ((getAlert a.id).run c.store).1 with
    | .ok (alert, loaded) => c.move i (.acknowledge { a with phase := .save alert loaded })
    | .error e => c.move i (.acknowledge { a with phase := .raised e })
  | .save alert loaded =>
    if c.held i a.id then c
    else match (saveAcknowledged a.id a.now).run c.store with
      | (.ok _, db) =>
        let response := ⟨200, alertData loaded a.id (acknowledgedRow a.now alert)⟩
        c.write i (.acknowledge { a with phase := .answered response }) db.alerts
          (.acknowledged a.id a.now)
      | (.error e, _) => c.move i (.acknowledge { a with phase := .raised e })
  | .answered _ | .raised _ => c

def step (c : Workers) (i : ℕ) : Workers :=
  match c.workers[i]? with
  | none => c
  | some (.webhook s selected) => c.stepWebhook i s selected
  | some (.acknowledge a) => c.stepAcknowledge i a

def run (c : Workers) (schedule : List ℕ) : Workers := runFrom step c schedule

end Workers

/-! ### What one statement does -/

/-- The caller may acknowledge. -/
def permitted (caller : Option UserId) (db : Platform) : Bool :=
  readOnlyOrAbove .patch (authenticate caller db)

def Worker.Serves : Worker → Request → Prop
  | webhook _ _, .webhook _ _ => True
  | acknowledge a, .acknowledge caller now id => a.caller = caller ∧ a.now = now ∧ a.id = id
  | _, _ => False

/-- The worker raises without a reason in the store. -/
def Worker.Sound (w : Worker) (db : Platform) : Prop :=
  ∀ a, w = .acknowledge a → (∀ response, a.phase ≠ .answered response) ∧
    ∀ e, a.phase = .raised e → permitted a.caller db = false ∨ db.alerts.get? a.id = none

open Workers in
/-- What a step does: it waits, moves a worker, or commits. -/
inductive Turn (c : Workers) (i : ℕ) : Workers → Prop where
  | wait : Turn c i c
  | move (w w' : Worker) (hw : c.workers[i]? = some w)
      (hserves : ∀ r, w.Serves r → w'.Serves r) (hsound : w'.Sound c.store)
      (hinserts : ∀ g, w'.inserts = some g → w.inserts = some g ∨ rowsWith c.store.alerts g = [])
      (hupdates : ∀ id g, w'.updates = some (id, g) →
        (w.updates = some (id, g) ∧ w'.selected = w.selected) ∨
        (c.held i id = false ∧ ∃ old, w'.selected = some old ∧
          (id, old) ∈ rowsWith c.store.alerts g)) : Turn c i (c.move i w')
  | inserted (w : Worker) (s : Session) (row : Alert) (hw : c.workers[i]? = some w)
      (hserves : ∀ r, w.Serves r → (Worker.webhook s none).Serves r) (hphase : s.phase = .lookup)
      (hinserts : w.inserts = some row.fingerprint) :
      Turn c i (c.write i (.webhook s none) (c.store.alerts.insert row) (.upserted row))
  | updated (w : Worker) (s : Session) (row : Alert) (id : AlertId) (hw : c.workers[i]? = some w)
      (hserves : ∀ r, w.Serves r → (Worker.webhook s none).Serves r) (hphase : s.phase = .lookup)
      (hupdates : w.updates = some (id, row.fingerprint)) :
      Turn c i (c.write i (.webhook s none)
        (c.store.alerts.update id (saveSelected row w.selected)) (.upserted row))
  | acknowledged (a : Acknowledgement) (response : Response) (old : Alert)
      (hw : c.workers[i]? = some (.acknowledge a)) (hfree : c.held i a.id = false)
      (hget : c.store.alerts.get? a.id = some old) :
      Turn c i (c.write i (.acknowledge { a with phase := .answered response })
        (c.store.alerts.update a.id (acknowledgedRow a.now)) (.acknowledged a.id a.now))

theorem lookup_quiet (s : Session) (db : Platform) :
    (s.lookup db).inserts = none ∧ (s.lookup db).updates = none := by
  unfold Session.lookup
  split
  · exact ⟨rfl, rfl⟩
  · split <;> exact ⟨rfl, rfl⟩

theorem select_cases (s : Session) (db : Platform) (held : AlertId → Bool) (fingerprint : Json)
    (d : AlertDefaults) :
    ((s.select db held fingerprint d).inserts = none ∧
        (s.select db held fingerprint d).updates = none) ∨
      (∃ f, rowsWith db.alerts f = [] ∧ s.select db held fingerprint d = .insert f d) ∨
      ∃ f id old, rowsWith db.alerts f = [(id, old)] ∧ held id = false ∧
        s.select db held fingerprint d = .update f d id := by
  unfold Session.select
  split
  · exact .inl ⟨rfl, rfl⟩
  · rename_i f hf
    split
    · exact .inl ⟨rfl, rfl⟩
    · rename_i hheld
      split
      · rename_i hrows
        exact .inr (.inl ⟨f, hrows, rfl⟩)
      · rename_i id old hrows
        exact .inr (.inr ⟨f, id, old, hrows, by simpa [hrows] using hheld, rfl⟩)
      · exact .inl ⟨rfl, rfl⟩

theorem write_cases (s : Session) (f : String) (d : AlertDefaults) (commit : Alert → Phase) :
    (∃ e, s.write f d commit = .raised e) ∨
      ∃ row, row.fingerprint = f ∧ s.write f d commit = commit row := by
  unfold Session.write
  split
  · rename_i e he
    exact .inl ⟨e, rfl⟩
  · rename_i row hrow
    exact .inr ⟨row, (row_columns hrow).1, rfl⟩

theorem sound_webhook (s : Session) (selected : Option Alert) (db : Platform) :
    (Worker.webhook s selected).Sound db := fun _ h => by cases h

/-- A notification serves the same request after every statement. -/
theorem serves_webhook {s s' : Session} {selected selected' : Option Alert} {r : Request}
    (h : (Worker.webhook s selected).Serves r) : (Worker.webhook s' selected').Serves r := by
  cases r with
  | webhook w body => trivial
  | acknowledge caller now id => exact h.elim

/-- A worker that holds nothing after the statement. -/
theorem Turn.release {c : Workers} {i : ℕ} {w w' : Worker} (hw : c.workers[i]? = some w)
    (hserves : ∀ r, w.Serves r → w'.Serves r) (hsound : w'.Sound c.store)
    (hinserts : w'.inserts = none) (hupdates : w'.updates = none) : Turn c i (c.move i w') :=
  .move w w' hw hserves hsound (by simp [hinserts]) (by simp [hupdates])

theorem turn_commit {c : Workers} {i : ℕ} {s : Session} {selected : Option Alert} {row : Alert}
    {created : ℕ} {alerts : Table Alert} (hw : c.workers[i]? = some (.webhook s selected))
    (h : Turn c i (c.write i (.webhook (s.advance created) none) alerts (.upserted row))) :
    Turn c i (c.commit i s row created alerts) := by
  unfold Workers.commit
  split
  · exact h
  · exact .release hw (fun _ => serves_webhook) (sound_webhook _ _ _) rfl rfl

theorem turn_stepWebhook {c : Workers} {i : ℕ} {s : Session} {selected : Option Alert}
    (hw : c.workers[i]? = some (.webhook s selected)) :
    Turn c i (c.stepWebhook i s selected) := by
  have hrelease {s' : Session} (hinserts : s'.phase.inserts = none)
      (hupdates : s'.phase.updates = none) (selected' : Option Alert) :
      Turn c i (c.move i (.webhook s' selected')) :=
    .release hw (fun _ => serves_webhook) (sound_webhook _ _ _) hinserts hupdates
  unfold Workers.stepWebhook
  split
  · obtain ⟨hinserts, hupdates⟩ := lookup_quiet s c.store
    exact hrelease hinserts hupdates none
  · rename_i fingerprint d hphase
    rcases select_cases s c.store (c.held i) fingerprint d with
      ⟨hinserts, hupdates⟩ | ⟨f, hrows, heq⟩ | ⟨f, id, old, hrows, hheld, heq⟩
    · exact hrelease hinserts hupdates _
    · rw [heq]
      refine .move _ _ hw (fun _ => serves_webhook) (sound_webhook _ _ _) (fun g hg => ?_) ?_
      · obtain rfl : f = g := by simpa [Worker.inserts, Phase.inserts] using hg
        exact .inr hrows
      · simp [Worker.updates, Phase.updates]
    · rw [heq]
      have hmem : (id, old) ∈ rowsWith c.store.alerts f := by simp [hrows]
      refine .move _ _ hw (fun _ => serves_webhook) (sound_webhook _ _ _) ?_ (fun id' g hg => ?_)
      · simp [Worker.inserts, Phase.inserts]
      · obtain ⟨rfl, rfl⟩ : id = id' ∧ f = g := by
          simpa [Worker.updates, Phase.updates] using hg
        exact .inr ⟨hheld, old, (mem_rowsWith.mp hmem).1, hmem⟩
  · rename_i f d hphase
    rcases write_cases s f d .commitInsert with ⟨e, he⟩ | ⟨row, hf, heq⟩
    · rw [he]
      exact hrelease rfl rfl none
    · rw [heq]
      refine .move _ _ hw (fun _ => serves_webhook) (sound_webhook _ _ _) (fun g hg => .inl ?_) ?_
      · simpa [Worker.inserts, Phase.inserts, hphase, hf] using hg
      · simp [Worker.updates, Phase.updates]
  · rename_i f d id hphase
    rcases write_cases s f d (fun row => .commitUpdate row id) with ⟨e, he⟩ | ⟨row, hf, heq⟩
    · rw [he]
      exact hrelease rfl rfl selected
    · rw [heq]
      refine .move _ _ hw (fun _ => serves_webhook) (sound_webhook _ _ _) ?_
        (fun id' g hg => .inl ⟨?_, rfl⟩)
      · simp [Worker.inserts, Phase.inserts]
      · simpa [Worker.updates, Phase.updates, hphase, hf] using hg
  · rename_i row hphase
    refine turn_commit hw (.inserted _ _ row hw (fun _ => serves_webhook) rfl ?_)
    simp [Worker.inserts, Phase.inserts, hphase]
  · rename_i row id hphase
    refine turn_commit hw (.updated _ _ row id hw (fun _ => serves_webhook) rfl ?_)
    simp [Worker.updates, Phase.updates, hphase]
  · exact .wait
  · exact .wait

theorem turn_stepAcknowledge {c : Workers} {i : ℕ} {a : Acknowledgement}
    (hw : c.workers[i]? = some (.acknowledge a)) : Turn c i (c.stepAcknowledge i a) := by
  have hmove {phase : AckPhase} (hanswered : ∀ response, phase ≠ .answered response)
      (hraised : ∀ e, phase = .raised e → permitted a.caller c.store = false ∨
        c.store.alerts.get? a.id = none) :
      Turn c i (c.move i (.acknowledge { a with phase := phase })) := by
    refine .release hw (fun r hr => ?_) (fun b hb => ?_) rfl rfl
    · cases r <;> exact hr
    · obtain rfl := Worker.acknowledge.inj hb
      exact ⟨hanswered, hraised⟩
  unfold Workers.stepAcknowledge
  cases a.phase with
  | permit =>
    dsimp only
    rw [permit, Program.run_statement]
    cases huser : authenticate a.caller c.store with
    | none =>
      exact hmove (fun _ h => by cases h) fun _ _ => .inl (by rw [permitted, huser]; rfl)
    | some u =>
      cases hallows : readOnlyOrAbove .patch (some u) with
      | true =>
        simp only [hallows, if_true]
        exact hmove (fun _ h => by cases h) (fun _ h => by cases h)
      | false =>
        simp only [hallows, Bool.false_eq_true, if_false]
        exact hmove (fun _ h => by cases h) fun _ _ => .inl (by rw [permitted, huser, hallows])
  | load =>
    dsimp only
    rw [getAlert, getObject, Program.run_statement]
    cases hget : c.store.alerts.get? a.id with
    | none => exact hmove (fun _ h => by cases h) fun _ _ => .inr hget
    | some alert => exact hmove (fun _ h => by cases h) (fun _ h => by cases h)
  | save alert loaded =>
    dsimp only
    cases hheld : c.held i a.id with
    | true =>
      rw [if_pos rfl]
      exact .wait
    | false =>
      rw [if_neg Bool.false_ne_true, saveAcknowledged, saveFields, Program.run_statement]
      cases hget : c.store.alerts.get? a.id with
      | none => exact hmove (fun _ h => by cases h) fun _ _ => .inr hget
      | some old => exact .acknowledged a _ old hw hheld hget
  | answered response => exact .wait
  | raised e => exact .wait

theorem turn_step (c : Workers) (i : ℕ) : Turn c i (c.step i) := by
  unfold Workers.step
  cases hw : c.workers[i]? with
  | none => exact .wait
  | some w =>
    cases w with
    | webhook s selected => exact turn_stepWebhook hw
    | acknowledge a => exact turn_stepAcknowledge hw

/-! ### The lock -/

/-- No two workers have locked one row, and a locked row is as it was selected. -/
structure Locked (c : Workers) : Prop where
  alone : ∀ (i j : ℕ) w w' id g g', c.workers[i]? = some w → c.workers[j]? = some w' →
    w.updates = some (id, g) → w'.updates = some (id, g') → i = j
  current : ∀ (i : ℕ) w id g, c.workers[i]? = some w → w.updates = some (id, g) →
    ∃ old, w.selected = some old ∧ (id, old) ∈ rowsWith c.store.alerts g

theorem locked_start (store : Platform) (requests : List Request) :
    Locked (Workers.start store requests) := by
  have hnone (i : ℕ) (w : Worker) (hw : (Workers.start store requests).workers[i]? = some w) :
      w.updates = none := by
    obtain ⟨r, -, rfl⟩ := List.mem_map.mp (List.mem_of_getElem? hw)
    cases r with
    | acknowledge caller now id => rfl
    | webhook w body =>
      simp only [Request.start, Worker.updates, Session.start]
      split <;> rfl
  exact ⟨fun i j w w' id g g' hw _ hu => (by simp [hnone i w hw] at hu),
    fun i w id g hw hu => (by simp [hnone i w hw] at hu)⟩

/-- A row that nobody else has locked. -/
theorem free_of_held {c : Workers} {i j : ℕ} {id : AlertId} {g : String} {w : Worker}
    (h : c.held i id = false) (hne : j ≠ i) (hw : c.workers[j]? = some w) :
    w.updates ≠ some (id, g) := by
  intro hu
  have hmem : (w, j) ∈ c.workers.zipIdx := List.mem_zipIdx_iff_getElem?.mpr hw
  have hall := List.any_eq_false.mp h (w, j) hmem
  simp [hne, hu] at hall

/-- A commit that keeps the rows that the other workers have locked. -/
theorem Locked.write {c : Workers} (h : Locked c) {i : ℕ} {w' : Worker} {alerts : Table Alert}
    {x : Commit} (hquiet : w'.updates = none)
    (hrows : ∀ (j : ℕ) w id g old, j ≠ i → c.workers[j]? = some w → w.updates = some (id, g) →
      c.store.alerts.get? id = some old → alerts.get? id = some old) :
    Locked (c.write i w' alerts x) where
  alone := by
    intro j k w v id g g' hj hk hu hu'
    rcases session_cases hj with ⟨rfl, rfl⟩ | ⟨-, hj⟩
    · simp [hquiet] at hu
    · rcases session_cases hk with ⟨rfl, rfl⟩ | ⟨-, hk⟩
      · simp [hquiet] at hu'
      · exact h.alone j k w v id g g' hj hk hu hu'
  current := by
    intro j w id g hj hu
    rcases session_cases hj with ⟨rfl, rfl⟩ | ⟨hne, hj⟩
    · simp [hquiet] at hu
    · obtain ⟨old, hselected, hmem⟩ := h.current j w id g hj hu
      obtain ⟨hget, hf⟩ := mem_rowsWith.mp hmem
      exact ⟨old, hselected, mem_rowsWith.mpr ⟨hrows j w id g old hne hj hu hget, hf⟩⟩

theorem Locked.step {c : Workers} (h : Locked c) (i : ℕ) : Locked (c.step i) := by
  have hturn := turn_step c i
  generalize c.step i = c' at hturn
  cases hturn with
  | wait => exact h
  | move w w' hw _ _ _ hupdates =>
    have hfree (j : ℕ) (v : Worker) (id : AlertId) (g g' : String) (hne : j ≠ i)
        (hv : c.workers[j]? = some v) (hu : w'.updates = some (id, g)) :
        v.updates ≠ some (id, g') := by
      intro hu'
      rcases hupdates id g hu with ⟨hold, -⟩ | ⟨hheld, -⟩
      · exact hne (h.alone j i v w id g' g hv hw hu' hold)
      · exact free_of_held hheld hne hv hu'
    refine ⟨fun j k v u id g g' hj hk hu hu' => ?_, fun j v id g hj hu => ?_⟩
    · rcases session_cases hj with ⟨rfl, rfl⟩ | ⟨hnej, hoj⟩ <;>
        rcases session_cases hk with ⟨rfl, rfl⟩ | ⟨hnek, hok⟩
      · rfl
      · exact absurd hu' (hfree k u id g g' hnek hok hu)
      · exact absurd hu (hfree j v id g' g hnej hoj hu')
      · exact h.alone j k v u id g g' hoj hok hu hu'
    · rcases session_cases hj with ⟨rfl, rfl⟩ | ⟨-, hj⟩
      · rcases hupdates id g hu with ⟨hold, hselected⟩ | ⟨-, hfound⟩
        · rw [hselected]
          exact h.current j w id g hw hold
        · exact hfound
      · exact h.current j v id g hj hu
  | inserted w s row hw _ hphase _ =>
    refine h.write (by simp [Worker.updates, hphase, Phase.updates]) ?_
    exact fun j v id g old _ _ _ hget => Table.get?_insert_of_some hget
  | updated w s row id hw _ hphase hupdates =>
    refine h.write (by simp [Worker.updates, hphase, Phase.updates]) ?_
    intro j v id' g old hne hv hu hget
    have hid : id' ≠ id := by
      rintro rfl
      exact hne (h.alone j i v w id' g row.fingerprint hv hw hu hupdates)
    rw [Table.get?_update, if_neg hid, hget]
  | acknowledged a response old hw hfree _ =>
    refine h.write rfl ?_
    intro j v id' g old hne hv hu hget
    have hid : id' ≠ a.id := by
      rintro rfl
      exact free_of_held hfree hne hv hu
    rw [Table.get?_update, if_neg hid, hget]

/-! ### Notifications on their own, and an acknowledgement on its own -/

def Worker.session? : Worker → Option Session
  | webhook s _ => some s
  | acknowledge _ => none

/-- The workers are notifications, where the sessions are. -/
structure Simulates (c : Workers) (d : Sessions) : Prop where
  store : c.store = d.store
  sessions : c.workers.map Worker.session? = d.sessions.map some

theorem Simulates.session {c : Workers} {d : Sessions} (h : Simulates c d) (i : ℕ) :
    (c.workers[i]?).map Worker.session? = (d.sessions[i]?).map some := by
  rw [← List.getElem?_map, h.sessions, List.getElem?_map]

theorem Simulates.held {c : Workers} {d : Sessions} (h : Simulates c d) (i : ℕ) (id : AlertId) :
    c.held i id = d.held i id := by
  have hlocks (w : Worker) : w.updates.map Prod.fst = w.session?.bind (·.phase.locks) := by
    cases w with
    | acknowledge a => rfl
    | webhook s selected =>
      simp only [Worker.updates, Worker.session?, Option.bind_some]
      cases s.phase <;> rfl
  have hworkers : c.held i id = (c.workers.map Worker.session?).zipIdx.any
      (fun t => t.2 != i && t.1.bind (·.phase.locks) == some id) := by
    simp [Workers.held, List.zipIdx_map, List.any_map, Function.comp_def, hlocks]
  have hsessions : d.held i id = (d.sessions.map some).zipIdx.any
      (fun t => t.2 != i && t.1.bind (·.phase.locks) == some id) := by
    simp [Sessions.held, List.zipIdx_map, List.any_map, Function.comp_def]
  rw [hworkers, h.sessions, hsessions]

/-- A worker and its session go on alike. -/
theorem Simulates.move {c : Workers} {d : Sessions} (h : Simulates c d) (i : ℕ) (s : Session)
    (phase : Phase) (selected : Option Alert) :
    Simulates (c.move i (.webhook { s with phase := phase } selected)) (d.move i s phase) := by
  refine ⟨h.store, ?_⟩
  rw [Workers.move, Sessions.move, List.map_set, h.sessions, List.map_set]
  rfl

theorem Simulates.commit {c : Workers} {d : Sessions} (h : Simulates c d) (i : ℕ) (s : Session)
    (row : Alert) (created : ℕ) (alerts : Table Alert) :
    Simulates (c.commit i s row created alerts) (d.commit i s row created alerts) := by
  unfold Workers.commit Sessions.commit
  rw [h.store]
  split
  · refine ⟨by rw [Workers.write, h.store], ?_⟩
    rw [Workers.write, List.map_set, h.sessions, List.map_set]
    rfl
  · exact h.move i s _ none

theorem Simulates.step {c : Workers} {d : Sessions} (h : Simulates c d) (hlocked : Locked c)
    (i : ℕ) : Simulates (c.step i) (d.step i) := by
  have hsession := h.session i
  unfold Workers.step Sessions.step
  cases hw : c.workers[i]? with
  | none =>
    rw [hw, Option.map_none, eq_comm, Option.map_eq_none_iff] at hsession
    rw [hsession]
    exact h
  | some w =>
    rw [hw] at hsession
    obtain ⟨s, hs, hws⟩ := Option.map_eq_some_iff.mp hsession.symm
    rw [hs]
    cases w with
    | acknowledge a => cases hws
    | webhook s' selected =>
      obtain rfl := Option.some.inj hws
      dsimp only
      unfold Workers.stepWebhook
      cases hphase : s.phase with
      | lookup =>
        rw [h.store]
        exact h.move i s _ none
      | select fingerprint input =>
        have hheld : c.held i = d.held i := funext (h.held i)
        rw [h.store, hheld]
        exact h.move i s _ _
      | insert f input => exact h.move i s _ none
      | update f input id => exact h.move i s _ selected
      | commitInsert row =>
        rw [h.store]
        exact h.commit i s _ 1 _
      | commitUpdate row id =>
        -- the lock has kept the row as it was selected
        have hsaved : c.store.alerts.update id (saveSelected row selected) =
            c.store.alerts.update id (overwrite row) := by
          refine Table.update_congr fun a ha => ?_
          obtain ⟨old, hselected, hmem⟩ := hlocked.current i _ id row.fingerprint hw
            (by simp [Worker.updates, Phase.updates, hphase])
          obtain rfl := Option.some.inj ((mem_rowsWith.mp hmem).1.symm.trans ha)
          obtain rfl : selected = some old := hselected
          rfl
        dsimp only
        rw [hsaved, h.store]
        exact h.commit i s row 0 _
      | answered response => exact h
      | raised e => exact h

/-- Without acknowledgements the workers run as the sessions do. -/
theorem simulates_run (store : Platform) (requests : List (WebhookWorld × Json))
    (schedule : List ℕ) :
    Simulates ((Workers.start store (requests.map fun r => .webhook r.1 r.2)).run schedule)
      ((Sessions.start store requests).run schedule) := by
  have hstart : Simulates (Workers.start store (requests.map fun r => .webhook r.1 r.2))
      (Sessions.start store requests) :=
    ⟨rfl, by simp [Workers.start, Sessions.start, Request.start, Worker.session?,
      Function.comp_def]⟩
  have hlocked := locked_start store (requests.map fun r => .webhook r.1 r.2)
  generalize Workers.start store (requests.map fun r => .webhook r.1 r.2) = c at hstart hlocked ⊢
  generalize Sessions.start store requests = d at hstart ⊢
  induction schedule generalizing c d with
  | nil => exact hstart
  | cons i schedule ih => exact ih _ (hlocked.step i) _ (hstart.step hlocked i)

def AckPhase.ended : Except Exn Response → AckPhase
  | .ok response => .answered response
  | .error e => .raised e

/-- Three statements carry an acknowledgement out that runs alone. -/
theorem run_acknowledge (caller : Option UserId) (now : DateTime) (id : AlertId) (db : Platform) :
    ((Workers.start db [.acknowledge caller now id]).run [0, 0, 0]).store =
        ((MonitoringViews.acknowledge caller now id).run db).2 ∧
      ((Workers.start db [.acknowledge caller now id]).run [0, 0, 0]).workers =
        [.acknowledge ⟨caller, now, id,
          .ended ((MonitoringViews.acknowledge caller now id).run db).1⟩] := by
  have hstart : Workers.start db [.acknowledge caller now id] =
      ⟨db, [.acknowledge ⟨caller, now, id, .permit⟩], []⟩ := rfl
  rw [hstart, MonitoringViews.acknowledge, run_permit_bind]
  simp only [Workers.run, runFrom_cons, runFrom_nil]
  cases huser : authenticate caller db with
  | none =>
    simp [Workers.step, Workers.stepAcknowledge, Workers.move, permit, Program.run_statement, huser,
      AckPhase.ended]
  | some u =>
    cases hallows : readOnlyOrAbove .patch (some u) with
    | false =>
      simp [Workers.step, Workers.stepAcknowledge, Workers.move, permit, Program.run_statement,
        huser, hallows, AckPhase.ended]
    | true =>
      rw [getAlert, run_getObject_bind]
      cases hget : db.alerts.get? id with
      | none =>
        simp [Workers.step, Workers.stepAcknowledge, Workers.move, permit, Program.run_statement,
          huser, hallows, getAlert, getObject, hget, AckPhase.ended]
      | some alert =>
        simp [Workers.step, Workers.stepAcknowledge, Workers.move, Workers.write, Workers.held,
          permit, Program.run_statement, Program.run_statement_bind, huser, hallows, getAlert,
          getObject, hget, saveAcknowledged, saveFields, AckPhase.ended]

end DevSecOpsPlatform.AlertWorkers
