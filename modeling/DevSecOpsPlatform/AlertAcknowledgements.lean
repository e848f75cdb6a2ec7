import DevSecOpsPlatform.AlertWorkers
import Mathlib.Data.List.Induction

/-!
# Acknowledgements are not lost

However acknowledgements and notifications interleave, the row of an alert is what the
commits make of it one after the other: `replay`. So it has the columns of the notification
that committed last, and it stays acknowledged once an acknowledgement has committed.
-/

namespace DevSecOpsPlatform.AlertAcknowledgements

open KeyedTables StatementPrograms PlatformModels PlatformStore RolePermissions PythonValues
open MonitoringViews AlertUpserts GuardedRuns AlertWorkers
open AlertSessions (Session Phase session_cases)

/-! ### What the commits make of a row -/

/-- The row after the commits, one after the other. -/
def replay (id : AlertId) (commits : List Commit) (a : Alert) : Alert :=
  commits.foldl (Commit.apply id) a

/-- The row of the last notification of the fingerprint. -/
def lastUpserted (fingerprint : String) (commits : List Commit) : Option Alert :=
  commits.reverse.findSome? fun
    | .upserted row => if row.fingerprint = fingerprint then some row else none
    | .acknowledged _ _ => none

theorem replay_append (id : AlertId) (commits : List Commit) (x : Commit) (a : Alert) :
    replay id (commits ++ [x]) a = x.apply id (replay id commits a) := by
  simp [replay]

theorem fingerprint_apply (id : AlertId) (a : Alert) (x : Commit) :
    (x.apply id a).fingerprint = a.fingerprint := by
  cases x with
  | upserted row =>
    rw [Commit.apply]
    split
    · assumption
    · rfl
  | acknowledged id' now =>
    rw [Commit.apply]
    split <;> rfl

@[simp] theorem fingerprint_replay (id : AlertId) (commits : List Commit) (a : Alert) :
    (replay id commits a).fingerprint = a.fingerprint := by
  induction commits using List.reverseRecOn with
  | nil => rfl
  | append_singleton commits x ih => rw [replay_append, fingerprint_apply, ih]

/-- The columns of the notifications are those of the last one. -/
theorem replay_eq_overwrite (id : AlertId) (commits : List Commit) (a : Alert) :
    replay id commits a =
      overwrite ((lastUpserted a.fingerprint commits).getD a) (replay id commits a) := by
  induction commits using List.reverseRecOn with
  | nil => rfl
  | append_singleton commits x ih =>
    rw [replay_append]
    cases x with
    | upserted row =>
      rw [Commit.apply, fingerprint_replay]
      by_cases hf : row.fingerprint = a.fingerprint
      · simp [hf, lastUpserted, overwrite]
      · simpa [hf, lastUpserted] using ih
    | acknowledged id' now =>
      rw [Commit.apply]
      by_cases hid : id' = id
      · simp only [hid, if_true, lastUpserted, List.reverse_append, List.reverse_singleton,
          List.singleton_append, List.findSome?_cons]
        conv_lhs => rw [ih]
        rfl
      · simpa [hid, lastUpserted] using ih

/-- A row that was acknowledged stays so, at a time that was written. -/
theorem acknowledged_replay {id : AlertId} {commits : List Commit} {now : DateTime} (a : Alert)
    (h : .acknowledged id now ∈ commits) :
    (replay id commits a).acknowledged = true ∧ ∃ t, .acknowledged id t ∈ commits ∧
      (replay id commits a).acknowledgedAt = some t := by
  induction commits using List.reverseRecOn with
  | nil => cases h
  | append_singleton commits x ih =>
    rw [replay_append]
    rcases List.mem_append.mp h with hold | hnew
    · obtain ⟨hack, t, ht, hat⟩ := ih hold
      cases x with
      | upserted row =>
        rw [Commit.apply]
        split
        · exact ⟨hack, t, List.mem_append_left _ ht, hat⟩
        · exact ⟨hack, t, List.mem_append_left _ ht, hat⟩
      | acknowledged id' now' =>
        rw [Commit.apply]
        by_cases hid : id' = id
        · exact ⟨by simp [hid, acknowledgedRow], now', by simp [hid], by
            simp [hid, acknowledgedRow]⟩
        · rw [if_neg hid]
          exact ⟨hack, t, List.mem_append_left _ ht, hat⟩
    · obtain rfl := List.mem_singleton.mp hnew
      exact ⟨by simp [Commit.apply, acknowledgedRow], now, by simp, by
        simp [Commit.apply, acknowledgedRow]⟩

/-! ### The row of an alert -/

/-- The row is what the commits make of it, and nobody inserts another one. -/
structure Replayed (id : AlertId) (alert : Alert) (c : Workers) : Prop where
  row : rowsWith c.store.alerts alert.fingerprint = [(id, replay id c.commits alert)]
  inserting : ∀ (i : ℕ) w, c.workers[i]? = some w → w.inserts ≠ some alert.fingerprint

theorem replayed_start {store : Platform} (requests : List Request) {id : AlertId} {alert : Alert}
    (hone : rowsWith store.alerts alert.fingerprint = [(id, alert)]) :
    Replayed id alert (Workers.start store requests) := by
  refine ⟨hone, fun i w hw => ?_⟩
  obtain ⟨r, -, rfl⟩ := List.mem_map.mp (List.mem_of_getElem? hw)
  cases r with
  | acknowledge caller now id => simp [Request.start, Worker.inserts]
  | webhook w body =>
    simp only [Request.start, Worker.inserts, Session.start]
    split <;> simp [Phase.inserts]

/-- A commit that leaves the row as its commit says. -/
theorem Replayed.write {id : AlertId} {alert : Alert} {c : Workers} (h : Replayed id alert c)
    {i : ℕ} {w' : Worker} {alerts : Table Alert} {x : Commit} (hquiet : w'.inserts = none)
    (hrow : rowsWith alerts alert.fingerprint = [(id, x.apply id (replay id c.commits alert))]) :
    Replayed id alert (c.write i w' alerts x) where
  row := by
    rw [← replay_append] at hrow
    exact hrow
  inserting := by
    intro j w hj
    rcases session_cases hj with ⟨rfl, rfl⟩ | ⟨-, hj⟩
    · simp [hquiet]
    · exact h.inserting j w hj

theorem Replayed.step {id : AlertId} {alert : Alert} {c : Workers} (h : Replayed id alert c)
    (hlocked : Locked c) (i : ℕ) : Replayed id alert (c.step i) := by
  have hmem : (id, replay id c.commits alert) ∈ rowsWith c.store.alerts alert.fingerprint := by
    simp [h.row]
  obtain ⟨hget, hfingerprint⟩ := mem_rowsWith.mp hmem
  have hone : (rowsWith c.store.alerts alert.fingerprint).length ≤ 1 := by simp [h.row]
  have hturn := turn_step c i
  generalize c.step i = c' at hturn
  cases hturn with
  | wait => exact h
  | move w w' hw _ _ hinserts _ =>
    refine ⟨h.row, fun j v hj => ?_⟩
    rcases session_cases hj with ⟨rfl, rfl⟩ | ⟨-, hj⟩
    · intro hv
      rcases hinserts _ hv with hold | hnil
      · exact h.inserting j w hw hold
      · simp [hnil] at hmem
    · exact h.inserting j v hj
  | inserted w s row hw _ hphase hinserts =>
    have hne : row.fingerprint ≠ alert.fingerprint := fun heq =>
      h.inserting i w hw (heq ▸ hinserts)
    refine h.write (by simp [Worker.inserts, hphase, Phase.inserts]) ?_
    rw [rowsWith_insert_of_ne hne, h.row, Commit.apply, fingerprint_replay, if_neg hne]
  | updated w s row id' hw _ hphase hupdates =>
    refine h.write (by simp [Worker.inserts, hphase, Phase.inserts]) ?_
    obtain ⟨old, hselected, hold⟩ := hlocked.current i w id' row.fingerprint hw hupdates
    rw [Commit.apply, fingerprint_replay]
    by_cases hf : row.fingerprint = alert.fingerprint
    · rw [hf] at hold
      obtain ⟨rfl, rfl⟩ := Prod.mk.inj (eq_of_mem_rowsWith hone hold hmem)
      rw [if_pos hf, hselected]
      exact rowsWith_update_self h.row hf
    · obtain ⟨hgetold, hfold⟩ := mem_rowsWith.mp hold
      rw [if_neg hf, ← h.row]
      exact rowsWith_update_of_ne hgetold (hfold ▸ hf) hf
  | acknowledged a response old hw _ hgetold =>
    refine h.write rfl ?_
    rw [Commit.apply]
    by_cases hid : a.id = id
    · subst hid
      rw [if_pos rfl]
      exact rowsWith_update_self h.row hfingerprint
    · have hf : old.fingerprint ≠ alert.fingerprint := by
        intro hf
        have hother := mem_rowsWith.mpr ⟨hgetold, hf⟩
        exact hid (Prod.mk.inj (eq_of_mem_rowsWith hone hother hmem)).1
      rw [if_neg hid, ← h.row]
      exact rowsWith_update_of_ne hgetold hf hf

/-! ### The answers -/

/-- An acknowledgement that has answered has committed, and of the alert `id` only those raise
that may not be made; what was committed was requested. -/
structure Accounted (store : Platform) (requests : List Request) (id : AlertId) (c : Workers) :
    Prop where
  frame : c.store = { store with alerts := c.store.alerts }
  length : c.workers.length = requests.length
  served : ∀ (i : ℕ) w, c.workers[i]? = some w → ∃ r, requests[i]? = some r ∧ w.Serves r
  answered : ∀ (i : ℕ) a response, c.workers[i]? = some (.acknowledge a) →
    a.phase = .answered response → .acknowledged a.id a.now ∈ c.commits
  raised : ∀ (i : ℕ) a e, c.workers[i]? = some (.acknowledge a) → a.phase = .raised e →
    a.id = id → permitted a.caller store = false
  requested : ∀ id' now, .acknowledged id' now ∈ c.commits →
    ∃ (j : ℕ) (caller : Option UserId), requests[j]? = some (.acknowledge caller now id')

theorem accounted_start (store : Platform) (requests : List Request) (id : AlertId) :
    Accounted store requests id (Workers.start store requests) := by
  have hphase (i : ℕ) (a : Acknowledgement)
      (hw : (Workers.start store requests).workers[i]? = some (.acknowledge a)) :
      a.phase = .permit := by
    obtain ⟨r, -, hr⟩ := List.mem_map.mp (List.mem_of_getElem? hw)
    cases r with
    | webhook w body => cases hr
    | acknowledge caller now id' => exact (Worker.acknowledge.inj hr) ▸ rfl
  refine ⟨rfl, List.length_map .., fun i w hw => ?_, fun i a response hw h => ?_,
    fun i a e hw h => ?_, fun _ _ h => nomatch h⟩
  · obtain ⟨r, hr, rfl⟩ := Option.map_eq_some_iff.mp ((List.getElem?_map ..).symm.trans hw)
    refine ⟨r, hr, ?_⟩
    cases r with
    | webhook w body => trivial
    | acknowledge caller now id' => exact ⟨rfl, rfl, rfl⟩
  · cases (hphase i a hw).symm.trans h
  · cases (hphase i a hw).symm.trans h

/-- A commit of the alerts, by a worker that goes on as `w'`. -/
theorem Accounted.write {store : Platform} {requests : List Request} {id : AlertId} {c : Workers}
    (h : Accounted store requests id c) {i : ℕ} {w w' : Worker} {alerts : Table Alert} {x : Commit}
    (hw : c.workers[i]? = some w) (hserves : ∀ r, w.Serves r → w'.Serves r)
    (hanswered : ∀ a response, w' = .acknowledge a → a.phase = .answered response →
      x = .acknowledged a.id a.now)
    (hraised : ∀ a e, w' = .acknowledge a → a.phase ≠ .raised e)
    (hrequested : ∀ id' now, x = .acknowledged id' now →
      ∃ a, w = .acknowledge a ∧ a.now = now ∧ a.id = id') :
    Accounted store requests id (c.write i w' alerts x) where
  frame := by
    rw [Workers.write, h.frame]
  length := (List.length_set ..).trans h.length
  served := by
    intro j v hj
    rcases session_cases hj with ⟨rfl, rfl⟩ | ⟨-, hj⟩
    · obtain ⟨r, hr, hserved⟩ := h.served j w hw
      exact ⟨r, hr, hserves r hserved⟩
    · exact h.served j v hj
  answered := by
    intro j a response hj hphase
    rcases session_cases hj with ⟨-, hw'⟩ | ⟨-, hj⟩
    · exact List.mem_append_right _ (by simp [hanswered a response hw'.symm hphase])
    · exact List.mem_append_left _ (h.answered j a response hj hphase)
  raised := by
    intro j a e hj hphase hid
    rcases session_cases hj with ⟨-, hw'⟩ | ⟨-, hj⟩
    · exact absurd hphase (hraised a e hw'.symm)
    · exact h.raised j a e hj hphase hid
  requested := by
    intro id' now hx
    rcases List.mem_append.mp hx with hx | hx
    · exact h.requested id' now hx
    · obtain ⟨a, rfl, rfl, rfl⟩ := hrequested id' now (List.mem_singleton.mp hx).symm
      obtain ⟨r, hr, hserved⟩ := h.served i _ hw
      cases r with
      | webhook w body => exact hserved.elim
      | acknowledge caller now id' =>
        obtain ⟨rfl, rfl, rfl⟩ := hserved
        exact ⟨i, _, hr⟩

theorem Accounted.step {store : Platform} {requests : List Request} {id : AlertId} {c : Workers}
    {alert : Alert} (h : Accounted store requests id c)
    (hget : c.store.alerts.get? id = some alert) (i : ℕ) :
    Accounted store requests id (c.step i) := by
  have hturn := turn_step c i
  generalize c.step i = c' at hturn
  cases hturn with
  | wait => exact h
  | move w w' hw hserves hsound _ _ =>
    refine ⟨h.frame, (List.length_set ..).trans h.length, fun j v hj => ?_,
      fun j a response hj hphase => ?_, fun j a e hj hphase hid => ?_, h.requested⟩
    · rcases session_cases hj with ⟨rfl, rfl⟩ | ⟨-, hj⟩
      · obtain ⟨r, hr, hserved⟩ := h.served j w hw
        exact ⟨r, hr, hserves r hserved⟩
      · exact h.served j v hj
    · rcases session_cases hj with ⟨-, hw'⟩ | ⟨-, hj⟩
      · exact absurd hphase ((hsound a hw'.symm).1 response)
      · exact h.answered j a response hj hphase
    · rcases session_cases hj with ⟨-, hw'⟩ | ⟨-, hj⟩
      · rcases (hsound a hw'.symm).2 e hphase with hdenied | hnone
        · rw [h.frame] at hdenied
          exact hdenied
        · rw [hid, hget] at hnone
          cases hnone
      · exact h.raised j a e hj hphase hid
  | inserted w s row hw hserves _ _ =>
    exact h.write hw hserves (fun _ _ h => nomatch h) (fun _ _ h => nomatch h)
      (fun _ _ h => nomatch h)
  | updated w s row id' hw hserves _ _ =>
    exact h.write hw hserves (fun _ _ h => nomatch h) (fun _ _ h => nomatch h)
      (fun _ _ h => nomatch h)
  | acknowledged a response old hw _ _ =>
    refine h.write hw (fun r hr => ?_) (fun b response' hb _ => ?_) (fun b e hb => ?_)
      (fun id' now hx => ?_)
    · cases r <;> exact hr
    · obtain rfl := Worker.acknowledge.inj hb
      rfl
    · obtain rfl := Worker.acknowledge.inj hb
      exact fun he => nomatch he
    · obtain ⟨rfl, rfl⟩ := Commit.acknowledged.inj hx
      exact ⟨a, rfl, rfl, rfl⟩

/-! ### Runs -/

theorem invariants_run {store : Platform} (requests : List Request) {id : AlertId} {alert : Alert}
    (hone : rowsWith store.alerts alert.fingerprint = [(id, alert)]) (schedule : List ℕ) :
    Locked ((Workers.start store requests).run schedule) ∧
      Replayed id alert ((Workers.start store requests).run schedule) ∧
      Accounted store requests id ((Workers.start store requests).run schedule) := by
  refine invariant_runFrom (I := fun c => Locked c ∧ Replayed id alert c ∧
    Accounted store requests id c) ?_ ?_ schedule
  · rintro c i ⟨hlocked, hreplayed, haccounted⟩
    have hmem : (id, replay id c.commits alert) ∈ rowsWith c.store.alerts alert.fingerprint := by
      simp [hreplayed.row]
    exact ⟨hlocked.step i, hreplayed.step hlocked i, haccounted.step (mem_rowsWith.mp hmem).1 i⟩
  · exact ⟨locked_start store requests, replayed_start requests hone,
      accounted_start store requests id⟩

/-- In every run of notifications and acknowledgements the alert has the columns of the last
notification of it that committed. Once one of the acknowledgements that may be made has
completed, it is acknowledged, at a time that one of them wrote. -/
theorem acknowledgement_kept (store : Platform) (requests : List Request) (schedule : List ℕ)
    (id : AlertId) (alert : Alert)
    (hone : rowsWith store.alerts alert.fingerprint = [(id, alert)]) :
    ∃ final, ((Workers.start store requests).run schedule).store.alerts.get? id = some final ∧
      final = overwrite ((lastUpserted alert.fingerprint
        ((Workers.start store requests).run schedule).commits).getD alert) final ∧
      ((∃ (i : ℕ) (caller : Option UserId) (now : DateTime) (w : Worker),
          requests[i]? = some (.acknowledge caller now id) ∧ permitted caller store = true ∧
          ((Workers.start store requests).run schedule).workers[i]? = some w ∧
          w.completed = true) →
        final.acknowledged = true ∧
        ∃ (j : ℕ) (caller : Option UserId) (now : DateTime),
          requests[j]? = some (.acknowledge caller now id) ∧
          .acknowledged id now ∈ ((Workers.start store requests).run schedule).commits ∧
          final.acknowledgedAt = some now) := by
  obtain ⟨-, hreplayed, haccounted⟩ := invariants_run requests hone schedule
  generalize (Workers.start store requests).run schedule = c at hreplayed haccounted
  have hmem : (id, replay id c.commits alert) ∈ rowsWith c.store.alerts alert.fingerprint := by
    simp [hreplayed.row]
  refine ⟨_, (mem_rowsWith.mp hmem).1, replay_eq_overwrite id c.commits alert, ?_⟩
  rintro ⟨i, caller, now, w, hrequest, hpermitted, hw, hcompleted⟩
  obtain ⟨r, hr, hserved⟩ := haccounted.served i w hw
  obtain rfl := Option.some.inj (hr.symm.trans hrequest)
  cases w with
  | webhook s selected => exact hserved.elim
  | acknowledge a =>
    obtain ⟨rfl, rfl, hid⟩ := hserved
    have hcommitted : .acknowledged a.id a.now ∈ c.commits := by
      cases hphase : a.phase with
      | answered response => exact haccounted.answered i a response hw hphase
      | raised e =>
        have hdenied := haccounted.raised i a e hw hphase hid
        rw [hpermitted] at hdenied
        cases hdenied
      | permit => simp [Worker.completed, hphase] at hcompleted
      | load => simp [Worker.completed, hphase] at hcompleted
      | save old loaded => simp [Worker.completed, hphase] at hcompleted
    rw [hid] at hcommitted
    obtain ⟨hack, t, ht, hat⟩ := acknowledged_replay alert hcommitted
    obtain ⟨j, caller', hj⟩ := haccounted.requested id t ht
    exact ⟨hack, j, caller', t, hj, ht, hat⟩

def labAlert : Alert where
  alertName := "InterfaceDown"
  fingerprint := "f1"
  receivedAt := 0

/-- The small platform with an alert that fires. -/
def labFiring : Platform := { lab with
  alerts := Table.empty.insert labAlert }

/-- The alert is resolved, and acknowledged. -/
def labRequests : List Request := [
  .webhook { parseDatetime := fun _ => .ok none, pyStr := Json.typeName, clock := fun k => k }
    (notification [[("labels", .obj [("alertname", .str "InterfaceDown")]),
      ("fingerprint", .str "f1"), ("status", .str "resolved")]]),
  .acknowledge (some 1) 5 1]

/-- The acknowledgement loads the alert before the notification selects it, and tries to write
while it is locked. -/
def labSchedule : List ℕ := [1, 1, 0, 0, 1, 0, 1, 0, 1, 0]

theorem acknowledgement_kept_of_lab :
    ∃ final, ((Workers.start labFiring labRequests).run labSchedule).store.alerts.get? 1 =
        some final ∧
      final.status = "resolved" ∧ final.acknowledged = true ∧ final.acknowledgedAt = some 5 := by
  obtain ⟨final, hget, hcolumns, hack⟩ :=
    acknowledgement_kept labFiring labRequests labSchedule 1 labAlert rfl
  obtain ⟨hacknowledged, j, caller, now, hrequest, -, hat⟩ :=
    hack ⟨1, some 1, 5, _, rfl, rfl, rfl, rfl⟩
  refine ⟨final, hget, ?_, hacknowledged, ?_⟩
  · rw [hcolumns]
    rfl
  · match j with
    | 0 => cases hrequest
    | 1 =>
      obtain ⟨-, rfl, -⟩ := Request.acknowledge.inj (Option.some.inj hrequest)
      exact hat
    | _ + 2 => cases hrequest

end DevSecOpsPlatform.AlertAcknowledgements
