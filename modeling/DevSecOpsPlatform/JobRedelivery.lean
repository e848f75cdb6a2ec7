import DevSecOpsPlatform.JobDeliveries

/-!
# A job whose message is delivered more than once

The task checks neither the status of its job nor whether a result is there, so every
delivery of the message that gets through to the device loop pushes to all devices and
inserts their results again. While no two deliveries loop over a common device and none
starts after one has returned, there is one result and at most one push for each device and
the job keeps its final status.
-/

namespace DevSecOpsPlatform.JobRedelivery

open KeyedTables StatementPrograms PlatformModels PlatformStore PythonValues NetmikoSessions
open ProvisioningTasks ProgramInterleaving PlatformOperations PlatformChanges JobDeliveries

/-- The thread is a delivery of the job's message. -/
def Delivers (operations : List Operation) (jobId : ProvisioningJobId) (k : ℕ) : Prop :=
  ∃ w, operations[k]? = some (.executeProvisioningJob w jobId)

/-- The devices that a delivery has loaded. -/
def loadedIds (jobId : ProvisioningJobId) (h : History Recorded) : List DeviceId :=
  (devicesLoaded jobId h).map Prod.fst

/-- A delivery sets the job RUNNING only while no delivery of it has returned, and it starts
its device loop only while no other that loaded a device in common has started its own. -/
structure Orderly (store : Platform) (operations : List Operation) (jobId : ProvisioningJobId)
    (schedule : List ℕ) : Prop where
  running : ∀ done k later, schedule = done ++ k :: later → Delivers operations jobId k →
    ((startRecorded store operations).run done).Moves k →
    ((startRecorded store operations).history k done).length = 2 →
    ∀ u, Delivers operations jobId u → ¬ ((startRecorded store operations).run done).Returned u
  looping : ∀ done k later, schedule = done ++ k :: later → Delivers operations jobId k →
    ((startRecorded store operations).run done).Moves k →
    ((startRecorded store operations).history k done).length = 3 →
    ∀ u, u ≠ k → Delivers operations jobId u →
    4 ≤ ((startRecorded store operations).history u done).length →
    ∀ d ∈ loadedIds jobId ((startRecorded store operations).history k done),
      d ∉ loadedIds jobId ((startRecorded store operations).history u done)

/-- One result and at most one push for each device, and a final status that stays. -/
structure Safe (store : Platform) (operations : List Operation) (jobId : ProvisioningJobId)
    (schedule : List ℕ) : Prop where
  oneResult : ∀ id id' r r',
    ((startRecorded store operations).run schedule).store.1.provisioningResults.get? id =
      some r →
    ((startRecorded store operations).run schedule).store.1.provisioningResults.get? id' =
      some r' →
    r.job = jobId → r'.job = jobId → r.device = r'.device → id = id'
  onePush : ((((startRecorded store operations).run schedule).store.2.filter
    (fun x => x.job == jobId)).map Push.device).Nodup
  terminal : ∀ done later, schedule = done ++ later → ∀ job job',
    ((startRecorded store operations).run done).store.1.provisioningJobs.get? jobId = some job →
    job.status.isTerminal = true →
    ((startRecorded store operations).run schedule).store.1.provisioningJobs.get? jobId =
      some job' → job'.status ≠ .running

variable {store : Platform} {operations : List Operation} {jobId : ProvisioningJobId}

/-! ### What one step adds -/

/-- The other operations insert no result of the job. -/
theorem result_of_effect {o : Operation} {db db' : Platform} (h : Effect o db db')
    (hother : ∀ w, o ≠ .executeProvisioningJob w jobId) {id : ℕ} {r : ProvisioningResult}
    (hr : db'.provisioningResults.get? id = some r) (hjob : r.job = jobId) :
    db.provisioningResults.get? id = some r := by
  cases h with
  | common hchange =>
    cases hchange with
    | deleteDevice device =>
      have hdeleted : (db.provisioningResults.deleteWhere (fun _ r => r.device == device)).get? id =
        some r := hr
      rw [Table.get?_deleteWhere, Option.filter_eq_some_iff] at hdeleted
      exact hdeleted.1
    | _ => exact hr
  | createResult w jobId' _ new hnew hdevice =>
    have hinserted : (db.provisioningResults.insert new).get? id = some r := hr
    rw [Table.get?_insert] at hinserted
    split at hinserted
    · obtain rfl := Option.some.inj hinserted
      exact absurd (congrArg _ (hnew.symm.trans hjob)) (hother w)
    · exact hinserted
  | _ => exact hr

/-- The next statement of a delivery is the one numbered `offset` of the body of its loop, for
the device. -/
def AtDevice (store : Platform) (operations : List Operation) (jobId : ProvisioningJobId)
    (offset : ℕ) (done : List ℕ) (k : ℕ) (d : DeviceId) : Prop :=
  Delivers operations jobId k ∧ ∃ n device,
    ((startRecorded store operations).history k done).length = offset + 3 * n ∧
    (devicesLoaded jobId ((startRecorded store operations).history k done))[n]? = some device ∧
    device.1 = d

theorem result_step {done : List ℕ} {k : ℕ} {id : ℕ} {r : ProvisioningResult}
    (hmoves : ((startRecorded store operations).run done).Moves k)
    (hr : (((startRecorded store operations).run done).step k).store.1.provisioningResults.get? id
      = some r) (hjob : r.job = jobId) :
    ((startRecorded store operations).run done).store.1.provisioningResults.get? id = some r ∨
      (AtDevice store operations jobId 5 done k r.device ∧
        id = ((startRecorded store operations).run done).store.1.provisioningResults.nextId) := by
  by_cases hk : Delivers operations jobId k
  · obtain ⟨w, ho⟩ := hk
    rcases turn_of_moves ho hmoves with hturn | ⟨-, successes, total, hs⟩
    · generalize ((((startRecorded store operations).run done).step k).store) = t at hr hturn
      cases hturn with
      | nothing => exact .inl hr
      | running => exact .inl hr
      | rendered => exact .inl hr
      | push => exact .inl hr
      | audit => exact .inl hr
      | result n job text device hlength hrendered hdevice =>
        rw [withResult, Table.get?_insert] at hr
        split at hr
        · rename_i hid
          obtain rfl := Option.some.inj hr
          exact .inr ⟨⟨⟨w, ho⟩, n, device, hlength, hdevice, rfl⟩, hid⟩
        · exact .inl hr
    · rw [hs] at hr
      exact .inl hr
  · rcases step_recorded store operations done k with hs | ⟨o, ho, heffect, -⟩
    · exact .inl (hs ▸ hr)
    · exact .inl (result_of_effect heffect (fun w heq => hk ⟨w, heq ▸ ho⟩) hr hjob)

/-! ### What a run has added -/

/-- The entry with the number, for the device, was written by that statement of a delivery. -/
def Wrote (store : Platform) (operations : List Operation) (jobId : ProvisioningJobId)
    (offset : ℕ) (number : Recorded → ℕ) (done : List ℕ) (id : ℕ) (d : DeviceId) : Prop :=
  ∃ k n p device, Delivers operations jobId k ∧
    ((startRecorded store operations).history k done)[offset + 3 * n]? = some p ∧
    number p.1 = id ∧
    (devicesLoaded jobId ((startRecorded store operations).history k done))[n]? = some device ∧
    device.1 = d

theorem devicesLoaded_concat (k : ℕ) {done later : List ℕ}
    (hlength : 2 ≤ ((startRecorded store operations).history k done).length) :
    devicesLoaded jobId ((startRecorded store operations).history k (done ++ later)) =
      devicesLoaded jobId ((startRecorded store operations).history k done) := by
  rw [Pool.history_append]
  exact devicesLoaded_append hlength _

theorem Wrote.concat {offset : ℕ} {number : Recorded → ℕ} {done : List ℕ} {id : ℕ} {d : DeviceId}
    (h : Wrote store operations jobId offset number done id d) (hoffset : 4 ≤ offset) (i : ℕ) :
    Wrote store operations jobId offset number (done ++ [i]) id d := by
  obtain ⟨k, n, p, device, hk, hp, hid, hdevice, hd⟩ := h
  have hlength := (List.getElem?_eq_some_iff.mp hp).1
  refine ⟨k, n, p, device, hk, ?_, hid, ?_, hd⟩
  · rw [Pool.history_append, List.getElem?_append_left hlength]
    exact hp
  · rw [devicesLoaded_concat k (by omega)]
    exact hdevice

theorem wrote_of_atDevice {offset : ℕ} {number : Recorded → ℕ} {done : List ℕ} {k : ℕ}
    {d : DeviceId} (hoffset : 4 ≤ offset)
    (hmoves : ((startRecorded store operations).run done).Moves k)
    (h : AtDevice store operations jobId offset done k d) :
    Wrote store operations jobId offset number (done ++ [k])
      (number ((startRecorded store operations).run done).store) d := by
  obtain ⟨hk, n, device, hlength, hdevice, hd⟩ := h
  refine ⟨k, n, (((startRecorded store operations).run done).store,
    (((startRecorded store operations).run done).step k).store), device, hk, ?_, rfl, ?_, hd⟩
  · rw [Pool.history_concat, if_pos rfl, Pool.move_of_moves hmoves, ← hlength]
    exact List.getElem?_concat_length
  · rw [devicesLoaded_concat k (by omega)]
    exact hdevice

/-- The stored results of the job come from the loops of its deliveries. -/
theorem results_run
    (hresults : ∀ id r, store.provisioningResults.get? id = some r → r.job ≠ jobId)
    (schedule : List ℕ) {id : ℕ} {r : ProvisioningResult}
    (hr : ((startRecorded store operations).run schedule).store.1.provisioningResults.get? id =
      some r) (hjob : r.job = jobId) :
    Wrote store operations jobId 5 (·.1.provisioningResults.nextId) schedule id r.device := by
  induction schedule using List.reverseRecOn generalizing id r with
  | nil => exact absurd hjob (hresults id r hr)
  | append_singleton done k ih =>
    rw [Pool.run_append] at hr
    rcases ((startRecorded store operations).run done).moves_or k with hmoves | ⟨hs, -⟩
    · rcases result_step hmoves hr hjob with hold | ⟨hat, rfl⟩
      · exact (ih hold hjob).concat (by omega) k
      · exact wrote_of_atDevice (by omega) hmoves hat
    · rw [Pool.run_cons, Pool.run_nil, hs] at hr
      exact (ih hr hjob).concat (by omega) k

/-- So do the recorded pushes. -/
theorem pushes_run (schedule : List ℕ) {i : ℕ} {x : Push}
    (hx : ((startRecorded store operations).run schedule).store.2[i]? = some x)
    (hjob : x.job = jobId) :
    Wrote store operations jobId 4 (·.2.length) schedule i x.device := by
  induction schedule using List.reverseRecOn generalizing i x with
  | nil => cases hx
  | append_singleton done k ih =>
    rw [Pool.run_append, Pool.run_cons, Pool.run_nil] at hx
    rcases ((startRecorded store operations).run done).moves_or k with hmoves | ⟨hs, -⟩
    · obtain ⟨entries, hlog, hone, hentries⟩ := push_of_moves hmoves
      rw [hlog] at hx
      by_cases hold : i < ((startRecorded store operations).run done).store.2.length
      · rw [List.getElem?_append_left hold] at hx
        exact (ih hx hjob).concat (by omega) k
      · rw [List.getElem?_append_right (Nat.le_of_not_lt hold)] at hx
        have hlt := (List.getElem?_eq_some_iff.mp hx).1
        obtain rfl : i = ((startRecorded store operations).run done).store.2.length := by omega
        subst hjob
        obtain ⟨w, n, -, -, device, ho, hlength, -, hdevice, hd, -⟩ :=
          hentries x (List.mem_of_getElem? hx)
        exact wrote_of_atDevice (by omega) hmoves ⟨⟨w, ho⟩, n, device, hlength, hdevice, hd⟩
    · rw [hs] at hx
      exact (ih hx hjob).concat (by omega) k

/-! ### Loops that share no device -/

theorem loadedIds_nodup (jobId : ProvisioningJobId) (h : History Recorded) :
    (loadedIds jobId h).Nodup := by
  unfold loadedIds devicesLoaded
  cases h[1]? with
  | none => exact List.nodup_nil
  | some p =>
    exact ((List.perm_insertionSort _ _).map Prod.fst).nodup_iff.mpr (Table.select_nodup _ _)

/-- The statement that starts the loop of a delivery, its fourth. -/
theorem loop_start {k : ℕ} {done : List ℕ}
    (hlength : 4 ≤ ((startRecorded store operations).history k done).length) :
    ∃ before after, done = before ++ k :: after ∧
      ((startRecorded store operations).run before).Moves k ∧
      ((startRecorded store operations).history k before).length = 3 := by
  obtain ⟨p, hp⟩ : ∃ p, ((startRecorded store operations).history k done)[3]? = some p :=
    ⟨_, List.getElem?_eq_getElem hlength⟩
  obtain ⟨before, after, hdone, hmoves, htake, -⟩ := Pool.getElem?_history hp
  refine ⟨before, after, hdone, hmoves, ?_⟩
  rw [htake, List.length_take]
  omega

/-- Of two deliveries that have started their loops, the later one loaded no device of the
earlier. -/
theorem Orderly.later {schedule : List ℕ} (h : Orderly store operations jobId schedule) {k u : ℕ}
    (hne : u ≠ k) (hk : Delivers operations jobId k) (hu : Delivers operations jobId u)
    {done later before after before' after' : List ℕ} (hschedule : schedule = done ++ later)
    (hdone : done = before ++ k :: after) (hdone' : done = before' ++ u :: after')
    (hmoves : ((startRecorded store operations).run before).Moves k)
    (hmoves' : ((startRecorded store operations).run before').Moves u)
    (hlength : ((startRecorded store operations).history k before).length = 3)
    (hlength' : ((startRecorded store operations).history u before').length = 3)
    (hlt : before'.length < before.length) :
    ∀ d ∈ loadedIds jobId ((startRecorded store operations).history k done),
      d ∉ loadedIds jobId ((startRecorded store operations).history u done) := by
  obtain ⟨between, rfl⟩ : before' ++ [u] <+: before := by
    have hprefix : before' ++ [u] <+: done := ⟨after', by simp [hdone']⟩
    exact List.prefix_of_prefix_length_le hprefix ⟨_, hdone.symm⟩ (by simp; omega)
  have hstarted : 4 ≤ ((startRecorded store operations).history u
      (before' ++ [u] ++ between)).length := by
    rw [Pool.history_append, Pool.history_concat, if_pos rfl, Pool.move_of_moves hmoves']
    simp only [List.length_append, List.length_singleton, hlength']
    omega
  have hdisjoint := h.looping _ k (after ++ later) (by simp [hschedule, hdone]) hk hmoves hlength u
    hne hu hstarted
  unfold loadedIds at hdisjoint ⊢
  rw [hdone, devicesLoaded_concat k (by omega), devicesLoaded_concat u (by omega)]
  exact hdisjoint

theorem Orderly.disjoint {schedule : List ℕ} (h : Orderly store operations jobId schedule)
    {k u : ℕ} (hne : u ≠ k) (hk : Delivers operations jobId k) (hu : Delivers operations jobId u)
    (hlength : 4 ≤ ((startRecorded store operations).history k schedule).length)
    (hlength' : 4 ≤ ((startRecorded store operations).history u schedule).length) {d : DeviceId}
    (hd : d ∈ loadedIds jobId ((startRecorded store operations).history k schedule)) :
    d ∉ loadedIds jobId ((startRecorded store operations).history u schedule) := by
  obtain ⟨before, after, hdone, hmoves, hthree⟩ := loop_start hlength
  obtain ⟨before', after', hdone', hmoves', hthree'⟩ := loop_start hlength'
  have hself : schedule = schedule ++ [] := by simp
  rcases Nat.lt_trichotomy before'.length before.length with hlt | heq | hlt
  · exact h.later hne hk hu hself hdone hdone' hmoves hmoves' hthree hthree' hlt d hd
  · obtain ⟨-, hcons⟩ := List.append_inj (hdone.symm.trans hdone') heq.symm
    exact absurd (List.cons.inj hcons).1.symm hne
  · intro hd'
    exact h.later hne.symm hu hk hself hdone' hdone hmoves' hmoves hthree' hthree hlt d hd' hd

/-- Two entries for one device are one entry. -/
theorem Orderly.wrote_unique {schedule : List ℕ} (h : Orderly store operations jobId schedule)
    {offset : ℕ} (hoffset : 4 ≤ offset) {number : Recorded → ℕ} {id id' : ℕ} {d : DeviceId}
    (hw : Wrote store operations jobId offset number schedule id d)
    (hw' : Wrote store operations jobId offset number schedule id' d) : id = id' := by
  obtain ⟨k, n, p, device, hk, hp, rfl, hdevice, rfl⟩ := hw
  obtain ⟨u, m, q, device', hu, hq, rfl, hdevice', hd⟩ := hw'
  have hlength := (List.getElem?_eq_some_iff.mp hp).1
  have hlength' := (List.getElem?_eq_some_iff.mp hq).1
  have hmem : (loadedIds jobId ((startRecorded store operations).history k schedule))[n]? =
      some device.1 := by simp [loadedIds, hdevice]
  have hmem' : (loadedIds jobId ((startRecorded store operations).history u schedule))[m]? =
      some device.1 := by simp [loadedIds, hdevice', hd]
  by_cases hne : u = k
  · subst hne
    have hlt := (List.getElem?_eq_some_iff.mp hmem).1
    obtain rfl : n = m :=
      (List.getElem?_inj hlt (loadedIds_nodup jobId _)).mp (hmem.trans hmem'.symm)
    exact congrArg (fun r => number r.1) (Option.some.inj (hp.symm.trans hq))
  · exact absurd (List.mem_of_getElem? hmem')
      (h.disjoint hne hk hu (by omega) (by omega) (List.mem_of_getElem? hmem))

/-! ### The final status -/

/-- The job is there with a final status. -/
def HasFinalStatus (jobId : ProvisioningJobId) (db : Platform) : Prop :=
  ∃ job, db.provisioningJobs.get? jobId = some job ∧ job.status.isTerminal = true

/-- The other operations neither give the job a final status nor take it. -/
theorem hasFinalStatus_effect {o : Operation} {db db' : Platform} (h : Effect o db db')
    (hother : ∀ w, o ≠ .executeProvisioningJob w jobId) :
    HasFinalStatus jobId db' ↔ HasFinalStatus jobId db := by
  constructor
  · rintro ⟨job', hjob', hfinal⟩
    cases hjob : db.provisioningJobs.get? jobId with
    | none => simp [new_job_of_effect h hjob hjob', JobStatus.isTerminal] at hfinal
    | some job =>
      obtain ⟨job'', hjob'', -, -, hstatus⟩ := job_of_effect h hjob
      obtain rfl := Option.some.inj (hjob'.symm.trans hjob'')
      exact ⟨job, hjob, hstatus hother ▸ hfinal⟩
  · rintro ⟨job, hjob, hfinal⟩
    obtain ⟨job', hjob', -, -, hstatus⟩ := job_of_effect h hjob
    exact ⟨job', hjob', (hstatus hother).symm ▸ hfinal⟩

theorem hasFinalStatus_update {db : Platform} {set : ProvisioningJob → ProvisioningJob}
    (hset : ∀ job, (set job).status = job.status) :
    HasFinalStatus jobId
      { db with provisioningJobs := db.provisioningJobs.update jobId set } ↔
      HasFinalStatus jobId db := by
  unfold HasFinalStatus
  cases hjob : db.provisioningJobs.get? jobId <;> simp [hjob, hset]

theorem not_hasFinalStatus_running (db : Platform) (started : Option DateTime) :
    ¬ HasFinalStatus jobId { db with
      provisioningJobs := db.provisioningJobs.update jobId (fun row =>
        { row with status := .running, startedAt := started }) } := by
  rintro ⟨job, hjob, hfinal⟩
  rw [Table.get?_update_self] at hjob
  obtain ⟨row, -, rfl⟩ := Option.map_eq_some_iff.mp hjob
  cases hfinal

/-- A turn of a delivery other than setting the job RUNNING leaves the final status. -/
theorem hasFinalStatus_turn {w : PushWorld} {h : History Recorded} {s t : Recorded}
    (hturn : Turn w jobId h s t) :
    (HasFinalStatus jobId t.1 ↔ HasFinalStatus jobId s.1) ∨
      (h.length = 2 ∧ ¬ HasFinalStatus jobId t.1) := by
  cases hturn with
  | nothing => exact .inl Iff.rfl
  | running hlength => exact .inr ⟨hlength, not_hasFinalStatus_running s.1 _⟩
  | rendered hlength text => exact .inl (hasFinalStatus_update fun _ => rfl)
  | push => exact .inl Iff.rfl
  | result => exact .inl Iff.rfl
  | audit => exact .inl Iff.rfl

/-- A job has a final status only when a delivery of it has returned. -/
theorem returned_of_hasFinalStatus (hstatus : ¬ HasFinalStatus jobId store) (schedule : List ℕ)
    (h : HasFinalStatus jobId ((startRecorded store operations).run schedule).store.1) :
    ∃ u, Delivers operations jobId u ∧
      ((startRecorded store operations).run schedule).Returned u := by
  induction schedule using List.reverseRecOn with
  | nil => exact absurd h hstatus
  | append_singleton done k ih =>
    have hbefore (hfinal : HasFinalStatus jobId
        ((startRecorded store operations).run done).store.1) : ∃ u,
        Delivers operations jobId u ∧
          ((startRecorded store operations).run (done ++ [k])).Returned u := by
      obtain ⟨u, hu, hreturned⟩ := ih hfinal
      exact ⟨u, hu, Pool.run_append .. ▸ hreturned.run [k]⟩
    have hstep : HasFinalStatus jobId
        (((startRecorded store operations).run done).step k).store.1 := by
      simpa [Pool.run_append] using h
    rcases ((startRecorded store operations).run done).moves_or k with hmoves | ⟨hs, -⟩
    · by_cases hk : Delivers operations jobId k
      · obtain ⟨w, ho⟩ := hk
        rcases turn_of_moves ho hmoves with hturn | ⟨hreturned, -⟩
        · rcases hasFinalStatus_turn hturn with hkeep | ⟨-, hnot⟩
          · exact hbefore (hkeep.mp hstep)
          · exact absurd hstep hnot
        · exact ⟨k, ⟨w, ho⟩, hreturned⟩
      · rcases step_recorded store operations done k with hs | ⟨o, ho, heffect, -⟩
        · exact hbefore (hs ▸ hstep)
        · have hother : ∀ w, o ≠ .executeProvisioningJob w jobId := fun w heq => hk ⟨w, heq ▸ ho⟩
          exact hbefore ((hasFinalStatus_effect heffect hother).mp hstep)
    · exact hbefore (hs ▸ hstep)

/-- A final status stays through a step that the condition allows. -/
theorem Orderly.hasFinalStatus_step {schedule : List ℕ}
    (h : Orderly store operations jobId schedule) (hstatus : ¬ HasFinalStatus jobId store)
    {done later : List ℕ} {k : ℕ} (hschedule : schedule = done ++ k :: later)
    (hfinal : HasFinalStatus jobId ((startRecorded store operations).run done).store.1) :
    HasFinalStatus jobId (((startRecorded store operations).run done).step k).store.1 := by
  rcases ((startRecorded store operations).run done).moves_or k with hmoves | ⟨hs, -⟩
  · by_cases hk : Delivers operations jobId k
    · obtain ⟨w, ho⟩ := hk
      rcases turn_of_moves ho hmoves with hturn | ⟨-, successes, total, hs⟩
      · rcases hasFinalStatus_turn hturn with hkeep | ⟨hlength, -⟩
        · exact hkeep.mpr hfinal
        · obtain ⟨u, hu, hreturned⟩ := returned_of_hasFinalStatus hstatus done hfinal
          exact absurd hreturned (h.running done k later hschedule ⟨w, ho⟩ hmoves hlength u hu)
      · obtain ⟨job, hjob, -⟩ := hfinal
        rw [hs]
        refine ⟨_, (Table.get?_update_self ..).trans (congrArg _ hjob), ?_⟩
        exact finalStatus_isTerminal successes total
    · rcases step_recorded store operations done k with hs | ⟨o, ho, heffect, -⟩
      · exact hs.symm ▸ hfinal
      · have hother : ∀ w, o ≠ .executeProvisioningJob w jobId := fun w heq => hk ⟨w, heq ▸ ho⟩
        exact (hasFinalStatus_effect heffect hother).mpr hfinal
  · exact hs.symm ▸ hfinal

theorem Orderly.hasFinalStatus_run {schedule : List ℕ}
    (h : Orderly store operations jobId schedule) (hstatus : ¬ HasFinalStatus jobId store)
    (later : List ℕ) {done : List ℕ} (hschedule : schedule = done ++ later)
    (hfinal : HasFinalStatus jobId ((startRecorded store operations).run done).store.1) :
    HasFinalStatus jobId ((startRecorded store operations).run schedule).store.1 := by
  induction later generalizing done with
  | nil => simpa [hschedule] using hfinal
  | cons k later ih =>
    have hlater : schedule = (done ++ [k]) ++ later := by simp [hschedule]
    refine ih hlater ?_
    rw [Pool.run_append]
    exact h.hasFinalStatus_step hstatus hschedule hfinal

/-! ### Redelivery -/

/-- Deliveries of a job that nothing has been stored of are safe in every orderly run. -/
theorem safe_of_orderly_run (store : Platform) (operations : List Operation)
    (jobId : ProvisioningJobId) (schedule : List ℕ)
    (hresults : ∀ id r, store.provisioningResults.get? id = some r → r.job ≠ jobId)
    (hstatus : ∀ job, store.provisioningJobs.get? jobId = some job →
      job.status.isTerminal = false)
    (h : Orderly store operations jobId schedule) : Safe store operations jobId schedule := by
  have hnot : ¬ HasFinalStatus jobId store := by
    rintro ⟨job, hjob, hfinal⟩
    simp [hstatus job hjob] at hfinal
  constructor
  · intro id id' r r' hr hr' hjob hjob' hdevice
    have hw' := results_run hresults schedule hr' hjob'
    exact h.wrote_unique (by omega) (results_run hresults schedule hr hjob) (hdevice ▸ hw')
  · unfold List.Nodup
    rw [List.pairwise_map, List.pairwise_filter, List.pairwise_iff_getElem]
    intro i j hi hj hij hx hy hdevice
    have hwi := pushes_run schedule (List.getElem?_eq_getElem hi) (beq_iff_eq.mp hx)
    have hwj := pushes_run schedule (List.getElem?_eq_getElem hj) (beq_iff_eq.mp hy)
    exact Nat.ne_of_lt hij (h.wrote_unique (by omega) hwi (hdevice ▸ hwj))
  · intro done later hschedule job job' hjob hfinal hjob' hrunning
    obtain ⟨last, hlast, hterminal⟩ := h.hasFinalStatus_run hnot later hschedule ⟨job, hjob, hfinal⟩
    obtain rfl := Option.some.inj (hjob'.symm.trans hlast)
    simp [hrunning, JobStatus.isTerminal] at hterminal

/-- Whether a run is orderly is computed step by step, over the numbers of its deliveries. -/
theorem orderly_of_forall {schedule ks : List ℕ} (hks : ∀ k, Delivers operations jobId k → k ∈ ks)
    (hrunning : ∀ n : Fin schedule.length, ((startRecorded store operations).history schedule[n]
      (schedule.take n)).length = 2 →
        ∀ u ∈ ks, ¬ ((startRecorded store operations).run (schedule.take n)).Returned u)
    (hlooping : ∀ n : Fin schedule.length, ((startRecorded store operations).history schedule[n]
      (schedule.take n)).length = 3 → ∀ u ∈ ks, u ≠ schedule[n] →
        4 ≤ ((startRecorded store operations).history u (schedule.take n)).length →
        ∀ d ∈ loadedIds jobId ((startRecorded store operations).history schedule[n]
          (schedule.take n)),
          d ∉ loadedIds jobId ((startRecorded store operations).history u (schedule.take n))) :
    Orderly store operations jobId schedule := by
  constructor
  · rintro done k later rfl - - hlength u hu
    have h := hrunning ⟨done.length, by simp⟩
    simp only [Fin.getElem_fin, List.getElem_append_right (Nat.le_refl _), Nat.sub_self,
      List.getElem_cons_zero, List.take_left] at h
    exact h hlength u (hks u hu)
  · rintro done k later rfl - - hlength u hne hu
    have h := hlooping ⟨done.length, by simp⟩
    simp only [Fin.getElem_fin, List.getElem_append_right (Nat.le_refl _), Nat.sub_self,
      List.getElem_cons_zero, List.take_left] at h
    exact h hlength u (hks u hu) hne

/-- Three deliveries of a job, while an administrator deletes the template and the device. -/
def labDeliveries : List Operation :=
  [.executeProvisioningJob .calm 1, .executeProvisioningJob .calm 1, .executeProvisioningJob .calm 1,
    .destroyTemplate (some 1) 1, .destroyDevice (some 1) 1]

/-- The first delivery is in its loop when the others begin. The second one loads the same device
and no template, so it does not get to its loop, and the third one loads no device any more. Both
have set the job RUNNING before the first one finishes. -/
def labOverlap : List ℕ :=
  [0, 0, 0, 0, 0, 0, 0, 2, 3, 3, 3, 1, 1, 4, 4, 4, 2, 1, 2, 0, 2, 2]

theorem delivers_labDeliveries (k : ℕ) (h : Delivers labDeliveries 1 k) : k ∈ [0, 1, 2] := by
  obtain ⟨w, hk⟩ := h
  match k with
  | 0 | 1 | 2 => decide
  | 3 | 4 => cases hk
  | _ + 5 => cases hk

theorem orderly_labOverlap : Orderly labJob labDeliveries 1 labOverlap := by
  refine orderly_of_forall delivers_labDeliveries ?_ ?_ <;> decide +kernel

theorem safe_of_orderly_run_of_lab : Safe labJob labDeliveries 1 labOverlap := by
  refine safe_of_orderly_run labJob labDeliveries 1 _ (fun id r hr => ?_) (fun job hjob => ?_)
    orderly_labOverlap
  · cases hr
  · obtain rfl := Option.some.inj hjob
    rfl

/-- What the three deliveries have come to, and the status they leave. -/
example : ((startRecorded labJob labDeliveries).run labOverlap).store.2.map Push.device = [1] ∧
    [0, 1, 2].map (fun k => decide
      (((startRecorded labJob labDeliveries).run labOverlap).Returned k)) = [true, false, true] ∧
    (((startRecorded labJob labDeliveries).run labOverlap).store.1.provisioningJobs.get? 1).map
      (·.status) = some .success := by
  decide +kernel

/-- The message of a job is delivered a second time after the first delivery has returned. -/
def labRedelivery : List Operation :=
  [.executeProvisioningJob .calm 1, .executeProvisioningJob .calm 1]

/-- The second delivery sets the job RUNNING, sends the configuration to the device and inserts
its result once more. -/
theorem not_safe_of_redelivery :
    ¬ Safe labJob labRedelivery 1 [0, 0, 0, 0, 0, 0, 0, 0, 1, 1, 1, 1, 1, 1] ∧
    ((startRecorded labJob labRedelivery).run
      [0, 0, 0, 0, 0, 0, 0, 0, 1, 1, 1, 1, 1, 1]).store.2.map Push.device = [1, 1] ∧
    ((startRecorded labJob labRedelivery).run
      [0, 0, 0, 0, 0, 0, 0, 0, 1, 1, 1, 1, 1, 1]).store.1.provisioningResults.rows.map
        (·.2.device) = [1, 1] ∧
    (((startRecorded labJob labRedelivery).run
      [0, 0, 0, 0, 0, 0, 0, 0]).store.1.provisioningJobs.get? 1).map (·.status) = some .success ∧
    (((startRecorded labJob labRedelivery).run
      [0, 0, 0, 0, 0, 0, 0, 0, 1, 1, 1]).store.1.provisioningJobs.get? 1).map (·.status) =
        some .running := by
  refine ⟨fun h => ?_, rfl, rfl, rfl, rfl⟩
  have hpushes : ((((startRecorded labJob labRedelivery).run
      [0, 0, 0, 0, 0, 0, 0, 0, 1, 1, 1, 1, 1, 1]).store.2.filter
        (fun x => x.job == 1)).map Push.device) = [1, 1] := rfl
  have honce := h.onePush
  rw [hpushes] at honce
  exact absurd honce (by decide)

end DevSecOpsPlatform.JobRedelivery
