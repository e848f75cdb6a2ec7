import DevSecOpsPlatform.JobDeliveries
import Mathlib.Tactic.IntervalCases

/-!
# The configuration that was requested

A job refers to its template and does not copy it, and the worker renders the body that it
finds when it loads the job. What it pushes is what was requested while every delivery finds
the body that the template had when the job was created, or finds the template deleted.
-/

namespace DevSecOpsPlatform.RequestedConfigs

open KeyedTables StatementPrograms PlatformModels PlatformStore PythonValues NetmikoSessions
open TemplateRendering ProvisioningTasks ProvisioningViews ProgramInterleaving PlatformOperations
open PlatformChanges JobDeliveries

/-- The body of the template that the job refers to. -/
def storedBody (jobId : ProvisioningJobId) (db : Platform) : Option String :=
  ((db.provisioningJobs.get? jobId).bind fun job =>
    job.template.bind db.configTemplates.get?).map ConfigTemplate.body

/-- The step after `done` inserts the job. -/
structure Creates (store : Platform) (operations : List Operation) (jobId : ProvisioningJobId)
    (done : List ℕ) (i : ℕ) (job : ProvisioningJob) : Prop where
  absent : ((startRecorded store operations).run done).store.1.provisioningJobs.get? jobId = none
  inserted : ((startRecorded store operations).run
    (done ++ [i])).store.1.provisioningJobs.get? jobId = some job

/-- Every delivery that is about to load the job finds its template with the given body, or
deleted. -/
def KeepsBody (store : Platform) (operations : List Operation) (jobId : ProvisioningJobId)
    (schedule : List ℕ) (requested : Option String) : Prop :=
  ∀ done k later w, schedule = done ++ k :: later →
    operations[k]? = some (.executeProvisioningJob w jobId) →
    ((startRecorded store operations).run done).Moves k →
    (startRecorded store operations).history k done = [] →
    ∀ body, storedBody jobId ((startRecorded store operations).run done).store.1 = some body →
      requested = some body

/-- Every recorded push of the job carries the rendering of the body with the variables. -/
def Requested (store : Platform) (operations : List Operation) (jobId : ProvisioningJobId)
    (schedule : List ℕ) (requested : Option String) (given : Json) : Prop :=
  ∀ x ∈ ((startRecorded store operations).run schedule).store.2, x.job = jobId →
    ∃ w body text, .executeProvisioningJob w jobId ∈ operations ∧ requested = some body ∧
      renderTemplate w.jinja body given = .ok text ∧ x.lines = configLines text

variable {store : Platform} {operations : List Operation} {jobId : ProvisioningJobId}

/-- A recorded push carries the rendering of the job as its delivery loaded it. -/
theorem pushed_run (schedule : List ℕ) {x : Push}
    (hx : x ∈ ((startRecorded store operations).run schedule).store.2) :
    ∃ k w job text, operations[k]? = some (.executeProvisioningJob w x.job) ∧
      Rendered w x.job job text ((startRecorded store operations).history k schedule) ∧
      x.lines = configLines text := by
  induction schedule using List.reverseRecOn generalizing x with
  | nil => cases hx
  | append_singleton done k ih =>
    have hold (hx : x ∈ ((startRecorded store operations).run done).store.2) :
        ∃ u w job text, operations[u]? = some (.executeProvisioningJob w x.job) ∧
          Rendered w x.job job text ((startRecorded store operations).history u (done ++ [k])) ∧
          x.lines = configLines text := by
      obtain ⟨u, w, job, text, ho, hrendered, hlines⟩ := ih hx
      exact ⟨u, w, job, text, ho, Pool.history_append .. ▸ hrendered.append _, hlines⟩
    rw [Pool.run_append, Pool.run_cons, Pool.run_nil] at hx
    rcases ((startRecorded store operations).run done).moves_or k with hmoves | ⟨hs, -⟩
    · obtain ⟨entries, hlog, -, hentries⟩ := push_of_moves hmoves
      rw [hlog] at hx
      rcases List.mem_append.mp hx with hx | hx
      · exact hold hx
      · obtain ⟨w, n, job, text, device, ho, -, hrendered, -, -, hlines⟩ := hentries x hx
        exact ⟨k, w, job, text, ho, Pool.history_append .. ▸ hrendered.append _, hlines⟩
    · exact hold (hs ▸ hx)

/-- What a delivery that has rendered found when it was about to load the job. -/
theorem loaded_run {k : ℕ} {w : PushWorld} {schedule : List ℕ} {job : LoadedJob} {text : String}
    (h : Rendered w jobId job text ((startRecorded store operations).history k schedule)) :
    ∃ done later row body, schedule = done ++ k :: later ∧
      ((startRecorded store operations).run done).Moves k ∧
      (startRecorded store operations).history k done = [] ∧
      ((startRecorded store operations).run done).store.1.provisioningJobs.get? jobId =
        some row ∧
      storedBody jobId ((startRecorded store operations).run done).store.1 = some body ∧
      renderTemplate w.jinja body row.jobVariables = .ok text := by
  obtain ⟨p, hp, hjob⟩ := Option.bind_eq_some_iff.mp h.loaded
  obtain ⟨row, hrow, rfl⟩ := Option.map_eq_some_iff.mp hjob
  obtain ⟨done, later, hschedule, hmoves, hdone, rfl⟩ := Pool.getElem?_history hp
  have hrenders := h.renders
  cases htemplate : row.template.bind
      ((startRecorded store operations).run done).store.1.configTemplates.get? with
  | none => simp [renderJob, loadedJob, htemplate] at hrenders
  | some template =>
    refine ⟨done, later, row, template.body, hschedule, hmoves, hdone, hrow, ?_, ?_⟩
    · rw [storedBody, hrow]
      exact congrArg (Option.map ConfigTemplate.body) htemplate
    · simpa [renderJob, loadedJob, htemplate] using hrenders

/-- A job that is there was inserted before, with the variables that it has. -/
theorem Creates.before {created done later later' : List ℕ} {i : ℕ} {job row : ProvisioningJob}
    (h : Creates store operations jobId created i job)
    (heq : created ++ i :: later = done ++ later')
    (hrow : ((startRecorded store operations).run done).store.1.provisioningJobs.get? jobId =
      some row) : row.jobVariables = job.jobVariables := by
  have hcreated : created ++ [i] <+: done ++ later' := ⟨later, by simp [← heq]⟩
  rcases Nat.lt_or_ge created.length done.length with hlt | hle
  · obtain ⟨between, rfl⟩ : created ++ [i] <+: done :=
      List.prefix_of_prefix_length_le hcreated (List.prefix_append _ _) (by simp; omega)
    obtain ⟨job', hjob', hvariables⟩ := job_run (created ++ [i]) between h.inserted
    obtain rfl := Option.some.inj (hrow.symm.trans hjob')
    exact hvariables
  · obtain ⟨between, rfl⟩ : done <+: created :=
      List.prefix_of_prefix_length_le (List.prefix_append _ _)
        ((List.prefix_append _ _).trans hcreated) hle
    obtain ⟨job', hjob', -⟩ := job_run done between hrow
    rw [h.absent] at hjob'
    cases hjob'

/-- While the deliveries of a job find the body that its template had when the job was created,
they push what was requested. -/
theorem requested_of_kept_body (store : Platform) (operations : List Operation)
    (jobId : ProvisioningJobId) (created later : List ℕ) (i : ℕ) (job : ProvisioningJob)
    (h : Creates store operations jobId created i job)
    (hkept : KeepsBody store operations jobId (created ++ i :: later)
      (storedBody jobId ((startRecorded store operations).run (created ++ [i])).store.1)) :
    Requested store operations jobId (created ++ i :: later)
      (storedBody jobId ((startRecorded store operations).run (created ++ [i])).store.1)
      job.jobVariables := by
  intro x hx hjob
  subst hjob
  obtain ⟨k, w, loaded, text, ho, hrendered, hlines⟩ := pushed_run _ hx
  obtain ⟨done, later', row, body, hschedule, hmoves, hfirst, hrow, hbody, htext⟩ :=
    loaded_run hrendered
  have hvariables : row.jobVariables = job.jobVariables := h.before hschedule hrow
  have hrequested := hkept done k later' w hschedule ho hmoves hfirst body hbody
  exact ⟨w, body, text, List.mem_of_getElem? ho, hrequested, hvariables ▸ htext, hlines⟩

/-- Templates that render to their bodies. -/
def verbatim : PushWorld := { PushWorld.calm with jinja := fun body => .ok (fun _ => .ok body) }

/-- The small platform with a template and no jobs. -/
def labTemplate : Platform := { lab with
  configTemplates := Table.empty.insert {
    name := "base", body := "hostname r1", createdAt := 0, updatedAt := 0 } }

/-- An administrator creates a job and changes the template, and a worker executes the job. -/
def labRequests : List Operation :=
  [.createProvisioningJob (some 1) 0 { template := some 1, deviceIds := some [1] } "t",
    .updateTemplate (some 1) .patch 0 1 { body := some "hostname r2" },
    .executeProvisioningJob verbatim 1]

theorem creates_labRequests : Creates labTemplate labRequests 1 [0, 0] 0
    (ProvisioningJobData.row { template := some 1, deviceIds := some [1] } 1 0) := ⟨rfl, rfl⟩

theorem executes_labRequests {k : ℕ} {w : PushWorld}
    (h : labRequests[k]? = some (.executeProvisioningJob w 1)) : k = 2 ∧ w = verbatim := by
  match k with
  | 0 => cases h
  | 1 => cases h
  | 2 => exact ⟨rfl, (Operation.executeProvisioningJob.inj (Option.some.inj h)).1.symm⟩
  | _ + 3 => cases h

/-- The template is changed after the worker has loaded the job. -/
theorem requested_of_kept_body_of_lab :
    Requested labTemplate labRequests 1 ([0, 0] ++ 0 :: [0, 0, 0, 0, 2, 1, 1, 1, 1, 2, 2, 2, 2])
      (storedBody 1 ((startRecorded labTemplate labRequests).run ([0, 0] ++ [0])).store.1)
      (.obj []) := by
  refine requested_of_kept_body labTemplate labRequests 1 [0, 0] _ 0 _ creates_labRequests ?_
  intro done k later w hschedule ho hmoves hfirst body hbody
  obtain ⟨rfl, -⟩ := executes_labRequests ho
  have hdone :
      done = ([0, 0] ++ 0 :: [0, 0, 0, 0, 2, 1, 1, 1, 1, 2, 2, 2, 2]).take done.length := by
    rw [hschedule, List.take_left]
  have hnext : ([0, 0] ++ 0 :: [0, 0, 0, 0, 2, 1, 1, 1, 1, 2, 2, 2, 2])[done.length]? = some 2 := by
    rw [hschedule]
    simp
  have hlt : done.length < 16 := (List.getElem?_eq_some_iff.mp hnext).1
  generalize done.length = n at hdone hnext hlt
  subst hdone
  by_cases hn : n = 7
  · subst hn
    exact hbody
  · obtain hbefore | hafter : n < 7 ∨ 8 ≤ n := by omega
    · interval_cases n <;> simp at hnext
    · obtain ⟨rest, hrest⟩ := List.take_prefix_take_left (l :=
        [0, 0] ++ 0 :: [0, 0, 0, 0, 2, 1, 1, 1, 1, 2, 2, 2, 2]) hafter
      rw [← hrest, Pool.history_append] at hfirst
      cases (List.append_eq_nil_iff.mp hfirst).1

/-- The template is changed before the worker loads the job: the device gets what nobody
requested. -/
theorem not_requested_of_changed_template :
    Creates labTemplate labRequests 1 [0, 0] 0
      (ProvisioningJobData.row { template := some 1, deviceIds := some [1] } 1 0) ∧
    ¬ Requested labTemplate labRequests 1 ([0, 0] ++ 0 :: [0, 0, 0, 0, 1, 1, 1, 1, 2, 2, 2, 2, 2])
      (storedBody 1 ((startRecorded labTemplate labRequests).run ([0, 0] ++ [0])).store.1)
      (.obj []) := by
  refine ⟨⟨rfl, rfl⟩, fun h => ?_⟩
  have hpushes : ((startRecorded labTemplate labRequests).run
      ([0, 0] ++ 0 :: [0, 0, 0, 0, 1, 1, 1, 1, 2, 2, 2, 2, 2])).store.2 =
        [⟨1, 1, buildParams labDevice, configLines "hostname r2"⟩] := rfl
  have hbody : storedBody 1
      ((startRecorded labTemplate labRequests).run ([0, 0] ++ [0])).store.1 =
        some "hostname r1" := rfl
  obtain ⟨w, body, text, hw, hrequested, htext, hlines⟩ :=
    h _ (hpushes.symm ▸ List.mem_singleton_self _) rfl
  obtain ⟨k, hk⟩ := List.mem_iff_getElem?.mp hw
  obtain ⟨-, rfl⟩ := executes_labRequests hk
  obtain rfl := Option.some.inj (hbody.symm.trans hrequested)
  obtain rfl := Except.ok.inj htext
  exact absurd hlines (by decide)

end DevSecOpsPlatform.RequestedConfigs
