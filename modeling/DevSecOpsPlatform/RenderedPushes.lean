import DevSecOpsPlatform.JobOutcomes
import Mathlib.Data.List.TakeWhile

/-!
# The previewed text and the pushed lines

Preview and job render a body with variables by the same function. The job cuts the text at
every line boundary and drops the lines of white space; every line boundary is white space, so
the devices are sent all the rest of the text, in order. The variables of the job are the posted
ones as the database gives them back, which the preview need not have been given.
-/

namespace DevSecOpsPlatform.RenderedPushes

open KeyedTables StatementPrograms PlatformModels PlatformStore RolePermissions PythonValues
open NetmikoSessions TemplateRendering ProvisioningTasks ProvisioningViews SessionCalls JobCalls
open JobOutcomes JsonbDocuments

/-! ### Lines with text -/

/-- The characters of a text that are not white space. -/
def inked (cs : List Char) : List Char := cs.filter (fun c => !isSpace c)

/-- A line that contains a character that is not white space. -/
def hasInk (line : String) : Bool := line.toList.any (fun c => !isSpace c)

def inkedLines (text : String) : List String := (splitlines text).filter hasInk

@[simp] theorem inked_append (cs ds : List Char) : inked (cs ++ ds) = inked cs ++ inked ds :=
  List.filter_append ..

theorem inked_cons_of_space {c : Char} (h : isSpace c = true) (cs : List Char) :
    inked (c :: cs) = inked cs := by
  simp [inked, h]

theorem isSpace_of_isLineBoundary {c : Char} (h : isLineBoundary c = true) : isSpace c = true := by
  simp only [isLineBoundary, Bool.or_eq_true, Bool.and_eq_true, decide_eq_true_eq, beq_iff_eq] at h
  simp only [isSpace, Bool.or_eq_true, Bool.and_eq_true, decide_eq_true_eq, beq_iff_eq]
  omega

theorem strip_eq_nil_iff (cs : List Char) : strip cs = [] ↔ ∀ c ∈ cs, isSpace c = true := by
  rw [strip, List.reverse_eq_nil_iff, List.dropWhile_eq_nil_iff]
  simp only [List.mem_reverse]
  constructor
  · intro h c hc
    rw [← List.takeWhile_append_dropWhile (p := isSpace) (l := cs)] at hc
    rcases List.mem_append.mp hc with hc | hc
    · exact List.mem_takeWhile_imp hc
    · exact h c hc
  · intro h c hc
    exact h c ((List.dropWhile_sublist isSpace).mem hc)

theorem configLines_eq_inkedLines (text : String) : configLines text = inkedLines text := by
  refine List.filter_congr fun line _ => ?_
  cases hany : hasInk line with
  | false =>
    have hspaces : ∀ c ∈ line.toList, isSpace c = true := by simpa [hasInk] using hany
    rw [(strip_eq_nil_iff line.toList).mpr hspaces]
    rfl
  | true =>
    obtain ⟨c, hc, hinked⟩ := List.any_eq_true.mp hany
    cases hstrip : strip line.toList with
    | nil => simp [(strip_eq_nil_iff line.toList).mp hstrip c hc] at hinked
    | cons d ds => rfl

/-- A cut loses the line boundaries alone. -/
theorem inked_cutLines (line cs : List Char) :
    (cutLines line cs).flatMap (fun l => inked l.1) = inked (line.reverse ++ cs) := by
  fun_induction cutLines line cs with
  | case1 line hline =>
    have hnil : line = [] := by simpa using hline
    simp [hnil, inked]
  | case2 line hline => simp
  | case3 line cs ih =>
    have hends : inked ('\r' :: '\n' :: cs) = inked cs :=
      (inked_cons_of_space rfl _).trans (inked_cons_of_space rfl _)
    rw [List.flatMap_cons, ih, inked_append line.reverse, hends]
    rfl
  | case4 line c cs _ hc ih =>
    rw [List.flatMap_cons, ih, inked_append line.reverse,
      inked_cons_of_space (isSpace_of_isLineBoundary hc)]
    rfl
  | case5 line c cs _ hc ih =>
    rw [ih, List.reverse_cons, List.append_assoc]
    rfl

/-- What the devices are sent is the text, but for its white space. -/
theorem inked_inkedLines (text : String) :
    (inkedLines text).flatMap (fun line => inked line.toList) = inked text.toList := by
  have hblank (lines : List String) :
      (lines.filter hasInk).flatMap (fun line => inked line.toList) =
        lines.flatMap (fun line => inked line.toList) := by
    induction lines with
    | nil => rfl
    | cons line lines ih =>
      by_cases hink : hasInk line = true
      · rw [List.filter_cons_of_pos hink, List.flatMap_cons, List.flatMap_cons, ih]
      · have hnone : inked line.toList = [] := by
          apply List.filter_eq_nil_iff.mpr
          intro c hc hinked
          exact hink (List.any_eq_true.mpr ⟨c, hc, hinked⟩)
        rw [List.filter_cons_of_neg hink, List.flatMap_cons, ih, hnone, List.nil_append]
  rw [inkedLines, hblank, splitlines, List.flatMap_map]
  simpa using inked_cutLines [] text.toList

/-! ### The two paths -/

/-- A preview that answers 200 has rendered the text that it answers. -/
theorem renderTemplate_of_preview {jinja : Jinja} {caller : Option UserId} {id : ConfigTemplateId}
    {vars : Option Json} {db after : Platform} {r : String} {template : ConfigTemplate}
    (htemplate : db.configTemplates.get? id = some template)
    (hrun : (preview jinja caller id vars).run db =
      (.ok ⟨200, .obj [("rendered", .str r)]⟩, after)) :
    renderTemplate jinja template.body (vars.getD (.obj [])) = .ok r := by
  rw [preview] at hrun
  obtain ⟨user, hpermit⟩ := run_permit_bind_ok (congrArg Prod.fst hrun)
  rw [hpermit, run_getObject_bind, htemplate] at hrun
  dsimp only at hrun
  cases hrender : renderTemplate jinja template.body (vars.getD (.obj [])) with
  | ok text =>
    rw [hrender] at hrun
    have hresponse := Except.ok.inj (congrArg Prod.fst hrun)
    simp only [Response.mk.injEq, Json.obj.injEq, List.cons.injEq, Prod.mk.injEq,
      Json.str.injEq, true_and, and_true] at hresponse
    rw [hresponse]
  | error e =>
    rw [hrender] at hrun
    dsimp only at hrun
    split at hrun
    · cases congrArg Prod.fst hrun
    · have hresponse := Except.ok.inj (congrArg Prod.fst hrun)
      cases congrArg Response.status hresponse

theorem renderJob_eq {jinja : Jinja} {jobId : ProvisioningJobId} {row : ProvisioningJob}
    {db : Platform} {id : ConfigTemplateId} {template : ConfigTemplate}
    (hrow : row.template = some id) (htemplate : db.configTemplates.get? id = some template) :
    renderJob jinja (loadedJob jobId row db) =
      renderTemplate jinja template.body row.jobVariables := by
  simp [renderJob, loadedJob, hrow, htemplate]

/-- A run of the job that renders `r`: it stores the text, and every device is sent the lines of
it that are not blank, up to the first device whose rows the database does not take. -/
structure Pushes (w : PushWorld) (jobId : ProvisioningJobId) (db : Platform)
    (row : ProvisioningJob) (r : String) : Prop where
  runs : ∃ outcome after calls, (executeProvisioningJob w jobId).run db = (outcome, after) ∧
    (traceJob w jobId).run (db, []) = (outcome, (after, calls)) ∧
    (after.provisioningJobs.get? jobId).map (·.renderedConfig) = some r ∧
    (AllAccepted w (loadedJob jobId row db) (inkedLines r) 0 (jobDeviceRows jobId db) →
      ∃ result, outcome = .ok result) ∧
    ∀ n d, (jobDeviceRows jobId db)[n]? = some d →
      AllAccepted w (loadedJob jobId row db) (inkedLines r) 0 ((jobDeviceRows jobId db).take n) →
      calls.filter (fun c => c.1 == d.1) =
        (pushCalls (w.session n) d.2 (inkedLines r)).map (fun call => (d.1, call))
  keeps : (inkedLines r).flatMap (fun line => inked line.toList) = inked r.toList

/-- A run of the job that reaches no device and adds no row. -/
def Refuses (w : PushWorld) (jobId : ProvisioningJobId) (db : Platform) : Prop :=
  ∃ e after, (executeProvisioningJob w jobId).run db = (.error e, after) ∧
    (traceJob w jobId).run (db, []) = (.error e, (after, [])) ∧
    after.provisioningResults = db.provisioningResults ∧ after.auditLogs = db.auditLogs

/-- The calls of a loop that stops at the device after `before`, to a device before which it has
not stopped. -/
theorem filter_jobCalls_refused (w : PushWorld) {job : LoadedJob} {lines : List String}
    {before after : List (DeviceId × Device)} {d e : DeviceId × Device} {n : ℕ}
    (hnodup : ((before ++ d :: after).map Prod.fst).Nodup)
    (hd : ¬ Accepted w job lines before.length d) (he : (before ++ d :: after)[n]? = some e)
    (hearlier : AllAccepted w job lines 0 ((before ++ d :: after).take n)) :
    (jobCalls w lines 0 (before ++ [d])).filter (fun c => c.1 == e.1) =
      deviceCalls w lines n e := by
  have hn : n < (before ++ [d]).length := by
    by_contra hlater
    have hlast : ((before ++ d :: after).take n)[before.length]? = some d := by
      rw [List.getElem?_take_of_lt (Nat.lt_of_succ_le (by simpa using hlater))]
      simp
    have haccepted := hearlier before.length d hlast
    rw [Nat.zero_add] at haccepted
    exact hd haccepted
  rw [List.append_cons] at he hnodup
  rw [List.getElem?_append_left hn] at he
  have hfirst : ((before ++ [d]).map Prod.fst).Nodup := by
    rw [List.map_append] at hnodup
    exact hnodup.of_append_left
  rw [filter_jobCalls w lines 0 n hfirst he, Nat.zero_add]

theorem pushes_of_renders {w : PushWorld} {jobId : ProvisioningJobId} {db : Platform}
    {row : ProvisioningJob} {r : String} (hrow : db.provisioningJobs.get? jobId = some row)
    (htext : storedText w.jinja (loadedJob jobId row db) = .ok r) :
    Pushes w jobId db row r := by
  obtain ⟨hrender, hstorable⟩ := storedText_eq_ok_iff.mp htext
  have hrun := run_executeProvisioningJob w jobId db
  refine ⟨?_, inked_inkedLines r⟩
  simp only [← configLines_eq_inkedLines]
  by_cases hall : AllAccepted w (loadedJob jobId row db) (configLines r) 0 (jobDeviceRows jobId db)
  · have htrace := run_traceJob w [] hrow hrender (nulFree_iff.mpr ⟨hstorable, hall⟩)
    have hstored : ((completed w jobId row r db).provisioningJobs.get? jobId).map
        (·.renderedConfig) = some r := by
      simp [completed, pushed, inserted, started_get? w r (fun _ => []) hrow]
    rw [htrace] at hrun
    refine ⟨_, _, _, hrun, htrace, hstored, fun _ => ⟨_, rfl⟩, fun n d hd _ => ?_⟩
    rw [List.nil_append, filter_jobCalls w (configLines r) 0 n (nodup_jobDeviceRows jobId db) hd,
      Nat.zero_add, deviceCalls]
  · obtain ⟨e, before, d, after, rs, hdevices, -, hd, -, htrace⟩ :=
      run_traceJob_refused w [] hrow htext hall
    have hnodup := nodup_jobDeviceRows jobId db
    rw [htrace] at hrun
    refine ⟨_, _, _, hrun, htrace, ?_, fun h => absurd h hall, fun n e he hearlier => ?_⟩
    · simp [inserted, started_get? w r (fun _ => []) hrow]
    · rw [hdevices] at hnodup he hearlier
      rw [List.nil_append, filter_jobCalls_refused w hnodup hd he hearlier, deviceCalls]

theorem refuses_of_error {w : PushWorld} {jobId : ProvisioningJobId} {db : Platform}
    {row : ProvisioningJob} {e : Exn} (hrow : db.provisioningJobs.get? jobId = some row)
    (htext : storedText w.jinja (loadedJob jobId row db) = .error e) : Refuses w jobId db := by
  have htrace := run_traceJob_error w [] hrow htext
  have hrun := run_executeProvisioningJob w jobId db
  rw [htrace] at hrun
  exact ⟨e, _, hrun, htrace, rfl, rfl⟩

/-! ### The variables of a job -/

/-- The jobs that are not in `store` have these variables, of which no text has a NUL
character. -/
def NewJobsHave (store : Platform) (vars : Json) (db : Platform) : Prop :=
  ∀ id row, store.provisioningJobs.get? id = none → db.provisioningJobs.get? id = some row →
    row.jobVariables = vars ∧ vars.hasNul = false

/-- A job is created with the variables that the column gives back, when it is created at all. -/
theorem variables_of_created {posted : Json} {data : ProvisioningJobData}
    (hposted : data.jobVariables = some posted) (caller : Option UserId) (now : DateTime)
    (taskId : String) (store : Platform) :
    NewJobsHave store (jsonb posted)
      ((createProvisioningJob caller now data taskId).run store).2 := by
  have hrefl : Std.Refl fun s t : Platform =>
      NewJobsHave store (jsonb posted) s → NewJobsHave store (jsonb posted) t := ⟨fun _ h => h⟩
  refine Program.Writes.run_invariant (writes_createProvisioningJob ?_ ?_ ?_ ?_) ?_
  · intro db user hnul h id row hnew hrow
    rw [Table.get?_insert] at hrow
    split at hrow
    · obtain rfl := Option.some.inj hrow
      have hvars : (data.row user now).jobVariables = posted := by
        rw [ProvisioningJobData.row, hposted, Option.getD_some]
      rw [ProvisioningJob.stored, hasNul_jsonb, hvars]
      exact ⟨rfl, hvars ▸ hnul⟩
    · exact h id row hnew hrow
  · exact fun _ _ _ h => h
  · exact fun _ _ h => h
  · intro db k h id row hnew hrow
    rw [Table.get?_update] at hrow
    split at hrow
    · obtain ⟨row', hrow', rfl⟩ := Option.map_eq_some_iff.mp hrow
      exact h id row' hnew hrow'
    · exact h id row hnew hrow
  · intro id row hnew hrow
    simp [hnew] at hrow

/-- A job that was created with the variables `posted` does with its template what the preview
of the same body shows for the variables as the column gives them back, and nothing when they do
not render or render a text that the database does not take. -/
theorem job_agrees_with_preview (w : PushWorld) (jobId : ProvisioningJobId) (db : Platform)
    (row : ProvisioningJob) (id : ConfigTemplateId) (template : ConfigTemplate) (posted : Json)
    (hrow : db.provisioningJobs.get? jobId = some row) (hid : row.template = some id)
    (htemplate : db.configTemplates.get? id = some template)
    (hposted : row.jobVariables = jsonb posted) :
    (∀ caller now data taskId store, data.jobVariables = some posted →
      NewJobsHave store (jsonb posted)
        ((createProvisioningJob caller now data taskId).run store).2) ∧
    (∀ caller previewed shown vars store after r,
      store.configTemplates.get? previewed = some shown → shown.body = template.body →
      vars.getD (.obj []) = jsonb posted →
      (preview w.jinja caller previewed vars).run store =
        (.ok ⟨200, .obj [("rendered", .str r)]⟩, after) →
      (storable [r] = true → Pushes w jobId db row r) ∧
        (storable [r] = false → Refuses w jobId db)) ∧
    (∀ e, renderTemplate w.jinja template.body (jsonb posted) = .error e →
      Refuses w jobId db) := by
  have hjob : renderJob w.jinja (loadedJob jobId row db) = _ := renderJob_eq hid htemplate
  rw [hposted] at hjob
  refine ⟨fun caller now data taskId store hdata =>
    variables_of_created hdata caller now taskId store, ?_, ?_⟩
  · intro caller previewed shown vars store after r hshown hbody hvars hpreview
    have hrender := renderTemplate_of_preview hshown hpreview
    rw [hbody, hvars, ← hjob] at hrender
    refine ⟨fun hstorable => pushes_of_renders hrow
      (storedText_eq_ok_iff.mpr ⟨hrender, hstorable⟩), fun hnul => ?_⟩
    refine refuses_of_error (e := nulTextError) hrow ?_
    rw [storedText, hrender, ok_bind, hnul]
    rfl
  · intro e hrender
    refine refuses_of_error (e := e) hrow ?_
    rw [storedText, hjob, hrender]
    rfl

theorem labFleet_agrees_with_preview :
    Pushes labSessions 1 labFleet labFleetJob labLines :=
  ((job_agrees_with_preview labSessions 1 labFleet labFleetJob 1 labTemplate
    (.obj [("user", .str "ops"), ("site", .str "fra")]) rfl rfl rfl rfl).2.1
      (some 1) 1 _ (some (.obj [("site", .str "fra"), ("user", .str "ops")])) labFleet labFleet
      labLines rfl rfl rfl rfl).1 (by decide +kernel)

example : inkedLines labLines = ["hostname fra-r1", "username ops"] := by decide +kernel

/-- The small platform with a template that has a number in it. -/
def labMtu : Platform := { lab with
  configTemplates := Table.empty.insert {
    name := "mtu", body := "mtu \x7b\x7b mtu \x7d\x7d", createdAt := 0, updatedAt := 0 } }

/-- The number as Jinja2 prints it. -/
def labPrinter : PushWorld := { PushWorld.calm with
  jinja := fun _ => .ok fun kvs => match kvs.lookup "mtu" with
    | some (.float literal) => .ok ("mtu " ++ literal)
    | some (.int value) => .ok ("mtu " ++ toString value)
    | _ => .error (.undefinedError "'mtu' is undefined") }

/-- What the preview shows of a float is not what the job pushes when the column gives the float
back as an integer. -/
theorem not_agrees_of_exponent : ∃ response created shown result after,
    (createProvisioningJob (some 1) 0 {
      template := some 1, deviceIds := some [1]
      jobVariables := some (.obj [("mtu", .float "1e+16")]) } "t").run labMtu =
        (.ok response, created) ∧ response.status = 201 ∧
    (preview labPrinter.jinja (some 1) 1 (some (.obj [("mtu", .float "1e+16")]))).run created =
      (.ok ⟨200, .obj [("rendered", .str "mtu 1e+16")]⟩, shown) ∧
    (executeProvisioningJob labPrinter 1).run created = (.ok result, after) ∧
    (after.provisioningJobs.get? 1).map (·.renderedConfig) = some "mtu 10000000000000000" :=
  ⟨_, _, _, _, _, rfl, rfl, rfl, rfl, by decide +kernel⟩

end DevSecOpsPlatform.RenderedPushes
