import DevSecOpsPlatform.JobOutcomes

/-!
# Whether a push is reported as it went

A push opens a connection, sends, saves and disconnects; each of the four may raise. Only a
`NetmikoError` leaves it, and a connection that was opened is closed once. But the last of the
four decides with the others whether the push counts as one that succeeded.
-/

namespace DevSecOpsPlatform.PushReports

open KeyedTables StatementPrograms PlatformModels PlatformStore PythonValues NetmikoSessions
open ProvisioningTasks SessionCalls JobCalls JobOutcomes TracedCalls

variable (session : SshSession) (device : Device) (configLines : List String)

/-- The device took the configuration and saved it. -/
def Saved : Prop :=
  session.connectHandler (buildParams device) = .ok () ∧
    (∃ output, session.sendConfigSet configLines = .ok output) ∧ session.saveConfig = .ok ()

/-- What `push_config` and the rows of a job say about the push is how it went. -/
structure ReportsTruly : Prop where
  raises : ∀ e, ((SessionCalls.pushConfig session device configLines).run []).1 = .error e →
    e.cls = .netmikoError
  closes : (pushCalls session device configLines).countP SshCall.isDisconnect =
    if (session.connectHandler (buildParams device)).isOk then 1 else 0
  returns : ∀ output,
    ((SessionCalls.pushConfig session device configLines).run []).1 = .ok (some output) ↔
      Saved session device configLines ∧ session.sendConfigSet configLines = .ok output
  records : ∀ w jobId db row text, db.provisioningJobs.get? jobId = some row →
    renderJob w.jinja (loadedJob jobId row db) = .ok text →
    ProvisioningTasks.configLines text = configLines →
    ∃ outcome after results, (executeProvisioningJob w jobId).run db = (outcome, after) ∧
      (NulFree w (loadedJob jobId row db) text (jobDeviceRows jobId db) →
        outcome = .ok (summary jobId results)) ∧
      after.provisioningResults = db.provisioningResults.insertAll results ∧
      ∀ n id r, (jobDeviceRows jobId db)[n]? = some (id, device) → w.session n = session →
        results[n]? = some r → r.success = false → ¬ Saved session device configLines

theorem pushConfig_eq_ok_iff (output : String) :
    NetmikoSessions.pushConfig session device configLines = .ok output ↔
      (Saved session device configLines ∧ session.sendConfigSet configLines = .ok output) ∧
        session.disconnect = .ok () := by
  have hblock : (do
      let output ← session.sendConfigSet configLines
      session.saveConfig
      return output) = .ok output ↔
        session.sendConfigSet configLines = .ok output ∧ session.saveConfig = .ok () := by
    cases session.sendConfigSet configLines with
    | error e => exact iff_of_false (fun h => by cases h) (fun h => by cases h.1)
    | ok text =>
      cases session.saveConfig with
      | error e => exact iff_of_false (fun h => by cases h) (fun h => by cases h.2)
      | ok u => exact ⟨fun h => ⟨h, rfl⟩, fun h => h.1⟩
  rw [NetmikoSessions.pushConfig, connect_eq_ok_iff, hblock, Saved]
  constructor
  · rintro ⟨hopen, ⟨hsent, hsaved⟩, hclosed⟩
    exact ⟨⟨⟨hopen, ⟨output, hsent⟩, hsaved⟩, hsent⟩, hclosed⟩
  · rintro ⟨⟨⟨hopen, -, hsaved⟩, hsent⟩, hclosed⟩
    exact ⟨hopen, ⟨hsent, hsaved⟩, hclosed⟩

theorem outcome_eq_ok_iff (output : String) :
    ((SessionCalls.pushConfig session device configLines).run []).1 = .ok (some output) ↔
      NetmikoSessions.pushConfig session device configLines = .ok output := by
  rw [outcome_pushConfig]
  cases NetmikoSessions.pushConfig session device configLines <;> simp [Except.map]

/-- A `NetmikoError` is all that a push raises. -/
theorem outcome_error_cls {e : Exn}
    (h : ((SessionCalls.pushConfig session device configLines).run []).1 = .error e) :
    e.cls = .netmikoError := by
  rw [outcome_pushConfig] at h
  cases hpush : NetmikoSessions.pushConfig session device configLines with
  | ok output =>
    rw [hpush] at h
    cases h
  | error e' =>
    rw [hpush] at h
    obtain rfl := Except.error.inj h
    exact connect_error_cls hpush

/-- The connection of a push is closed once if it was opened, and never otherwise. -/
theorem countP_pushCalls : (pushCalls session device configLines).countP SshCall.isDisconnect =
    if (session.connectHandler (buildParams device)).isOk then 1 else 0 := by
  refine disconnects_withContext_connect session device _ fun calls => ?_
  rw [run_pushBlock, List.countP_append]
  cases (session.sendConfigSet configLines).isOk <;> simp [SshCall.isDisconnect]

/-- A job inserts the results of its pushes in order, all of them or those before the first text
that the database does not take. -/
theorem run_executeProvisioningJob_results (w : PushWorld) {jobId : ProvisioningJobId}
    {db : Platform} {row : ProvisioningJob} {text : String}
    (hrow : db.provisioningJobs.get? jobId = some row)
    (hrender : renderJob w.jinja (loadedJob jobId row db) = .ok text) :
    ∃ outcome after results, (executeProvisioningJob w jobId).run db = (outcome, after) ∧
      (NulFree w (loadedJob jobId row db) text (jobDeviceRows jobId db) →
        outcome = .ok (summary jobId results)) ∧
      after.provisioningResults = db.provisioningResults.insertAll results ∧
      results <+: pushResults w (loadedJob jobId row db) (ProvisioningTasks.configLines text) 0
        (jobDeviceRows jobId db) := by
  by_cases hnul : NulFree w (loadedJob jobId row db) text (jobDeviceRows jobId db)
  · exact ⟨_, _, _, run_executeProvisioningJob_summary w hrow hrender hnul, fun _ => rfl, rfl,
      List.prefix_rfl⟩
  rw [run_executeProvisioningJob]
  cases htext : storedText w.jinja (loadedJob jobId row db) with
  | error e =>
    rw [run_traceJob_error w [] hrow htext]
    exact ⟨_, _, [], rfl, fun h => absurd h hnul, rfl, List.nil_prefix⟩
  | ok text' =>
    obtain ⟨hrender', hstorable⟩ := storedText_eq_ok_iff.mp htext
    obtain rfl := Except.ok.inj (hrender.symm.trans hrender')
    obtain ⟨e, before, d, after, rs, hdevices, -, -, hrs, htrace⟩ := run_traceJob_refused w [] hrow
      htext fun hall => hnul (nulFree_iff.mpr ⟨hstorable, hall⟩)
    rw [htrace]
    refine ⟨_, _, _, rfl, fun h => absurd h hnul, rfl, ?_⟩
    rw [hdevices, pushResults_append, Nat.zero_add, List.prefix_append_right_inj]
    exact hrs.trans ⟨_, rfl⟩

/-- A push is reported as it went exactly when it did not fail in its last call alone: the
exception of `disconnect` takes the place of the output of a push that was sent and saved. -/
theorem reportsTruly_iff : ReportsTruly session device configLines ↔
    session.disconnect = .ok () ∨ ¬ Saved session device configLines := by
  constructor
  · intro h
    by_cases hsaved : Saved session device configLines
    · obtain ⟨output, hsent⟩ := hsaved.2.1
      have hreturned := (h.returns output).mpr ⟨hsaved, hsent⟩
      have hpush := (outcome_eq_ok_iff session device configLines output).mp hreturned
      exact .inl ((pushConfig_eq_ok_iff session device configLines output).mp hpush).2
    · exact .inr hsaved
  · intro hclosed
    have hpush (output : String) : NetmikoSessions.pushConfig session device configLines =
        .ok output ↔ Saved session device configLines ∧
          session.sendConfigSet configLines = .ok output := by
      rw [pushConfig_eq_ok_iff]
      constructor
      · exact fun h => h.1
      · exact fun h => ⟨h, hclosed.resolve_right fun hnot => hnot h.1⟩
    refine {
      raises := fun e => outcome_error_cls session device configLines
      closes := countP_pushCalls session device configLines
      returns := fun output => (outcome_eq_ok_iff session device configLines output).trans
        (hpush output)
      records := ?_ }
    intro w jobId db row text hrow hrender hlines
    obtain ⟨outcome, after, results, hrun, houtcome, hresults, hprefix⟩ :=
      run_executeProvisioningJob_results w hrow hrender
    have heach := recordsEach w (loadedJob jobId row db) (ProvisioningTasks.configLines text)
      (jobDeviceRows jobId db) (nodup_jobDeviceRows jobId db)
    refine ⟨outcome, after, results, hrun, houtcome, hresults,
      fun n id r hdevice hsession hr hfailed hsaved => ?_⟩
    obtain ⟨r', a, hr', -, hrecords⟩ := heach.recorded n (id, device) hdevice
    obtain ⟨hn, rfl⟩ := List.getElem?_eq_some_iff.mp hr
    obtain rfl : r' = results[n] :=
      Option.some.inj (hr'.symm.trans (List.prefix_iff_getElem?.mp hprefix n hn))
    obtain ⟨output, hsent⟩ := hsaved.2.1
    have hreturned := (hpush output).mpr ⟨hsaved, hsent⟩
    have hsuccess := hrecords.success.1
    rw [hsession, hlines, hreturned, hfailed] at hsuccess
    cases hsuccess

/-- A session whose `disconnect` fails after everything else has succeeded. -/
def closingFailed : SshSession :=
  { SshSession.answering "ok" with disconnect := .error (.other "Socket is closed") }

theorem not_reportsTruly_closingFailed :
    ¬ ReportsTruly closingFailed labDevice ["hostname r1"] := by
  intro h
  have hreturned := (h.returns "ok").mpr ⟨⟨rfl, ⟨"ok", rfl⟩, rfl⟩, rfl⟩
  cases hreturned

end DevSecOpsPlatform.PushReports
