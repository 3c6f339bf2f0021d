import ClusterConsole.Program
import ClusterConsole.Proofs.Execution

/-!
# How a submission ends

A submission can go wrong in its check, on its way, by the server's refusal, or in what the server
wrote, and the first of these decides what is shown.  `Ends` lists the nine ways in which a
submission ends, each with the condition under which it does and with the outcome in full.  The
conditions leave nothing open (`exists_ends`), and an outcome is that of its condition
(`Ends.outcome_eq`), so everything about outcomes is proved by cases on `Ends`.

`outcomes_classified` is the main result: it says when a submission ends well, what follows for the
form and for the exit code, and that a refusal to read does not show what the server wrote.
-/

set_option autoImplicit false

namespace ClusterConsole

open Http (Reply Response)
open Json (Value)

/-! ## The ways to end -/

/-- What is said when an operation changed a cluster, and when it was refused; nothing for an
operation that reads. -/
def Operation.labels? : Operation → Option (String × String)
  | .create => some ("cluster created", "create failed")
  | .delete => some ("cluster deleted", "delete failed")
  | .scale => some ("cluster scaled", "scale failed")
  | .list => none
  | .details => none

/-- The status code of a response reports success. -/
def Http.Response.Succeeds (resp : Response) : Prop := 200 ≤ resp.status ∧ resp.status < 300

/-- How a submission ends when its request gets the reply `r`. -/
inductive Ends (s : Submission) (r : Reply) : Outcome → Prop
  | rejected {e : Rejection} (hcheck : s.check = .error e) :
      Ends s r ⟨⟨.error, e.message, none⟩, false⟩
  | unanswered {call : Call} {cause : String} (hcheck : s.check = .ok call)
      (hr : r = .error cause) :
      Ends s r ⟨⟨.error, "request failed: " ++ cause, none⟩, false⟩
  | writeRefused {call : Call} {resp : Response} {done failed : String}
      (hcheck : s.check = .ok call) (hr : r = .ok resp) (hresp : ¬resp.Succeeds)
      (hlabels : s.operation.labels? = some (done, failed)) :
      Ends s r ⟨⟨.error, failed ++ ": " ++
        (toString resp.status ++ " " ++ resp.reason ++ "\n" ++ resp.body), none⟩, false⟩
  | readRefused {call : Call} {resp : Response} (hcheck : s.check = .ok call) (hr : r = .ok resp)
      (hresp : ¬resp.Succeeds) (hlabels : s.operation.labels? = none) :
      Ends s r ⟨⟨.error, "query failed: " ++ (toString resp.status ++ " " ++ resp.reason), none⟩,
        false⟩
  | malformed {call : Call} {resp : Response} {fault : Json.Fault} (hcheck : s.check = .ok call)
      (hr : r = .ok resp) (hresp : resp.Succeeds) (hlabels : s.operation.labels? = none)
      (hbody : Json.parse resp.body.toList = .error fault) :
      Ends s r ⟨⟨.error, "request failed: " ++
        ("malformed response: " ++ fault.message resp.body.toList), none⟩, false⟩
  | noList {call : Call} {resp : Response} {v : Value} (hcheck : s.check = .ok call)
      (hr : r = .ok resp) (hresp : resp.Succeeds) (hop : s.operation = .list)
      (hbody : Json.parse resp.body.toList = .ok v) (hnull : v ≠ .null)
      (harray : ∀ items, v ≠ .array items) :
      Ends s r ⟨⟨.error, "request failed: " ++
        ("malformed response: " ++ ("expected a JSON array, got " ++ v.kind)), none⟩, false⟩
  | written {call : Call} {resp : Response} {done failed : String} (hcheck : s.check = .ok call)
      (hr : r = .ok resp) (hresp : resp.Succeeds)
      (hlabels : s.operation.labels? = some (done, failed)) :
      Ends s r ⟨⟨.success, done ++ "\n" ++ resp.body, none⟩, true⟩
  | listed {call : Call} {resp : Response} {items : List Value} (hcheck : s.check = .ok call)
      (hr : r = .ok resp) (hresp : resp.Succeeds) (hop : s.operation = .list)
      (hbody : Json.parse resp.body.toList = .ok (.array items) ∨
        Json.parse resp.body.toList = .ok .null ∧ items = []) :
      Ends s r ⟨⟨.success, "found " ++ toString items.length ++ " clusters",
        some (Value.array items).prettyString⟩, false⟩
  | shown {call : Call} {resp : Response} {v : Value} (hcheck : s.check = .ok call)
      (hr : r = .ok resp) (hresp : resp.Succeeds) (hop : s.operation = .details)
      (hbody : Json.parse resp.body.toList = .ok v) :
      Ends s r ⟨⟨.success, "query succeeded", some v.prettyString⟩, false⟩

/-! ## Reading replies -/

namespace Api

variable {resp : Response}

theorem accept_of_succeeds (h : resp.Succeeds) : accept (.ok resp) = .ok resp.body := by
  have hstatus : Http.isSuccess resp.status = true := by
    simpa [Http.isSuccess, Http.Response.Succeeds] using h
  rw [accept, if_pos hstatus]

theorem accept_of_not_succeeds (h : ¬resp.Succeeds) :
    accept (.ok resp) = .error (.refused resp.status resp.reason resp.body) := by
  have hstatus : ¬Http.isSuccess resp.status = true := by
    simpa [Http.isSuccess, Http.Response.Succeeds] using h
  rw [accept, if_neg hstatus]

/-- What is wrong with a response is wrong with the value in it, too. -/
theorem readValue_of_error {r : Reply} {f : Failure} (h : accept r = .error f) :
    readValue r = .error f := by
  rw [readValue, h]

theorem readValue_of_parse {r : Reply} {body : String} {v : Value} (h : accept r = .ok body)
    (hbody : Json.parse body.toList = .ok v) : readValue r = .ok v := by
  rw [readValue, h]
  simp only [hbody]

theorem readValue_of_fault {r : Reply} {body : String} {fault : Json.Fault}
    (h : accept r = .ok body) (hbody : Json.parse body.toList = .error fault) :
    readValue r = .error (malformed (fault.message body.toList)) := by
  rw [readValue, h]
  simp only [hbody]

theorem readList_of_error {r : Reply} {f : Failure} (h : readValue r = .error f) :
    readList r = .error f := by
  rw [readList, h]

end Api

namespace Submission

variable {s : Submission} {r : Reply}

/-- An operation that changes a cluster concludes with one of its two labels. -/
theorem conclude_of_labels {done failed : String}
    (h : s.operation.labels? = some (done, failed)) :
    ∃ w : Write, s.conclude r = .ofWrite w (Api.accept r) ∧ w.done = done ∧ w.failed = failed := by
  cases s with
  | create f =>
    cases h
    exact ⟨.create, rfl, rfl, rfl⟩
  | delete ns =>
    cases h
    exact ⟨.delete, rfl, rfl, rfl⟩
  | scale ns replicas =>
    cases h
    exact ⟨.scale, rfl, rfl, rfl⟩
  | list => exact nomatch h
  | details ns => exact nomatch h

theorem conclude_list (h : s.operation = .list) : s.conclude r = .ofList (Api.readList r) := by
  cases s with
  | list => rfl
  | _ => exact nomatch h

theorem conclude_details (h : s.operation = .details) :
    s.conclude r = .ofDetails (Api.readDetails r) := by
  cases s with
  | details ns => rfl
  | _ => exact nomatch h

/-- An operation without labels reads, and tells of what it cannot read. -/
theorem conclude_of_readValue_error {f : Failure} (h : s.operation.labels? = none)
    (hf : Api.readValue r = .error f) : s.conclude r = .ofReadFailure f := by
  cases s with
  | list =>
    rw [conclude, Api.readList_of_error hf]
    rfl
  | details ns =>
    rw [conclude, Api.readDetails, hf]
    rfl
  | _ => exact nomatch h

end Submission

/-! ## Every submission ends in one of these ways -/

section

variable {api : Api} {s : Submission} {r : Reply} {send : Transport}

/-- A submission that passes its check is concluded by the reply that comes. -/
theorem Api.outcome_of_check_ok {call : Call} (hsend : ∀ q, (send q).reply = r)
    (h : s.check = .ok call) : (api.execute s send).outcome = s.conclude r := by
  rw [execute_of_check_ok h, hsend]

/-- What a submission ends with is its outcome. -/
theorem Ends.outcome_eq {o : Outcome} (h : Ends s r o) (hsend : ∀ q, (send q).reply = r) :
    (api.execute s send).outcome = o := by
  cases h with
  | rejected hcheck =>
    rw [Api.execute_of_check_error hcheck]
    rfl
  | unanswered hcheck hr =>
    rw [Api.outcome_of_check_ok hsend hcheck, hr]
    cases s <;> rfl
  | writeRefused hcheck hr hresp hlabels =>
    obtain ⟨w, hconclude, rfl, rfl⟩ := Submission.conclude_of_labels (r := r) hlabels
    rw [Api.outcome_of_check_ok hsend hcheck, hconclude, hr, Api.accept_of_not_succeeds hresp]
    rfl
  | readRefused hcheck hr hresp hlabels =>
    have hvalue := Api.readValue_of_error (Api.accept_of_not_succeeds hresp)
    rw [Api.outcome_of_check_ok hsend hcheck, hr,
      Submission.conclude_of_readValue_error hlabels hvalue]
    rfl
  | malformed hcheck hr hresp hlabels hbody =>
    have hvalue := Api.readValue_of_fault (Api.accept_of_succeeds hresp) hbody
    rw [Api.outcome_of_check_ok hsend hcheck, hr,
      Submission.conclude_of_readValue_error hlabels hvalue]
    rfl
  | @noList call resp v hcheck hr hresp hop hbody hnull harray =>
    have hvalue := Api.readValue_of_parse (Api.accept_of_succeeds hresp) hbody
    have hlist : Api.readList (.ok resp) =
        .error (Api.malformed ("expected a JSON array, got " ++ v.kind)) := by
      rw [Api.readList, hvalue]
      cases v with
      | null => exact absurd rfl hnull
      | array items => exact absurd rfl (harray items)
      | _ => rfl
    rw [Api.outcome_of_check_ok hsend hcheck, hr, Submission.conclude_list hop, hlist]
    rfl
  | written hcheck hr hresp hlabels =>
    obtain ⟨w, hconclude, rfl, rfl⟩ := Submission.conclude_of_labels (r := r) hlabels
    rw [Api.outcome_of_check_ok hsend hcheck, hconclude, hr, Api.accept_of_succeeds hresp]
    rfl
  | @listed call resp items hcheck hr hresp hop hbody =>
    have hlist : Api.readList (.ok resp) = .ok items := by
      rcases hbody with hbody | ⟨hbody, rfl⟩
      all_goals rw [Api.readList, Api.readValue_of_parse (Api.accept_of_succeeds hresp) hbody]
    rw [Api.outcome_of_check_ok hsend hcheck, hr, Submission.conclude_list hop, hlist]
    rfl
  | shown hcheck hr hresp hop hbody =>
    have hvalue := Api.readValue_of_parse (Api.accept_of_succeeds hresp) hbody
    rw [Api.outcome_of_check_ok hsend hcheck, hr, Submission.conclude_details hop,
      Api.readDetails, hvalue]
    rfl

/-- There is no other way to end. -/
theorem exists_ends (s : Submission) (r : Reply) : ∃ o, Ends s r o := by
  cases hcheck : s.check with
  | error e => exact ⟨_, .rejected hcheck⟩
  | ok call =>
  cases r with
  | error cause => exact ⟨_, .unanswered hcheck rfl⟩
  | ok resp =>
  by_cases hresp : resp.Succeeds
  · cases hlabels : s.operation.labels? with
    | some labels => exact ⟨_, .written hcheck rfl hresp hlabels⟩
    | none =>
    cases hbody : Json.parse resp.body.toList with
    | error fault => exact ⟨_, .malformed hcheck rfl hresp hlabels hbody⟩
    | ok v =>
    cases hop : s.operation with
    | details => exact ⟨_, .shown hcheck rfl hresp hop hbody⟩
    | list =>
      cases v with
      | null => exact ⟨_, .listed hcheck rfl hresp hop (.inr ⟨hbody, rfl⟩)⟩
      | array items => exact ⟨_, .listed hcheck rfl hresp hop (.inl hbody)⟩
      | _ => exact ⟨_, .noList hcheck rfl hresp hop hbody nofun nofun⟩
    | _ =>
      rw [hop] at hlabels
      exact nomatch hlabels
  · cases hlabels : s.operation.labels? with
    | some labels => exact ⟨_, .writeRefused hcheck rfl hresp hlabels⟩
    | none => exact ⟨_, .readRefused hcheck rfl hresp hlabels⟩

theorem ends_execute (hsend : ∀ q, (send q).reply = r) :
    Ends s r (api.execute s send).outcome := by
  obtain ⟨o, ho⟩ := exists_ends s r
  exact ho.outcome_eq hsend ▸ ho

end

/-! ## Ending well -/

/-- What a submission needs to end well. -/
structure EndsWell (s : Submission) (r : Reply) : Prop where
  check : ∃ call, s.check = .ok call
  /-- A response that reports success, in which what was asked for can be read. -/
  reply : ∃ resp, r = .ok resp ∧ resp.Succeeds ∧
    (s.operation = .list → Json.parse resp.body.toList = .ok .null ∨
      ∃ items, Json.parse resp.body.toList = .ok (.array items)) ∧
    (s.operation = .details → ∃ v, Json.parse resp.body.toList = .ok v)

theorem Operation.mem_of_labels {o : Operation} {labels : String × String}
    (h : o.labels? = some labels) : o ∈ [create, delete, .scale] := by
  cases o <;> first | decide | exact nomatch h

theorem Operation.eq_of_no_labels {o : Operation} (h : o.labels? = none) :
    o = list ∨ o = details := by
  cases o with
  | list => exact .inl rfl
  | details => exact .inr rfl
  | _ => exact nomatch h

namespace EndsWell

variable {s : Submission} {r : Reply} {resp : Response}

theorem succeeds (h : EndsWell s r) (hr : r = .ok resp) : resp.Succeeds := by
  obtain ⟨resp', hresp', hsucceeds, -⟩ := h.reply
  cases hr.symm.trans hresp'
  exact hsucceeds

/-- What is read is JSON. -/
theorem parses (h : EndsWell s r) (hr : r = .ok resp) (hlabels : s.operation.labels? = none) :
    ∃ v, Json.parse resp.body.toList = .ok v := by
  obtain ⟨resp', hresp', -, hlist, hdetails⟩ := h.reply
  cases hr.symm.trans hresp'
  rcases Operation.eq_of_no_labels hlabels with hop | hop
  · rcases hlist hop with hnull | ⟨items, hitems⟩
    · exact ⟨_, hnull⟩
    · exact ⟨_, hitems⟩
  · exact hdetails hop

end EndsWell

namespace Ends

variable {s : Submission} {r : Reply} {o : Outcome}

/-- A submission ends well or with an error, and it is plain which. -/
theorem verdict (h : Ends s r o) :
    (o.update.kind = .success ∧ EndsWell s r) ∨ (o.update.kind = .error ∧ ¬EndsWell s r) := by
  cases h with
  | rejected hcheck =>
    refine .inr ⟨rfl, fun hwell ↦ ?_⟩
    obtain ⟨call, hcall⟩ := hwell.check
    exact nomatch hcheck.symm.trans hcall
  | unanswered hcheck hr =>
    refine .inr ⟨rfl, fun hwell ↦ ?_⟩
    obtain ⟨resp, hresp, -⟩ := hwell.reply
    exact nomatch hr.symm.trans hresp
  | writeRefused hcheck hr hresp hlabels =>
    exact .inr ⟨rfl, fun hwell ↦ hresp (hwell.succeeds hr)⟩
  | readRefused hcheck hr hresp hlabels =>
    exact .inr ⟨rfl, fun hwell ↦ hresp (hwell.succeeds hr)⟩
  | malformed hcheck hr hresp hlabels hbody =>
    refine .inr ⟨rfl, fun hwell ↦ ?_⟩
    obtain ⟨v, hv⟩ := hwell.parses hr hlabels
    exact nomatch hbody.symm.trans hv
  | noList hcheck hr hresp hop hbody hnull harray =>
    refine .inr ⟨rfl, fun hwell ↦ ?_⟩
    obtain ⟨resp', hresp', -, hlist, -⟩ := hwell.reply
    cases hr.symm.trans hresp'
    rcases hlist hop with hv | ⟨items, hv⟩
    · exact hnull (Except.ok.inj (hbody.symm.trans hv))
    · exact harray items (Except.ok.inj (hbody.symm.trans hv))
  | @written call resp done failed hcheck hr hresp hlabels =>
    refine .inl ⟨rfl, ⟨call, hcheck⟩, resp, hr, hresp, fun hop ↦ ?_, fun hop ↦ ?_⟩
    all_goals rw [hop] at hlabels; exact nomatch hlabels
  | @listed call resp items hcheck hr hresp hop hbody =>
    refine .inl ⟨rfl, ⟨call, hcheck⟩, resp, hr, hresp, fun _ ↦ ?_, fun hdetails ↦ ?_⟩
    · rcases hbody with hbody | ⟨hbody, -⟩
      · exact .inr ⟨items, hbody⟩
      · exact .inl hbody
    · exact nomatch hop.symm.trans hdetails
  | @shown call resp v hcheck hr hresp hop hbody =>
    refine .inl ⟨rfl, ⟨call, hcheck⟩, resp, hr, hresp, fun hlist ↦ ?_, fun _ ↦ ⟨v, hbody⟩⟩
    exact nomatch hop.symm.trans hlist

/-- Only a change that was made empties the form. -/
theorem resetForm_iff (h : Ends s r o) :
    o.resetForm = true ↔ o.update.kind = .success ∧ s.operation ∈ [.create, .delete, .scale] := by
  cases h with
  | written hcheck hr hresp hlabels =>
    exact iff_of_true rfl ⟨rfl, Operation.mem_of_labels hlabels⟩
  | listed hcheck hr hresp hop hbody =>
    refine iff_of_false nofun fun hmem ↦ ?_
    rw [hop] at hmem
    exact absurd hmem.2 (by decide)
  | shown hcheck hr hresp hop hbody =>
    refine iff_of_false nofun fun hmem ↦ ?_
    rw [hop] at hmem
    exact absurd hmem.2 (by decide)
  | _ => exact iff_of_false nofun fun hmem ↦ nomatch hmem.1

/-- A refusal to read ends in the same way whatever the server wrote. -/
theorem of_body_eq {resp : Response} (h : Ends s (.ok resp) o) (hresp : ¬resp.Succeeds)
    (hlabels : s.operation.labels? = none) (body : String) :
    Ends s (.ok { resp with body }) o := by
  have hfails : ¬({ resp with body } : Response).Succeeds := hresp
  have habsurd : ∀ {resp' : Response}, Except.ok resp = Except.ok (ε := String) resp' →
      resp'.Succeeds → Ends s (.ok { resp with body }) o := by
    rintro resp' ⟨⟩ hsucceeds
    exact absurd hsucceeds hresp
  cases h with
  | rejected hcheck => exact .rejected hcheck
  | unanswered hcheck hr => exact nomatch hr
  | writeRefused hcheck hr hresp hlabels' => exact nomatch hlabels.symm.trans hlabels'
  | @readRefused call resp' hcheck hr =>
    cases hr
    exact @readRefused s _ call { resp with body } hcheck rfl hfails hlabels
  | malformed hcheck hr hsucceeds => exact habsurd hr hsucceeds
  | noList hcheck hr hsucceeds => exact habsurd hr hsucceeds
  | written hcheck hr hsucceeds => exact habsurd hr hsucceeds
  | listed hcheck hr hsucceeds => exact habsurd hr hsucceeds
  | shown hcheck hr hsucceeds => exact habsurd hr hsucceeds

end Ends

/-! ## On the command line -/

namespace Program

/-- Recording in the log changes only the log. -/
theorem result_record (w : World) (limit : Option Level) (entries : Log) (rest : Run) :
    ∃ log, (record limit entries rest).result w = { rest.result w with log } := by
  cases limit with
  | none => exact ⟨_, rfl⟩
  | some limit => exact ⟨_, rfl⟩

theorem result_finishSubmission (w : World) (limit : Option Level) (e : Execution) :
    let result := (finishSubmission limit e).result w
    result.printed = e.printed ∧ result.code = (if e.ok then 0 else 1) ∧ result.sent = [] := by
  obtain ⟨log, hlog⟩ := result_record w limit e.log (.print e.printed (conclude e.ok))
  intro result
  have hresult : result = { (Run.print e.printed (conclude e.ok)).result w with log } := hlog
  rw [hresult]
  exact ⟨String.append_empty, rfl, rfl⟩

/-- A submission from the command line is run against the server, its outcome is printed, and the
exit code says whether it ended well. -/
theorem result_runSubmission (w : World) (limit : Option Level) (api : Api) (s : Submission) :
    let result := (runSubmission limit api s).result w
    let e := api.execute s w.send
    result.printed = e.printed ∧ result.code = (if e.ok then 0 else 1) ∧ result.sent = e.sent := by
  cases hcheck : s.check with
  | error r =>
    have hrejected := result_finishSubmission w limit (api.execute s (.always (.error "")))
    simp only [Api.execute_of_check_error hcheck] at hrejected ⊢
    rw [runSubmission, hcheck]
    simp only [Api.execute_of_check_error hcheck]
    exact hrejected
  | ok call =>
    have hfinish := result_finishSubmission w limit
      (api.execute s fun _ ↦ w.send (api.request call))
    simp only [Api.execute_of_check_ok hcheck] at hfinish ⊢
    rw [runSubmission, hcheck]
    simp only [Api.execute_of_check_ok hcheck, Run.result]
    exact ⟨hfinish.1, hfinish.2.1, congrArg _ hfinish.2.2⟩

end Program

/-! ## Classification -/

/-- When the outcome of a submission is what, if the transport answers `r`. -/
structure Classified (api : Api) (s : Submission) (send : Transport) (r : Reply) : Prop where
  /-- The outcome is told by what goes wrong first. -/
  ends_iff : ∀ o, Ends s r o ↔ (api.execute s send).outcome = o
  success_iff : (api.execute s send).outcome.update.kind = .success ↔ EndsWell s r
  error_iff : (api.execute s send).outcome.update.kind = .error ↔ ¬EndsWell s r
  ne_info : (api.execute s send).outcome.update.kind ≠ .info
  /-- The form is emptied when a change was made. -/
  resetForm_iff : (api.execute s send).outcome.resetForm = true ↔
    (api.execute s send).outcome.update.kind = .success ∧
      s.operation ∈ [.create, .delete, .scale]
  ok_iff : (api.execute s send).ok = true ↔
    (api.execute s send).outcome.update.kind = .success
  /-- From the command line the outcome is printed, and the exit code says whether it is a
  success. -/
  run : ∀ (limit : Option Level) (w : World), w.send = send →
    let result := (Program.runSubmission limit api s).result w
    result.printed = (api.execute s send).outcome.printed ∧
      (result.code = 0 ↔ (api.execute s send).outcome.update.kind = .success)
  /-- What the server wrote to a refusal to read is not shown. -/
  body_hidden : ∀ (resp : Response) (body : String) (send' : Transport),
    s.operation.labels? = none → r = .ok resp → ¬resp.Succeeds →
    (∀ q, (send' q).reply = .ok { resp with body }) →
    (api.execute s send').outcome = (api.execute s send).outcome ∧
      (api.execute s send').printed = (api.execute s send).printed

/-- **Outcomes are classified.** -/
theorem outcomes_classified (api : Api) (s : Submission) {send : Transport} {r : Reply}
    (hsend : ∀ q, (send q).reply = r) : Classified api s send r := by
  have hends : Ends s r (api.execute s send).outcome := ends_execute hsend
  have hok : (api.execute s send).ok = true ↔
      (api.execute s send).outcome.update.kind = .success := by
    rw [Execution.ok, bne_iff_ne]
    rcases hends.verdict with ⟨hkind, -⟩ | ⟨hkind, -⟩
    · simp [hkind]
    · simp [hkind]
  refine
    { ends_iff := fun o ↦ ⟨fun h ↦ h.outcome_eq hsend, fun h ↦ h ▸ hends⟩
      success_iff := ?_
      error_iff := ?_
      ne_info := fun hinfo ↦ ?_
      resetForm_iff := hends.resetForm_iff
      ok_iff := hok
      run := fun limit w hw ↦ ?_
      body_hidden := fun resp body send' hlabels hr hresp hsend' ↦ ?_ }
  · rcases hends.verdict with ⟨hkind, hwell⟩ | ⟨hkind, hnot⟩
    · exact iff_of_true hkind hwell
    · exact iff_of_false (by simp [hkind]) hnot
  · rcases hends.verdict with ⟨hkind, hwell⟩ | ⟨hkind, hnot⟩
    · exact iff_of_false (by simp [hkind]) (not_not_intro hwell)
    · exact iff_of_true hkind hnot
  · rcases hends.verdict with ⟨hkind, -⟩ | ⟨hkind, -⟩
    all_goals exact nomatch hinfo.symm.trans hkind
  · obtain ⟨hprinted, hcode, -⟩ := Program.result_runSubmission w limit api s
    rw [hw] at hprinted hcode
    refine ⟨hprinted, ?_⟩
    rw [hcode, ← hok]
    cases (api.execute s send).ok <;> simp
  · subst hr
    have heq : (api.execute s send').outcome = (api.execute s send).outcome :=
      (hends.of_body_eq hresp hlabels body).outcome_eq hsend'
    exact ⟨heq, congrArg Outcome.printed heq⟩

/-- A cluster that is not there is not shown, and neither is what the server says about it. -/
theorem outcomes_classified_missing :
    let api : Api := ⟨"http://api.test"⟩
    let send := Transport.always (.ok ⟨404, "Not Found", "[]"⟩)
    (∀ q, (send q).reply = .ok ⟨404, "Not Found", "[]"⟩) ∧
    (api.execute (.details "a") send).outcome =
      ⟨⟨.error, "query failed: 404 Not Found", none⟩, false⟩ ∧
    ¬EndsWell (.details "a") (.ok ⟨404, "Not Found", "[]"⟩) := by
  intro api send
  have hmain := @outcomes_classified api (.details "a") send _ fun _ ↦ rfl
  have houtcome : (api.execute (.details "a") send).outcome =
      ⟨⟨.error, "query failed: 404 Not Found", none⟩, false⟩ := by decide
  exact ⟨fun _ ↦ rfl, houtcome, hmain.error_iff.1 (congrArg (fun o ↦ o.update.kind) houtcome)⟩

end ClusterConsole
