/-
# What clients are told about errors

The handlers of the settings, the checks and the log report an error in one form: an object with a
code and a message.  Two errors are found before a handler is reached: a query that does not say
whether to tell the recipients, and the body of a request for another filter.  The handler of
updates is handed the fault of its body and reports it like any other; for these two the fault goes
out as plain text (`Request.Unread`).

Which of the two a client gets is settled by the request.  The result of a check may be anything, so
nothing is assumed about the collaborators or about the time that they take (`Answers`).
-/
import ClusterWatch.Proofs.Admin.Requests

namespace ClusterWatch.Admin

/-- A content that reports a problem: an object with a code and a message, both text. -/
def Content.IsReport (content : Content) : Prop :=
  ∃ j code message, content = .json j ∧ j.field? "code" = some (.string code) ∧
    j.field? "message" = some (.string message)

def Response.IsError (r : Response) : Prop := 400 ≤ r.status

instance (r : Response) : Decidable r.IsError := inferInstanceAs (Decidable (400 ≤ r.status))

/-- The resources below `/api/alerts` and `/api/logging`. -/
def Resource.isManaged : Resource → Bool
  | settings | analysis | status | logging => true
  | health | readiness | liveness => false

/-- A request whose fault is found before its handler is reached. -/
inductive Request.Unread (limit : Nat) (request : Request) : Resource → Verb → Prop
  | filter {fault : BodyFault}
      (body : request.readBody limit Service.readFilterText = .error fault) :
      Unread limit request .logging .put
  | query {fault : Http.Query.Fault}
      (query : Http.Query.readSwitch "notify" request.target.query = .error fault) :
      Unread limit request .analysis .post

namespace Service

/-- The responses that a request may get: the one of its reaction, or one that tells the result of
the check that it asks for, whatever that is. -/
inductive Answers (s : Service) (request : Request) : Response → Prop
  | atOnce {r : Response} (reaction : (s.react request).1 = .respond r) :
      Answers s request ((s.react request).2.sentTo request r)
  | checked {purpose : Check.Purpose} (reaction : (s.react request).1 = .check purpose)
      (result : Except Failure Check.Result) :
      Answers s request ((s.react request).2.sentTo request (responseTo result))

/-- How a request comes out: well, with a report, or with the text of a fault that was found before
the handler was reached. -/
inductive Outcome (limit : Nat) (request : Request) (resource : Resource) (verb : Verb) :
    Response → Prop
  | success {r : Response} (status : r.status = 200) : Outcome limit request resource verb r
  | report (p : Problem) (read : ¬request.Unread limit resource verb) :
      Outcome limit request resource verb (.ofProblem p)
  | plain {status : Nat} (text : String) (unread : request.Unread limit resource verb)
      (known : status ∈ [400, 413, 415, 422]) :
      Outcome limit request resource verb (.text status text)

variable {s : Service} {request : Request} {resource : Resource} {verb : Verb} {limit : Nat}

theorem answers_of_handle {σ : Type} {c : Check.Collaborators σ} {clock : Instant} {far : σ}
    {r : Response} (handled : (s.handle c clock request far).1 = some r) :
    s.Answers request r := by
  unfold handle at handled
  split at handled
  · rename_i r₀ s₁ reaction
    cases handled
    have answer := Answers.atOnce (congrArg Prod.fst reaction)
    rwa [reaction] at answer
  · rename_i purpose s₁ reaction
    cases handled
    have answer := Answers.checked (congrArg Prod.fst reaction)
      (Check.perform c purpose (s₁.context clock) far).1
    rwa [reaction] at answer
  · cases handled

/-! ## What a response holds -/

theorem isReport_ofProblem (p : Problem) : (Response.ofProblem p).content.IsReport :=
  ⟨p.toJson, p.code, p.message, rfl, rfl, rfl⟩

theorem not_isReport_text (text : String) : ¬(Content.text text).IsReport := by
  rintro ⟨_, _, _, same, -⟩
  cases same

theorem not_isReport_empty : ¬Content.empty.IsReport := by
  rintro ⟨_, _, _, same, -⟩
  cases same

theorem status_mem (fault : BodyFault) : fault.status ∈ [400, 413, 415, 422] := by
  rcases fault with _ | _ | _ | _ <;> decide

/-! ## How requests come out -/

theorem outcome_updateSettings :
    Outcome limit request .settings .post (s.updateSettings request).1 := by
  have read : ¬request.Unread limit .settings .post := nofun
  unfold updateSettings
  split
  · exact .report _ read
  · split
    · exact .success rfl
    · exact .report _ read

theorem outcome_putFilter {r : Response} (told : (s.putFilter request).1 = .respond r) :
    Outcome s.config.bodyLimit request .logging .put r := by
  unfold putFilter at told
  split at told
  · rename_i fault body
    cases told
    exact .plain _ (.filter body) (status_mem fault)
  · rename_i text body
    have read : ¬request.Unread s.config.bodyLimit .logging .put := by
      intro unread
      cases unread with
      | filter fault => cases body.symm.trans fault
    dsimp only at told
    split at told
    · cases told
      exact .report _ read
    split at told
    · cases told
      exact .report _ read
    split at told
    · cases told
    · cases told
      exact .report _ read
    · cases told
      exact .success rfl

theorem outcome_getFilter : Outcome limit request .logging .get s.getFilter := by
  unfold getFilter
  split
  · exact .success rfl
  · exact .report _ nofun

theorem outcome_analyze {r : Response} (told : analyze request = .respond r) :
    Outcome limit request .analysis .post r := by
  unfold analyze analysisPurpose at told
  cases answer : Http.Query.readSwitch "notify" request.target.query with
  | error fault =>
      rw [answer] at told
      cases told
      exact .plain _ (.query answer) (by decide)
  | ok notify =>
      rw [answer] at told
      cases told

theorem outcome_responseTo {purpose : Check.Purpose} (check : analyze request = .check purpose)
    (result : Except Failure Check.Result) :
    Outcome limit request .analysis .post (responseTo result) := by
  cases result with
  | ok result => exact .success rfl
  | error failure =>
      refine .report _ ?_
      intro unread
      cases unread with
      | query fault =>
          unfold analyze analysisPurpose at check
          rw [fault] at check
          cases check

theorem outcome_serve (s : Service) (request : Request) (managed : resource.isManaged = true)
    (mem : verb ∈ resource.verbs) :
    (∀ r, (s.serve resource verb request).1 = .respond r →
        Outcome s.config.bodyLimit request resource verb r) ∧
      ∀ purpose, (s.serve resource verb request).1 = .check purpose →
        ∀ result, Outcome s.config.bodyLimit request resource verb (responseTo result) := by
  cases resource with
  | health | readiness | liveness => cases managed
  | settings =>
      simp only [Resource.verbs, List.mem_cons, List.not_mem_nil, or_false] at mem
      rcases mem with rfl | rfl
      · exact ⟨by rintro r ⟨⟩; exact .success rfl, by rintro purpose ⟨⟩⟩
      · exact ⟨by rintro r ⟨⟩; exact outcome_updateSettings, by rintro purpose ⟨⟩⟩
  | status =>
      obtain rfl : verb = .get := by simpa [Resource.verbs] using mem
      exact ⟨by rintro r ⟨⟩; exact .success rfl, by rintro purpose ⟨⟩⟩
  | analysis =>
      obtain rfl : verb = .post := by simpa [Resource.verbs] using mem
      exact ⟨fun r told => outcome_analyze told,
        fun purpose check result => outcome_responseTo check result⟩
  | logging =>
      simp only [Resource.verbs, List.mem_cons, List.not_mem_nil, or_false] at mem
      rcases mem with rfl | rfl
      · exact ⟨by rintro r ⟨⟩; exact outcome_getFilter, by rintro purpose ⟨⟩⟩
      · refine ⟨fun r told => outcome_putFilter told, ?_⟩
        intro purpose check
        rcases (putFilter_cases s request).1 with ⟨r, responds⟩ | collapses
        · cases responds.symm.trans check
        · cases collapses.symm.trans check

/-- Nothing but the head of the response depends on the server in front. -/
theorem Answers.outcome (found : Resource.ofPath? request.target.path = some resource)
    (managed : resource.isManaged = true) (allowed : resource.verb? request.method = some verb)
    {r : Response} (answer : s.Answers request r) :
    ∃ r₀, Outcome s.config.bodyLimit request resource verb r₀ ∧ r.status = r₀.status ∧
      r.body = if request.method == "HEAD" then .empty else r₀.content := by
  have outcome := outcome_serve s request managed (List.mem_of_find?_eq_some allowed)
  rw [← react_of_verb found allowed] at outcome
  cases answer with
  | atOnce reaction => exact ⟨_, outcome.1 _ reaction, rfl, rfl⟩
  | checked reaction result => exact ⟨_, outcome.2 _ reaction result, rfl, rfl⟩

/-! ## The main statement -/

/-- A request that matches a resource below `/api/alerts` or `/api/logging` is answered with an
error.  The body of the response is an object with a code and a message, unless the request asks for
the headers alone or its fault was found before its handler was reached.  In that last case the body
is plain text.  -/
theorem error_is_reported_iff (found : Resource.ofPath? request.target.path = some resource)
    (managed : resource.isManaged = true) (allowed : resource.verb? request.method = some verb)
    {r : Response} (answer : s.Answers request r) (error : r.IsError) :
    (r.body.IsReport ↔
        request.method ≠ "HEAD" ∧ ¬request.Unread s.config.bodyLimit resource verb) ∧
      (request.Unread s.config.bodyLimit resource verb →
        r.status ∈ [400, 413, 415, 422] ∧ ∃ text, r.body = .text text) := by
  obtain ⟨r₀, outcome, status, body⟩ := answer.outcome found managed allowed
  have whole : request.Unread s.config.bodyLimit resource verb → request.method ≠ "HEAD" := by
    rintro unread head
    rw [head] at allowed
    cases unread <;> cases allowed
  rw [body]
  cases outcome with
  | success fine =>
      rw [Response.IsError, status, fine] at error
      exact absurd error (by decide)
  | report p read =>
      refine ⟨?_, fun unread => absurd unread read⟩
      by_cases head : request.method = "HEAD"
      · simp [head, not_isReport_empty]
      · simp [head, read, isReport_ofProblem]
  | plain text unread known =>
      have full := whole unread
      simp only [beq_iff_eq, full, if_false, Response.text, ne_eq, not_false_eq_true, true_and,
        unread, not_true_eq_false, iff_false]
      exact ⟨not_isReport_text text, fun _ => ⟨status ▸ known, text, rfl⟩⟩

/-- A request for another filter whose body breaks off. -/
def tornFilter : Request where
  method := "PUT"
  target := { path := "/api/logging".toList }
  headers := [("content-type", "application/json")]
  body := [0x7b]

/-- The body of the error response is not an object with a code and a message. -/
theorem torn_filter_is_not_reported :
    Resource.ofPath? tornFilter.target.path = some .logging ∧
      Resource.logging.verb? tornFilter.method = some .put ∧
      ∃ r, (idle.handle outOfOrder 0 tornFilter ()).1 = some r ∧ r.IsError ∧
        ¬r.body.IsReport := by
  refine ⟨by decide, by decide, _, rfl, by decide, ?_⟩
  exact not_isReport_text _

/-- Of the model being out of order a client is told in an object. -/
theorem failed_check_is_reported :
    ∃ r, (idle.handle outOfOrder 0 notifying ()).1 = some r ∧ r.IsError ∧ r.body.IsReport := by
  have found : Resource.ofPath? notifying.target.path = some .analysis := by decide
  have allowed : Resource.analysis.verb? notifying.method = some .post := by decide
  obtain ⟨r, handled, error⟩ :
      ∃ r, (idle.handle outOfOrder 0 notifying ()).1 = some r ∧ r.IsError := ⟨_, rfl, by decide⟩
  have read : ¬notifying.Unread idle.config.bodyLimit .analysis .post := by
    intro unread
    cases unread with
    | query fault => cases fault
  have reported := error_is_reported_iff found rfl allowed (answers_of_handle handled) error
  exact ⟨r, handled, error, reported.1.mpr ⟨by decide, read⟩⟩

end Service
end ClusterWatch.Admin
