/-
# Requests that are refused change nothing

A request changes the service in one step, when it is reacted to, or not at all: an update of the
settings and a new filter of the log are put in place together with the response that reports them.
A request for a check is reacted to without any change, and a check that fails leaves no trace.
-/
import ClusterWatch.Admin.Service
import ClusterWatch.Proofs.Check.Traces
import ClusterWatch.Proofs.Json.Bytes
import ClusterWatch.Proofs.Settings.Form

namespace ClusterWatch

namespace Http.Query

theorem mem_of_readSwitchFrom {name : String} {found : Option Bool}
    {entries : List (Option (List Char) × Option (List Char))}
    (answer : readSwitchFrom name found entries = .ok (some true)) :
    found = some true ∨ (some name.toList, some "true".toList) ∈ entries := by
  induction entries generalizing found with
  | nil => exact Or.inl (Except.ok.inj answer)
  | cons entry more ih =>
      obtain ⟨key, value⟩ := entry
      unfold readSwitchFrom at answer
      split at answer
      · rename_i named
        split at answer
        · cases answer
        · split at answer
          · rename_i isTrue
            right
            rw [named, isTrue]
            exact List.mem_cons_self
          · split at answer
            · rcases ih answer with hnone | mem
              · cases hnone
              · exact Or.inr (List.mem_cons_of_mem _ mem)
            · cases answer
      · rcases ih answer with same | mem
        · exact Or.inl same
        · exact Or.inr (List.mem_cons_of_mem _ mem)

theorem mem_of_readSwitch {name : String} {query : List Char}
    (on : readSwitch name query = .ok true) :
    (some name.toList, some "true".toList) ∈ entries query := by
  unfold readSwitch at on
  cases answer : readSwitchFrom name none (entries query) with
  | error fault =>
      rw [answer] at on
      cases on
  | ok found =>
      rw [answer] at on
      cases found with
      | none => cases on
      | some b =>
          cases on
          rcases mem_of_readSwitchFrom answer with hnone | mem
          · cases hnone
          · exact mem

end Http.Query

namespace Admin

/-- The requests that may change something. -/
inductive Request.MayChange (request : Request) : Prop
  | settings (method : request.method = "POST")
      (path : request.target.path = "/api/alerts/config".toList)
  | filter (method : request.method = "PUT") (path : request.target.path = "/api/logging".toList)
  | notification (method : request.method = "POST")
      (path : request.target.path = "/api/alerts/analyze".toList)
      (notify : (some "notify".toList, some "true".toList) ∈
        Http.Query.entries request.target.query)

namespace Service

variable {s : Service} {request : Request}

theorem readBody_eq_ok {α : Type} {limit : Nat} {read : Json.Reader α} {v : α}
    (h : request.readBody limit read = .ok v) :
    request.declaresJson = true ∧ Json.readBytes read request.body = .ok v := by
  unfold Request.readBody at h
  split at h
  · cases h
  · rename_i declared
    split at h
    · cases h
    · refine ⟨by simpa using declared, ?_⟩
      cases answer : Json.readBytes read request.body with
      | error => rw [answer] at h; cases h
      | ok => rw [answer] at h; cases h; rfl

theorem putFilter_cases (s : Service) (request : Request) :
    ((∃ r, (s.putFilter request).1 = .respond r) ∨ (s.putFilter request).1 = .collapse) ∧
      ((s.putFilter request).2 = s ∨
        ∃ r, (s.putFilter request).1 = .respond r ∧ r.isSuccess = true) := by
  unfold putFilter
  split
  · exact ⟨Or.inl ⟨_, rfl⟩, Or.inl rfl⟩
  dsimp only
  split
  · exact ⟨Or.inl ⟨_, rfl⟩, Or.inl rfl⟩
  split
  · exact ⟨Or.inl ⟨_, rfl⟩, Or.inl rfl⟩
  split
  · exact ⟨Or.inr rfl, Or.inl rfl⟩
  · exact ⟨Or.inl ⟨_, rfl⟩, Or.inl rfl⟩
  · exact ⟨Or.inl ⟨_, rfl⟩, Or.inr ⟨_, rfl, rfl⟩⟩

/-- How a request may be reacted to: it is told something, or it is one of the three that may do
more. -/
inductive Reacts (s : Service) (request : Request) : Reaction × Service → Prop
  | tells (r : Response) : Reacts s request (.respond r, s)
  | updates (method : request.method = "POST")
      (path : request.target.path = "/api/alerts/config".toList) :
      Reacts s request (.respond (s.updateSettings request).1, (s.updateSettings request).2)
  | checks (method : request.method = "POST")
      (path : request.target.path = "/api/alerts/analyze".toList) :
      Reacts s request (analyze request, s)
  | filters (method : request.method = "PUT") (path : request.target.path = "/api/logging".toList) :
      Reacts s request (s.putFilter request)

theorem reacts_serve {resource : Resource} {verb : Verb}
    (path : request.target.path = resource.path.toList) (mem : verb ∈ resource.verbs)
    (method : request.method ∈ Resource.methodsOf verb) :
    Reacts s request (s.serve resource verb request) := by
  cases verb with
  | get =>
      cases resource with
      | analysis => simp [Resource.verbs] at mem
      | settings | status | logging | health | readiness | liveness => exact .tells _
  | post =>
      replace method : request.method = "POST" := by
        simpa [Resource.methodsOf, Verb.name] using method
      cases resource with
      | settings => exact .updates method path
      | analysis => exact .checks method path
      | logging | status | health | readiness | liveness => simp [Resource.verbs] at mem
  | put =>
      replace method : request.method = "PUT" := by
        simpa [Resource.methodsOf, Verb.name] using method
      cases resource with
      | logging => exact .filters method path
      | settings | analysis | status | health | readiness | liveness =>
          simp [Resource.verbs] at mem

theorem route_cases (request : Request) :
    (∃ r, ∀ s : Service, s.route request = (.respond r, s)) ∨
      ∃ resource verb, request.target.path = resource.path.toList ∧ verb ∈ resource.verbs ∧
        request.method ∈ Resource.methodsOf verb ∧
        ∀ s : Service, s.route request = s.serve resource verb request := by
  cases found : Resource.ofPath? request.target.path with
  | none => exact Or.inl ⟨.empty 404, fun s => by simp only [route, found]⟩
  | some resource =>
      cases allowed : resource.verb? request.method with
      | none =>
          exact Or.inl ⟨{ Response.empty 405 with headers := [("allow", resource.allow)] },
            fun s => by simp only [route, found, allowed]⟩
      | some verb =>
          have same := List.find?_some found
          have mem := List.mem_of_find?_eq_some allowed
          have method : request.method ∈ Resource.methodsOf verb := by
            have hallowed := List.find?_some allowed
            simpa using hallowed
          exact Or.inr ⟨resource, verb, (beq_iff_eq.mp same).symm, mem, method,
            fun s => by simp only [route, found, allowed]⟩

theorem reacts (s : Service) (request : Request) : Reacts s request (s.react request) := by
  unfold react
  split
  · exact .tells _
  rcases route_cases request with ⟨r, refused⟩ | ⟨resource, verb, path, mem, method, served⟩
  · rw [refused]
    exact .tells _
  · rw [served]
    exact reacts_serve path mem method

theorem react_of_verb {resource : Resource} {verb : Verb}
    (found : Resource.ofPath? request.target.path = some resource)
    (allowed : resource.verb? request.method = some verb) :
    s.react request = s.serve resource verb request := by
  have plain : s.isPreflight request = false := by
    cases options : request.method == "OPTIONS" with
    | false => simp [isPreflight, options]
    | true =>
        rw [eq_of_beq options] at allowed
        cases resource <;> cases allowed
  simp only [react, plain, Bool.false_eq_true, if_false, route, found, allowed]

theorem react_of_config (method : request.method = "POST")
    (path : request.target.path = "/api/alerts/config".toList) :
    s.react request = (.respond (s.updateSettings request).1, (s.updateSettings request).2) := by
  have found : Resource.ofPath? request.target.path = some .settings := by
    rw [path]
    decide
  have allowed : Resource.settings.verb? request.method = some .post := by
    rw [method]
    decide
  exact react_of_verb found allowed

theorem Reacts.of_check {p : Reaction × Service} (h : Reacts s request p) {purpose : Check.Purpose}
    (check : p.1 = .check purpose) :
    p.2 = s ∧ (purpose = .notification → request.MayChange) := by
  cases h with
  | tells | updates => cases check
  | filters =>
      rcases (putFilter_cases s request).1 with ⟨r, responds⟩ | collapses
      · cases responds.symm.trans check
      · cases collapses.symm.trans check
  | checks method path =>
      refine ⟨rfl, ?_⟩
      rintro rfl
      have switched : Http.Query.readSwitch "notify" request.target.query = .ok true := by
        change analyze request = _ at check
        unfold analyze analysisPurpose at check
        cases answer : Http.Query.readSwitch "notify" request.target.query with
        | error fault =>
            rw [answer] at check
            cases check
        | ok notify =>
            rw [answer] at check
            cases notify with
            | false => cases check
            | true => rfl
      exact .notification method path (Http.Query.mem_of_readSwitch switched)

def idle : Service where
  system := .new (.new .default) .empty true
  filter := none
  config := {}

def outOfOrder : Check.Collaborators Unit where
  collect far := (.ok .empty, far)
  recommend _ _ far := (.error (.recommendation "out of order"), far)
  send _ _ _ far := (.ok (), far)

/-- A request to update the settings with a token that is fit and an interval that is not. -/
def halfFit : Request where
  method := "POST"
  target := { path := "/api/alerts/config".toList }
  headers := [("content-type", "application/json")]
  body := Settings.Update.halfFitText.toUTF8.data.toList

/-- A request for a check whose recipients are to be told. -/
def notifying : Request where
  method := "POST"
  target := { path := "/api/alerts/analyze".toList, query := "notify=true".toList }

/-- A request to update the settings whose body is not UTF-8, in a field that no update has. -/
def strayByte : Request where
  method := "POST"
  target := { path := "/api/alerts/config".toList }
  headers := [("content-type", "application/json")]
  body := "\x7b\"token\":\"a\",\"note\":\"".toUTF8.data.toList ++ 0xFF ::
    "\"\x7d".toUTF8.data.toList

example : (idle.updateSettings strayByte).1.status = 200 ∧
    (idle.updateSettings strayByte).2.system.store.settings.token = "a" :=
  ⟨rfl, rfl⟩

end Service
end Admin
end ClusterWatch
