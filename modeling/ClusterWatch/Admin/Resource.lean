/-
The resources of the admin interface.

A resource has one exact path and allows certain methods.  A resource that can be got can also be
asked for its headers alone.
-/
import ClusterWatch.Text.Pieces

namespace ClusterWatch.Admin

inductive Resource where
  | settings
  | analysis
  | status
  | logging
  | health
  | readiness
  | liveness
deriving DecidableEq, Repr

inductive Verb where
  | get
  | post
  | put
deriving DecidableEq, Repr

def Verb.name : Verb → String
  | get => "GET"
  | post => "POST"
  | put => "PUT"

namespace Resource

def all : List Resource := [settings, analysis, status, logging, health, readiness, liveness]

def path : Resource → String
  | settings => "/api/alerts/config"
  | analysis => "/api/alerts/analyze"
  | status => "/api/alerts/status"
  | logging => "/api/logging"
  | health => "/health"
  | readiness => "/health/ready"
  | liveness => "/health/live"

def ofPath? (path : List Char) : Option Resource :=
  all.find? fun r => r.path.toList == path

def verbs : Resource → List Verb
  | settings => [.get, .post]
  | analysis => [.post]
  | logging => [.get, .put]
  | status | health | readiness | liveness => [.get]

/-- The methods that a verb answers to. -/
def methodsOf : Verb → List String
  | .get => ["GET", "HEAD"]
  | verb => [verb.name]

/-- The methods that a resource allows, as a header lists them. -/
def allow (r : Resource) : String :=
  String.ofList (Text.joinWith [','] ((r.verbs.flatMap methodsOf).map String.toList))

/-- What a method does with a resource. -/
def verb? (r : Resource) (method : String) : Option Verb :=
  r.verbs.find? fun v => (methodsOf v).contains method

end Resource
end ClusterWatch.Admin
