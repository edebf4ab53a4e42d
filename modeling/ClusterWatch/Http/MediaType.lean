/-
Media types of message bodies.

A media type is a type, a slash and a subtype, and behind them any number of parameters, each
after a semicolon.  What stands behind the last plus sign of a subtype is its suffix.
-/
import ClusterWatch.Http.Header

namespace ClusterWatch.Http

/-- A media type without its parameters; the suffix does not belong to the subtype. -/
structure MediaType where
  kind : List Char
  subtype : List Char
  suffix : Option (List Char)
deriving DecidableEq, Repr

namespace MediaType

def isQuotedChar (c : Char) : Bool := 0x20 ≤ c.toNat && c.toNat < 0x7F

/-- Where a reader of parameters stands. -/
inductive ParameterState where
  | start
  | name
  | valueStart
  | value
  | quotedStart
  | quoted
  | quotedEnd
deriving DecidableEq, Repr

namespace ParameterState

/-- The state after a character.  A quoted value has at least one character, even a quote. -/
def step : ParameterState → Char → Option ParameterState
  | start, c => if c == ' ' then some start else if isTokenChar c then some name else none
  | name, c => if c == '=' then some valueStart else if isTokenChar c then some name else none
  | valueStart, c =>
      if c == '"' then some quotedStart else if isTokenChar c then some value else none
  | value, c => if c == ';' then some start else if isTokenChar c then some value else none
  | quotedStart, c => if isQuotedChar c then some quoted else none
  | quoted, c => if c == '"' then some quotedEnd else if isQuotedChar c then some quoted else none
  | quotedEnd, c => if c == ' ' then some quotedEnd else if c == ';' then some start else none

/-- Whether the parameters may end in a state. -/
def isFinal : ParameterState → Bool
  | start | valueStart | value | quotedEnd => true
  | name | quotedStart | quoted => false

end ParameterState

/-- Whether a text is a list of parameters, given what stands behind the first semicolon. -/
def areParameters (cs : List Char) : Bool :=
  (cs.foldlM ParameterState.step .start).any ParameterState.isFinal

/-- Whether what follows a subtype is nothing or a list of parameters. -/
def endsWell : List Char → Bool
  | [] => true
  | ';' :: r => areParameters r
  | _ => false

def lower (cs : List Char) : List Char := cs.map Char.toLower

/-- The subtype and the suffix in a token; a plus sign at its front is a part of the subtype. -/
def cutSuffix (cs : List Char) : List Char × Option (List Char) :=
  match cs.reverse.dropWhile (· != '+') with
  | _ :: c :: front => ((c :: front).reverse, some (cs.reverse.takeWhile (· != '+')).reverse)
  | _ => (cs, none)

/-- Reads a media type; the case of its letters does not count. -/
def read? (cs : List Char) : Option MediaType :=
  let kind := cs.takeWhile isTokenChar
  match cs.dropWhile isTokenChar with
  | '/' :: r =>
      let token := r.takeWhile isTokenChar
      let rest := r.dropWhile isTokenChar
      if kind.isEmpty || (token.isEmpty && !rest.isEmpty) || !endsWell rest then none
      else
        let (subtype, suffix) := cutSuffix (lower token)
        some ⟨lower kind, subtype, suffix⟩
  | _ => none

def isJson (m : MediaType) : Bool :=
  let json := "json".toList
  m.kind == "application".toList && (m.subtype == json || m.suffix == some json)

end MediaType
end ClusterWatch.Http
