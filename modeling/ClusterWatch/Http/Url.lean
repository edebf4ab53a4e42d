/-
Absolute URLs.

Blanks and controls around a URL and tabs and line breaks inside it are dropped.  The schemes of
the web are *special*: any number of slashes or backslashes leads to the host, which must be
there, and a backslash separates segments like a slash.  Dot segments are resolved and what cannot
stand for itself is percent-encoded, so that a URL has one text.
-/
import ClusterWatch.Http.Host

namespace ClusterWatch.Http

/-- How the rest of a URL is read after its scheme. -/
inductive SchemeKind where
  | special
  | file
  | other
deriving DecidableEq, Repr

/-- An absolute URL.  The path is absent from the URLs whose rest is opaque. -/
structure Url where
  scheme : List Char
  user : List Char := []
  password : Option (List Char) := none
  host : Option Host := none
  port : Option Nat := none
  path : List Char := []
  query : Option (List Char) := none
  fragment : Option (List Char) := none
deriving DecidableEq, Repr

namespace Url

def kindOf (scheme : List Char) : SchemeKind :=
  if scheme = "file".toList then .file
  else if ["http", "https", "ws", "wss", "ftp"].any (·.toList == scheme) then .special
  else .other

def defaultPort? (scheme : List Char) : Option Nat :=
  if scheme = "http".toList ∨ scheme = "ws".toList then some 80
  else if scheme = "https".toList ∨ scheme = "wss".toList then some 443
  else if scheme = "ftp".toList then some 21
  else none

def encodedInFragment (c : Char) : Bool := [' ', '"', '<', '>', '`'].contains c

def encodedInPath (c : Char) : Bool := encodedInFragment c || ['#', '?', '{', '}'].contains c

def encodedInUser (c : Char) : Bool :=
  encodedInPath c || ['/', ':', ';', '=', '@', '[', '\\', ']', '^', '|'].contains c

def encodedInQuery (kind : SchemeKind) (c : Char) : Bool :=
  [' ', '"', '#', '<', '>'].contains c || (kind != .other && c == '\'')

/-! ## Scheme and authority -/

def isSchemeChar (c : Char) : Bool :=
  Text.isAsciiLetter c || Text.isDigit c || c == '+' || c == '-' || c == '.'

/-- The scheme in small letters, and what follows its colon. -/
def takeScheme? (cs : List Char) : Option (List Char × List Char) :=
  match cs.dropWhile isSchemeChar with
  | ':' :: r =>
      if cs.head?.any Text.isAsciiLetter then some ((cs.takeWhile isSchemeChar).map Char.toLower, r)
      else none
  | _ => none

/-- Whether a character separates segments. -/
def isSlash (kind : SchemeKind) (c : Char) : Bool := c == '/' || (kind != .other && c == '\\')

def endsAuthority (kind : SchemeKind) (c : Char) : Bool := isSlash kind c || c == '?' || c == '#'

/-- What stands before the last at sign of an authority, and what stands after it. -/
def cutUser (authority : List Char) : Option (List Char) × List Char :=
  match authority.reverse.dropWhile (· != '@') with
  | [] => (none, authority)
  | _ :: front => (some front.reverse, (authority.reverse.takeWhile (· != '@')).reverse)

/-- The host's text and what follows it: everything up to a colon outside square brackets. -/
def cutHost : Bool → List Char → List Char × List Char
  | _, [] => ([], [])
  | bracketed, c :: r =>
      if c = ':' ∧ !bracketed then ([], c :: r)
      else
        let inside := if c = '[' then true else if c = ']' then false else bracketed
        let (host, rest) := cutHost inside r
        (c :: host, rest)

/-- Reads a port after its colon; an empty one is none. -/
def readPort (cs : List Char) : Except UrlFault (Option Nat) :=
  if cs.isEmpty then .ok none
  else
    match (Decimal.readDigits? cs).filter (· ≤ Decimal.maxU16) with
    | some port => .ok (some port)
    | none => .error .invalidPort

/-- The user name, the password, and whether anything of the two is there. -/
def readUser (cs : List Char) : List Char × Option (List Char) :=
  match Text.cutAt? ':' cs with
  | none => (Text.Percent.encode encodedInUser cs, none)
  | some (user, password) =>
      (Text.Percent.encode encodedInUser user,
        if password.isEmpty then none else some (Text.Percent.encode encodedInUser password))

/-- Reads the authority: what stands between the slashes after the scheme and the path.  `final`
says that nothing follows it.  A backslash ends a port in any case, so what stands behind it is
given back. -/
def readAuthority (kind : SchemeKind) (url : Url) (authority : List Char) (final : Bool) :
    Except UrlFault (Url × List Char) := do
  let (userinfo, address) := cutUser authority
  let (user, password) := readUser (userinfo.getD [])
  if userinfo = some [] ∧ address.isEmpty ∧ !final then throw .emptyHost
  let (hostText, rest) := cutHost false address
  if kind = .special ∧ hostText.isEmpty then throw .emptyHost
  let host ← if kind = .other then Host.readOpaque hostText else Host.read hostText
  if hostText.isEmpty ∧ !rest.isEmpty then throw .emptyHost
  let port ← readPort ((rest.drop 1).takeWhile (· != '\\'))
  if hostText.isEmpty ∧ (user ≠ [] ∨ password.isSome) then throw .emptyHost
  return (
    { url with
      user, password, host := some host
      port := if port = defaultPort? url.scheme then none else port },
    (rest.drop 1).dropWhile (· != '\\'))

/-! ## Path, query and fragment -/

/-- A segment that stands for the current one. -/
def isSingleDot (segment : List Char) : Bool :=
  segment == ['.'] || segment.map Char.toLower == ['%', '2', 'e']

/-- A segment that stands for the one above. -/
def isDoubleDot (segment : List Char) : Bool :=
  ["..", "%2e.", ".%2e", "%2e%2e"].any fun dots => dots.toList == segment.map Char.toLower

def segments (kind : SchemeKind) (cs : List Char) : List (List Char) :=
  Text.piecesBy '/' (cs.map fun c => if isSlash kind c then '/' else c)

/-- Whether a segment starts with the name of a drive: a letter and a colon or bar. -/
def startsWithDrive : List Char → Bool
  | c :: d :: r =>
      Text.isAsciiLetter c && (d == ':' || d == '|') && (r.isEmpty || r.head? == some '\\')
  | _ => false

def isDrive (segment : List Char) : Bool := segment.length == 2 && startsWithDrive segment

/-- The segments above, last one first; a drive is never left. -/
def above : List (List Char) → List (List Char)
  | [] => []
  | segment :: done => if startsWithDrive segment then segment :: done else done

/-- A segment as it is written behind others; the drive that a file's path starts with has a
colon. -/
def written (kind : SchemeKind) (done : List (List Char)) (segment : List Char) : List Char :=
  if kind = .file ∧ done.isEmpty ∧ isDrive segment then segment.take 1 ++ [':']
  else Text.Percent.encode encodedInPath segment

/-- Resolves dot segments; `done` holds the segments before, last one first. -/
def resolve (kind : SchemeKind) (done : List (List Char)) : List (List Char) → List (List Char)
  | [] => done.reverse
  | segment :: more =>
      if isDoubleDot segment then
        resolve kind (if more.isEmpty then [] :: above done else above done) more
      else if isSingleDot segment then
        resolve kind (if more.isEmpty then [] :: done else done) more
      else resolve kind (written kind done segment :: done) more

/-- The URL with a path, given what stands behind its first slash.  The path of a file starts with
one slash only, and a file on a drive is on no host. -/
def withPath (kind : SchemeKind) (url : Url) (cs : List Char) : Url :=
  let resolved := resolve kind [] (segments kind cs)
  let path := resolved.flatMap ('/' :: ·)
  if kind = .file then
    { url with
      path := '/' :: path.dropWhile (· == '/')
      host := if resolved.head?.any isDrive then none else url.host }
  else { url with path }

def endsPath (c : Char) : Bool := c == '?' || c == '#'

def readTail (kind : SchemeKind) (url : Url) (cs : List Char) : Url :=
  let front := cs.takeWhile (· != '#')
  let query := match front with
    | '?' :: q => some (Text.Percent.encode (encodedInQuery kind) q)
    | _ => none
  let fragment := match cs.dropWhile (· != '#') with
    | _ :: f => some (Text.Percent.encode encodedInFragment f)
    | [] => none
  { url with query, fragment }

/-- Reads path, query and fragment of a URL whose path has segments. -/
def readRest (kind : SchemeKind) (url : Url) (cs : List Char) : Url :=
  let url := match cs.takeWhile (!endsPath ·) with
    | [] => if kind = .other then url else withPath kind url []
    | c :: r => withPath kind url (if isSlash kind c then r else c :: r)
  readTail kind url (cs.dropWhile (!endsPath ·))

/-- Reads what follows the two slashes in front of an authority. -/
def readHierarchy (kind : SchemeKind) (url : Url) (cs : List Char) : Except UrlFault Url := do
  let rest := cs.dropWhile (!endsAuthority kind ·)
  let (url, leftover) ←
    readAuthority kind url (cs.takeWhile (!endsAuthority kind ·)) rest.isEmpty
  return readRest kind url (leftover ++ rest)

/-- Reads what follows the two slashes in front of a file's host.  Without a host the path starts
with all that is left. -/
def readFileHost (url : Url) (cs : List Char) : Except UrlFault Url := do
  let hostText := cs.takeWhile (!endsAuthority .file ·)
  let rest := cs.dropWhile (!endsAuthority .file ·)
  if isDrive hostText then return readRest .file url ('/' :: cs)
  if hostText.isEmpty then return readRest .file url ('/' :: rest)
  let host ← Host.read hostText
  if host = .domain "localhost".toList then return readRest .file url ('/' :: rest)
  return readRest .file { url with host := some host } rest

/-- Reads what follows the scheme of a file. -/
def readFile (url : Url) (cs : List Char) : Except UrlFault Url :=
  match cs with
  | a :: b :: r =>
      if isSlash .file a && isSlash .file b then readFileHost url r
      else .ok (readRest .file url cs)
  | cs => .ok (readRest .file url cs)

/-- Reads what follows a scheme that is not special. -/
def readOther (url : Url) (cs : List Char) : Except UrlFault Url :=
  match cs with
  | '/' :: '/' :: r => readHierarchy .other url r
  | '/' :: _ => .ok (readRest .other url cs)
  | cs =>
      let path := Text.Percent.encode (fun _ => false) (cs.takeWhile (!endsPath ·))
      .ok (readTail .other { url with path } (cs.dropWhile (!endsPath ·)))

def isControlOrSpace (c : Char) : Bool := c.toNat ≤ 0x20

/-- A text without controls and blanks around it and without tabs and line breaks. -/
def strip (cs : List Char) : List Char :=
  let front := cs.dropWhile isControlOrSpace
  (front.reverse.dropWhile isControlOrSpace).reverse.filter
    fun c => c != '\t' && c != '\n' && c != '\x0d'

def read (cs : List Char) : Except UrlFault Url :=
  match takeScheme? (strip cs) with
  | none => .error .relative
  | some (scheme, r) =>
    match kindOf scheme with
    | .special => readHierarchy .special { scheme } (r.dropWhile (isSlash .special))
    | .file => readFile { scheme } r
    | .other => readOther { scheme } r

def ofText (s : String) : Except UrlFault Url := read s.toList

/-! ## Writing -/

/-- Whether a URL leads to a host. -/
def hasHost (url : Url) : Bool := url.host.any (· != .domain [])

def isWeb (url : Url) : Bool := url.scheme == "http".toList || url.scheme == "https".toList

def userText (url : Url) : List Char :=
  let password := match url.password with
    | some password => ':' :: password
    | none => []
  if url.user.isEmpty && password.isEmpty then [] else url.user ++ password ++ ['@']

/-- The path and query, as they stand in a request. -/
def target (url : Url) : List Char :=
  url.path ++ match url.query with
    | some query => '?' :: query
    | none => []

/-- What stands between the scheme and the path.  A path that starts with two slashes is kept apart
from a host by a segment that stands for itself. -/
def authorityText (url : Url) : List Char :=
  match url.host with
  | some host =>
      ['/', '/'] ++ url.userText ++ host.toList ++
        match url.port with
        | some port => ':' :: Decimal.digits port
        | none => []
  | none =>
      if kindOf url.scheme = .file then ['/', '/']
      else if ['/', '/'].isPrefixOf url.path then ['/', '.']
      else []

def toList (url : Url) : List Char :=
  let fragment := match url.fragment with
    | some fragment => '#' :: fragment
    | none => []
  url.scheme ++ ':' :: url.authorityText ++ url.target ++ fragment

def toText (url : Url) : String := String.ofList url.toList

end Url
end ClusterWatch.Http
