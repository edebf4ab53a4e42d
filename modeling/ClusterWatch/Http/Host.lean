/-
Hosts of URLs.

A host in square brackets is an IPv6 address.  Any other host is a domain name, which is
percent-decoded and brought into its ASCII form.  If the last label is a number the whole must be an
IPv4 address, whose parts may be decimal, octal or hexadecimal.
-/
import ClusterWatch.Http.Domain
import ClusterWatch.Number.Decimal
import ClusterWatch.Text.Percent
import ClusterWatch.Text.Pieces

namespace ClusterWatch.Http

inductive UrlFault where
  | relative
  | emptyHost
  | invalidPort
  | invalidIpv4
  | invalidIpv6
  | invalidDomain
  | forbiddenCharacter
deriving DecidableEq, Repr

def UrlFault.message : UrlFault → String
  | relative => "relative URL without a base"
  | emptyHost => "empty host"
  | invalidPort => "invalid port number"
  | invalidIpv4 => "invalid IPv4 address"
  | invalidIpv6 => "invalid IPv6 address"
  | invalidDomain => "invalid international domain name"
  | forbiddenCharacter => "invalid domain character"

inductive Host where
  | domain (name : List Char)
  | ipv4 (address : Nat)
  | ipv6 (groups : List Nat)
deriving DecidableEq, Repr

namespace Host

/-! ## Internet addresses -/

/-- What a part of an IPv4 address is: a number of up to 32 bits, a larger one, or none. -/
inductive Part where
  | number (n : Nat)
  | tooLarge
  | none
deriving DecidableEq, Repr

/-- The value of digits to a base, if all of them are such digits. -/
def valueToBase? (base : Nat) (cs : List Char) : Option Nat :=
  cs.foldl (fun total c => do
    let d ← Text.hexValue? c
    if d < base then return (← total) * base + d else none) (some 0)

/-- Reads a part of an IPv4 address; `0x` marks a hexadecimal number and `0` an octal one. -/
def readPart (cs : List Char) : Part :=
  let sized (base : Nat) (ds : List Char) : Part :=
    match valueToBase? base ds with
    | some n => if n < 2 ^ 32 then .number n else .tooLarge
    | none => .none
  match cs with
  | [] => .none
  | '0' :: 'x' :: r => sized 16 r
  | '0' :: 'X' :: r => sized 16 r
  | '0' :: d :: r => sized 8 (d :: r)
  | r => sized 10 r

/-- The last label, an empty one at the end not counted. -/
def lastLabel? (labels : List (List Char)) : Option (List Char) :=
  match labels.reverse with
  | [] :: label :: _ => some label
  | [[]] => none
  | label :: _ => some label
  | [] => none

def endsInNumber (name : List Char) : Bool :=
  match lastLabel? (Text.piecesBy '.' name) with
  | some label => (!label.isEmpty && label.all Text.isDigit) || readPart label != .none
  | none => false

/-- The numbers of the parts of an address. -/
def readParts? : List (List Char) → Option (List Nat)
  | [] => some []
  | part :: more =>
    match readPart part with
    | .number n => (readParts? more).map (n :: ·)
    | _ => none

/-- Reads an IPv4 address of up to four parts, of which the last fills what the others leave. -/
def readIpv4? (name : List Char) : Option Nat :=
  let pieces := Text.piecesBy '.' name
  let pieces := if pieces.getLast? = some [] then pieces.dropLast else pieces
  if 4 < pieces.length then none
  else do
    let numbers ← readParts? pieces
    let last ← numbers.getLast?
    let front := numbers.dropLast
    if 2 ^ (8 * (4 - front.length)) ≤ last ∨ front.any (255 < ·) then none
    else some (front.zipIdx.foldl (fun address (n, i) => address + n * 2 ^ (8 * (3 - i))) last)

def ipv4Text (address : Nat) : List Char :=
  Text.joinWith ['.'] ([24, 16, 8, 0].map fun shift => Decimal.digits (address / 2 ^ shift % 256))

/-- A decimal byte without leading zeros. -/
def readByte? (cs : List Char) : Option Nat :=
  if 1 < cs.length ∧ cs.head? = some '0' then none
  else (Decimal.readDigits? cs).filter (· ≤ 255)

/-- Four decimal bytes as two groups of an IPv6 address. -/
def readBytes? (cs : List Char) : Option (List Nat) := do
  match ← (Text.piecesBy '.' cs).mapM readByte? with
  | [a, b, c, d] => some [a * 256 + b, c * 256 + d]
  | _ => none

/-- A group of one to four hexadecimal digits. -/
def readGroup? (cs : List Char) : Option Nat :=
  if cs.isEmpty ∨ 4 < cs.length then none else valueToBase? 16 cs

/-- Groups with colons between them; four decimal bytes may stand for the last two. -/
def readGroups? : List (List Char) → Option (List Nat)
  | [] => some []
  | [piece] => if piece.contains '.' then readBytes? piece else (readGroup? piece).map ([·])
  | piece :: more => do return (← readGroup? piece) :: (← readGroups? more)

/-- The groups of a side of the double colon, which may be empty. -/
def readSide? (cs : List Char) : Option (List Nat) :=
  if cs.isEmpty then some [] else readGroups? (Text.piecesBy ':' cs)

/-- The two sides of the first double colon. -/
def cutAtDoubleColon? : List Char → Option (List Char × List Char)
  | ':' :: ':' :: r => some ([], r)
  | c :: r => (cutAtDoubleColon? r).map fun (front, back) => (c :: front, back)
  | [] => none

/-- Reads an IPv6 address; a double colon stands for at least one group of zeros. -/
def readIpv6? (cs : List Char) : Option (List Nat) :=
  match cutAtDoubleColon? cs with
  | some (front, back) => do
      let front ← if front.contains '.' then none else readSide? front
      let back ← readSide? back
      if front.length + back.length ≤ 7 then
        some (front ++ List.replicate (8 - front.length - back.length) 0 ++ back)
      else none
  | none => (readSide? cs).filter fun groups => groups.length == 8

/-- The start and length of the first longest run of zeros. -/
def longestZeroRun (groups : List Nat) : Nat × Nat :=
  (List.range groups.length).foldl (fun best i =>
    let n := ((groups.drop i).takeWhile (· == 0)).length
    if best.2 < n then (i, n) else best) (0, 0)

/-- An IPv6 address; its first longest run of at least two zero groups becomes a double colon. -/
def ipv6Text (groups : List Nat) : List Char :=
  let hex (gs : List Nat) := Text.joinWith [':'] (gs.map (Nat.toDigits 16))
  let (start, n) := longestZeroRun groups
  if 2 ≤ n then hex (groups.take start) ++ [':', ':'] ++ hex (groups.drop (start + n))
  else hex groups

/-! ## Reading and writing -/

/-- Reads what stands between square brackets if a host starts with one. -/
def readBracketed? (cs : List Char) : Option (Except UrlFault Host) :=
  match cs with
  | '[' :: r =>
    match r.reverse with
    | ']' :: inner =>
      match readIpv6? inner.reverse with
      | some groups => some (.ok (.ipv6 groups))
      | none => some (.error .invalidIpv6)
    | _ => some (.error .invalidIpv6)
  | _ => none

/-- Reads the host of a URL of a special scheme. -/
def read (cs : List Char) : Except UrlFault Host :=
  match readBracketed? cs with
  | some result => result
  | none =>
    match (Text.Percent.ofUtf8? (Text.Percent.decode cs)).bind Domain.toAscii? with
    | none => .error .invalidDomain
    | some [] => .error .emptyHost
    | some name =>
        if endsInNumber name then
          match readIpv4? name with
          | some address => .ok (.ipv4 address)
          | none => .error .invalidIpv4
        else .ok (.domain name)

def isForbiddenOpaque (c : Char) : Bool :=
  ['\x00', '\t', '\n', '\x0d', ' ', '#', '/', ':', '<', '>', '?', '@', '[', '\\', ']', '^', '|'
    ].contains c

/-- Reads the host of a URL of another scheme. -/
def readOpaque (cs : List Char) : Except UrlFault Host :=
  match readBracketed? cs with
  | some result => result
  | none =>
      if cs.any isForbiddenOpaque then .error .forbiddenCharacter
      else .ok (.domain (Text.Percent.encode (fun _ => false) cs))

def toList : Host → List Char
  | domain name => name
  | ipv4 address => ipv4Text address
  | ipv6 groups => '[' :: ipv6Text groups ++ [']']

end Host
end ClusterWatch.Http
