/-
Directives of log filters.

A directive names a target, a span, a field of the span, and the least level that passes; most of
them are optional, and a level alone is a directive for everything.
-/
import ClusterWatch.LogFilter.FieldValue

namespace ClusterWatch

/-- The least level that passes; `off` lets nothing pass. -/
inductive LogLevel where
  | off
  | error
  | warn
  | info
  | debug
  | trace
deriving DecidableEq, Repr

namespace LogLevel

/-- All levels, each at its number. -/
def all : List LogLevel := [off, error, warn, info, debug, trace]

def name : LogLevel → String
  | off => "off"
  | error => "error"
  | warn => "warn"
  | info => "info"
  | debug => "debug"
  | trace => "trace"

/-- Reads a level by its number or its name; an empty text is `error`. -/
def read? (s : String) : Option LogLevel :=
  match Decimal.readNat? Decimal.maxU64 s with
  | some n => all[n]?
  | none =>
      if s.isEmpty then some error
      else all.find? fun level => Text.sameIgnoringCase s level.name

end LogLevel

structure FieldCondition where
  name : String
  value : Option FieldValue
deriving DecidableEq, Repr

namespace FieldCondition

def text (f : FieldCondition) : String :=
  f.name ++ match f.value with
    | some value => "=" ++ value.text
    | none => ""

/-- The order of field conditions: those without a value first, then by name, then by value. -/
def order (a b : FieldCondition) : Ordering :=
  (compare a.value.isSome.toNat b.value.isSome.toNat).then <|
  (compare a.name b.name).then <|
  match a.value, b.value with
  | some x, some y => x.order y
  | _, _ => .eq

end FieldCondition

/-- A part of a filter. -/
structure Directive where
  level : LogLevel := .trace
  target : Option String := none
  span : Option String := none
  field : Option FieldCondition := none
deriving DecidableEq, Repr

namespace Directive

/-- Why a text is no directive.  A text is torn when a part of it would begin or end inside a
character. -/
inductive Fault where
  | malformed
  | unknownLevel
  | pattern (fault : Pattern.Fault)
  | torn
deriving DecidableEq, Repr

/-- The wording of a fault; a torn text leaves nothing to tell. -/
def Fault.message : Fault → String
  | malformed => "invalid filter directive"
  | unknownLevel =>
      "error parsing level filter: expected one of \"off\", \"error\", \"warn\", \"info\", " ++
        "\"debug\", \"trace\", or a number 0-5"
  | pattern fault => "invalid field filter: " ++ fault.message
  | torn => ""

/-! ## Reading a directive -/

/-- The two parts of a text before and after a byte offset, if that is between characters. -/
def cutAtByte? : Nat → List Char → Option (List Char × List Char)
  | 0, cs => some ([], cs)
  | _, [] => none
  | n, c :: r =>
      if c.utf8Size ≤ n then
        (cutAtByte? (n - c.utf8Size) r).map fun (front, back) => (c :: front, back)
      else none

/-- The part of a text from one byte offset to another. -/
def slice (start stop : Nat) (cs : List Char) : Except Fault String :=
  match (cutAtByte? start cs).bind fun (_, r) => cutAtByte? (stop - start) r with
  | some (part, _) => .ok (String.ofList part)
  | none => .error .torn

/-- What is being read of a directive, and the offset at which it started. -/
inductive Position where
  | beginning
  | word (start : Nat)
  | span (start : Nat)
  | field (start : Nat)
  | afterField
  | afterSpan
  | level (start : Nat)
deriving DecidableEq, Repr

/-- Reads a field condition; what follows a second equals sign does not count. -/
def readField (s : String) : Except Fault FieldCondition := do
  match (Text.piecesBy '=' s.toList).map String.ofList with
  | name :: value :: _ => return ⟨name, some (← (FieldValue.read value).mapError .pattern)⟩
  | _ => if s.isEmpty then throw .malformed else return ⟨s, none⟩

/-- Reads a level after an equals sign; nothing written lets everything pass. -/
def readLevel (s : String) : Except Fault LogLevel :=
  if s.isEmpty then .ok .trace
  else
    match LogLevel.read? s with
    | some level => .ok level
    | none => .error .unknownLevel

/-- A word that stands alone: a level, or else a target. -/
def ofWord (s : String) : Directive :=
  match LogLevel.read? s with
  | some level => if s.isEmpty then {} else { level }
  | none => { target := some s }

/-- Whether a directive may start with a character. -/
def mayStart (c : Char) : Bool := c == '-' || c == ':' || c == '_' || Text.isAlphanumeric c

/-- Reads one more character, at an offset. -/
def readChar (whole : List Char) (position : Position) (d : Directive) (i : Nat) (c : Char) :
    Except Fault (Position × Directive) := do
  match position with
  | .beginning =>
      if c = '[' then return (.span (i + 1), d)
      else if mayStart c then return (.word i, d)
      else throw .malformed
  | .word start =>
      if c = '=' then return (.level (i + 1), { d with target := some (← slice start i whole) })
      else if c = '[' then
        return (.span (i + 1), { d with target := some (← slice start i whole) })
      else return (.word start, d)
  | .span start =>
      if c = ']' then return (.afterSpan, { d with span := some (← slice start i whole) })
      else if c = '{' then
        let name ← slice start i whole
        return (.field (i + 1), { d with span := if name.isEmpty then none else some name })
      else return (.span start, d)
  | .field start =>
      if c = '}' then
        let field ← readField (← slice start i whole)
        return (.afterField, { d with field := some field })
      else return (.field start, d)
  | .afterField => if c = ']' then return (.afterSpan, d) else throw .malformed
  | .afterSpan => if c = '=' then return (.level (i + 1), d) else throw .malformed
  | .level start => return (.level start, d)

def readChars (whole : List Char) :
    Position → Directive → Nat → List Char → Except Fault (Position × Directive)
  | position, d, _, [] => .ok (position, d)
  | position, d, i, c :: r => do
      let (position, d) ← readChar whole position d i c
      readChars whole position d (i + c.utf8Size) r

/-- Reads a directive.  Blanks around it do not count when its characters are looked at, but its
parts are cut out of the whole text. -/
def read (whole : List Char) : Except Fault Directive := do
  let (position, d) ← readChars whole .beginning {} 0 (Text.trimList whole)
  let length := (String.ofList whole).utf8ByteSize
  match position with
  | .word start => return ofWord (← slice start length whole)
  | .level start => return { d with level := ← readLevel (← slice start length whole) }
  | .afterSpan => return d
  | _ => throw .malformed

/-! ## Writing -/

def text (d : Directive) : String :=
  let inner := d.span.getD "" ++ match d.field with
    | some f => "\x7b" ++ f.text ++ "\x7d"
    | none => ""
  let scope := d.target.getD "" ++
    if d.span.isSome || d.field.isSome then "[" ++ inner ++ "]" else ""
  if d.target.isSome || d.span.isSome || d.field.isSome then scope ++ "=" ++ d.level.name
  else d.level.name

def looksAtSpans (d : Directive) : Bool := d.span.isSome || d.field.isSome

/-- Whether a directive concerns all spans: it names none and asks for no value. -/
def concernsAll (d : Directive) : Bool := d.span.isNone && !d.field.any (·.value.isSome)

/-! ## Order -/

/-- How specific the target is. -/
def targetRank (d : Directive) : Nat :=
  match d.target with
  | some target => target.utf8ByteSize + 1
  | none => 0

def order (a b : Directive) : Ordering :=
  (compare a.targetRank b.targetRank).then <|
  (compare a.span.isSome.toNat b.span.isSome.toNat).then <|
  (compare a.field.isSome.toNat b.field.isSome.toNat).then <|
  (compare (a.target.getD "") (b.target.getD "")).then <|
  (compare (a.span.getD "") (b.span.getD "")).then <|
  match a.field, b.field with
  | some f, some g => f.order g
  | _, _ => .eq

/-- The list with a directive in its place, most specific first; it replaces an equal one. -/
def insert (d : Directive) : List Directive → List Directive
  | [] => [d]
  | e :: r =>
    match order d e with
    | .gt => d :: e :: r
    | .eq => d :: r
    | .lt => e :: insert d r

end Directive
end ClusterWatch
