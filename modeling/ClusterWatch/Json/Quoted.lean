/-
Strings in JSON text.

Writing puts a backslash in front of the quotation mark and the backslash, writes control
characters as escapes and all else as it is.  Reading accepts every escape of the format, refuses
raw control characters and refuses halves of surrogate pairs.  A string whose content is not
wanted is skipped by a weaker check that lets such halves pass.
-/
import ClusterWatch.Json.Numeral
import ClusterWatch.Text.Letters

namespace ClusterWatch.Json

namespace Quoted

def escape (c : Char) : List Char :=
  if c = '"' then ['\\', '"']
  else if c = '\\' then ['\\', '\\']
  else if c = '\x08' then ['\\', 'b']
  else if c = '\x0c' then ['\\', 'f']
  else if c = '\n' then ['\\', 'n']
  else if c = '\x0d' then ['\\', 'r']
  else if c = '\t' then ['\\', 't']
  else if c.toNat < 0x20 then '\\' :: 'u' :: Text.hexDigits 4 c.toNat
  else [c]

def encode (escape : Char → List Char) (s : String) : List Char :=
  '"' :: s.toList.flatMap escape ++ ['"']

def takeHex? : List Char → Option (Nat × List Char)
  | a :: b :: c :: d :: r => do
      let a ← Text.hexValue? a
      let b ← Text.hexValue? b
      let c ← Text.hexValue? c
      let d ← Text.hexValue? d
      return (((a * 16 + b) * 16 + c) * 16 + d, r)
  | _ => none

/-- The first half of a surrogate pair. -/
def isHighHalf (n : Nat) : Bool := 0xD800 ≤ n && n ≤ 0xDBFF

/-- The second half of a surrogate pair. -/
def isLowHalf (n : Nat) : Bool := 0xDC00 ≤ n && n ≤ 0xDFFF

/-- The character of an escape with hexadecimal digits; two escapes may form a pair. -/
def takeCodePoint? (cs : List Char) : Option (Char × List Char) := do
  let (n, r) ← takeHex? cs
  if isHighHalf n then
    match r with
    | '\\' :: 'u' :: r =>
        let (m, r) ← takeHex? r
        if isLowHalf m then some (Char.ofNat (0x10000 + (n - 0xD800) * 0x400 + (m - 0xDC00)), r)
        else none
    | _ => none
  else if isLowHalf n then none
  else some (Char.ofNat n, r)

/-- The character of an escape of one letter or sign. -/
def shortEscape? : Char → Option Char
  | '"' => some '"'
  | '\\' => some '\\'
  | '/' => some '/'
  | 'b' => some '\x08'
  | 'f' => some '\x0c'
  | 'n' => some '\n'
  | 'r' => some '\x0d'
  | 't' => some '\t'
  | _ => none

/-- Takes one character of a string, written as it is or as an escape. -/
def takeChar? : List Char → Option (Char × List Char)
  | [] => none
  | c :: r =>
      if c = '\\' then
        match r with
        | [] => none
        | e :: r => if e = 'u' then takeCodePoint? r else (shortEscape? e).map fun d => (d, r)
      else if c.toNat < 0x20 then none
      else some (c, r)

/-- Reads the characters up to the closing quotation mark, those already read last one first. -/
def decodeFrom : Nat → List Char → List Char → Option (List Char × List Char)
  | 0, _, _ => none
  | fuel + 1, read, cs =>
      match cs with
      | '"' :: r => some (read.reverse, r)
      | cs =>
        match takeChar? cs with
        | some (c, r) => decodeFrom fuel (c :: read) r
        | none => none

def decode (cs : List Char) : Except Fault (String × List Char) :=
  match decodeFrom cs.length [] cs with
  | some (text, r) => .ok (String.ofList text, r)
  | none => .error .malformed

/-- The rest after one character of a string that is not wanted. -/
def skipChar? : List Char → Option (List Char)
  | [] => none
  | c :: r =>
      if c = '\\' then
        match r with
        | [] => none
        | e :: r =>
            if e = 'u' then (takeHex? r).map Prod.snd else (shortEscape? e).map fun _ => r
      else if c.toNat < 0x20 then none
      else some r

/-- The rest after a string that is not wanted, given after its opening quotation mark. -/
def skipFrom : Nat → List Char → Except Fault (List Char)
  | 0, _ => .error .malformed
  | fuel + 1, cs =>
      match cs with
      | '"' :: r => .ok r
      | cs =>
        match skipChar? cs with
        | some r => skipFrom fuel r
        | none => .error .malformed

/-- The rest after a string that is not wanted, given after its opening quotation mark. -/
def skip (cs : List Char) : Except Fault (List Char) := skipFrom cs.length cs

end Quoted
end ClusterWatch.Json
