/-
Punycode: labels of domain names in ASCII.

The ASCII characters of a label come first, followed by a hyphen if there are any.  Then the other
characters are listed in ascending order, each by the number of positions and code points skipped
since the one before, as digits to the base 36 of a variable-length number whose thresholds adapt.
-/
import ClusterWatch.Number.Power

namespace ClusterWatch.Http.Punycode

def base : Nat := 36

def digit (n : Nat) : Char := if n < 26 then Char.ofNat (97 + n) else Char.ofNat (22 + n)

def digitValue? (c : Char) : Option Nat :=
  if 'a' ≤ c && c ≤ 'z' then some (c.toNat - 97)
  else if 'A' ≤ c && c ≤ 'Z' then some (c.toNat - 65)
  else if '0' ≤ c && c ≤ '9' then some (c.toNat - 22)
  else none

/-- The threshold of the digit at place `k`, a multiple of the base. -/
def threshold (k bias : Nat) : Nat :=
  if k ≤ bias + 1 then 1 else if bias + 26 ≤ k then 26 else k - bias

/-- Divides by 35 while the number is above 455 and counts how often. -/
def reduce : Nat → Nat → Nat → Nat
  | 0, k, delta => k + 36 * delta / (delta + 38)
  | fuel + 1, k, delta =>
      if 455 < delta then reduce fuel (k + base) (delta / 35) else k + 36 * delta / (delta + 38)

/-- The bias after a number has been written. -/
def adapt (delta count : Nat) (first : Bool) : Nat :=
  let delta := if first then delta / 700 else delta / 2
  let delta := delta + delta / count
  reduce delta 0 delta

/-- The digits of a number, from place `k` on. -/
def encodeNumber : Nat → Nat → Nat → Nat → List Char
  | 0, _, _, _ => []
  | fuel + 1, q, k, bias =>
      let t := threshold k bias
      if q < t then [digit q]
      else
        digit (t + (q - t) % (base - t)) ::
          encodeNumber fuel ((q - t) / (base - t)) (k + base) bias

/-- The state while characters are written: the next code point, the distance, the bias, how many
characters are written, and the output. -/
structure Writer where
  codePoint : Nat
  delta : Nat
  bias : Nat
  written : Nat
  output : List Char

/-- Passes one character of the label while all occurrences of the code point are written. -/
def Writer.pass (basic : Nat) (w : Writer) (c : Char) : Writer :=
  if c.toNat < w.codePoint then { w with delta := w.delta + 1 }
  else if c.toNat = w.codePoint then
    { w with
      output := w.output ++ encodeNumber (w.delta + 2) w.delta base w.bias
      bias := adapt w.delta (w.written + 1) (w.written == basic)
      delta := 0
      written := w.written + 1 }
  else w

/-- Writes the characters of the code points in ascending order. -/
def writeCodePoints (label : List Char) (basic : Nat) : List Nat → Writer → Writer
  | [], w => w
  | n :: ns, w =>
      let w := { w with delta := w.delta + (n - w.codePoint) * (w.written + 1), codePoint := n }
      let w := label.foldl (Writer.pass basic) w
      writeCodePoints label basic ns { w with delta := w.delta + 1, codePoint := n + 1 }

/-- A label in ASCII, without its mark. -/
def encode (label : List Char) : List Char :=
  let ascii := label.filter fun c => c.toNat < 0x80
  let others := ((label.filter fun c => 0x80 ≤ c.toNat).map Char.toNat).eraseDups.mergeSort
  let start := if ascii.isEmpty then [] else ascii ++ ['-']
  (writeCodePoints label ascii.length others ⟨0x80, 0, 72, ascii.length, start⟩).output

/-- Numbers above are not read. -/
def greatestNumber : Nat := 2 ^ 32 - 1

/-- Reads a number: its value and the rest. -/
def readNumber : List Char → Nat → Nat → Nat → Nat → Option (Nat × List Char)
  | [], _, _, _, _ => none
  | c :: r, i, weight, k, bias => do
      let d ← digitValue? c
      let t := threshold k bias
      let i := i + d * weight
      if greatestNumber < i then none
      else if d < t then some (i, r)
      else if greatestNumber < weight * (base - t) then none
      else readNumber r i (weight * (base - t)) (k + base) bias

/-- Inserts the characters that a list of numbers stands for. -/
def readCodePoints :
    Nat → List Char → Nat → Nat → Nat → Bool → List Char → Option (List Char)
  | 0, _, _, _, _, _, _ => none
  | fuel + 1, cs, n, i, bias, first, output =>
      match cs with
      | [] => some output
      | cs => do
          let (j, r) ← readNumber cs i 1 base bias
          let count := output.length + 1
          let n := n + j / count
          let position := j % count
          if 0x10FFFF < n ∨ (0xD800 ≤ n ∧ n ≤ 0xDFFF) then none
          else
            readCodePoints fuel r n (position + 1) (adapt (j - i) count first) false
              (output.take position ++ Char.ofNat n :: output.drop position)

/-- The label that an ASCII form without its mark stands for.  A hyphen at the very beginning
separates nothing, and it is no digit. -/
def decode? (cs : List Char) : Option (List Char) :=
  let tail := (cs.reverse.takeWhile (· != '-')).reverse
  let ascii := cs.take (cs.length - tail.length - 1)
  if tail.isEmpty ∨ (ascii.isEmpty ∧ tail.length < cs.length) then none
  else readCodePoints (cs.length + 1) tail 0x80 0 72 true ascii

end ClusterWatch.Http.Punycode
