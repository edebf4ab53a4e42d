/-
Percent encoding.

A character that may not stand for itself is written as its UTF-8 bytes, each as a percent sign and
two hexadecimal digits.  Decoding leaves a percent sign without such digits as it is.
-/
import ClusterWatch.Text.Letters

namespace ClusterWatch.Text.Percent

def encodeByte (b : UInt8) : List Char :=
  '%' :: (hexDigits 2 b.toNat).map Char.toUpper

/-- A text in which the characters that satisfy `special`, control characters and everything outside
ASCII are encoded. -/
def encode (special : Char → Bool) (cs : List Char) : List Char :=
  cs.flatMap fun c =>
    if special c || c.toNat < 0x20 || 0x7E < c.toNat then
      (String.utf8EncodeChar c).flatMap encodeByte
    else [c]

/-- The bytes of a text whose encoded bytes are decoded. -/
def decode : List Char → List UInt8
  | '%' :: a :: b :: r =>
      match hexValue? a, hexValue? b with
      | some x, some y => UInt8.ofNat (x * 16 + y) :: decode r
      | _, _ => 0x25 :: decode (a :: b :: r)
  | c :: r => String.utf8EncodeChar c ++ decode r
  | [] => []

def ofUtf8? (bytes : List UInt8) : Option (List Char) :=
  (String.fromUTF8? ⟨bytes.toArray⟩).map String.toList

end ClusterWatch.Text.Percent
