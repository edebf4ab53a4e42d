/-
UTF-8 bytes that need not be a text.

Decoding finds every character that is encoded as a whole.  A byte that belongs to none stands for
itself, so that no character behind it is lost.
-/

namespace ClusterWatch.Text.Utf8

/-- The most bytes of a character. -/
def longest : Nat := 4

/-- The character that bytes begin with. -/
def first? (bytes : List UInt8) : Option Char :=
  ByteArray.utf8DecodeChar? ⟨(bytes.take longest).toArray⟩ 0

/-- The characters behind the first `pending` bytes, and `none` for a byte that belongs to no
character. -/
def decodeFrom : Nat → List UInt8 → List (Option Char)
  | _, [] => []
  | pending + 1, _ :: bytes => decodeFrom pending bytes
  | 0, b :: bytes =>
      match first? (b :: bytes) with
      | some c => some c :: decodeFrom (c.utf8Size - 1) bytes
      | none => none :: decodeFrom 0 bytes

def decode (bytes : List UInt8) : List (Option Char) := decodeFrom 0 bytes

end ClusterWatch.Text.Utf8
