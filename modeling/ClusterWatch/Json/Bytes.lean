/-
JSON text in bytes.

Whoever reads a value from bytes decodes the strings that are kept and the names of fields, and
refuses them if they are not UTF-8.  Of a string that is skipped only the form is looked at, and any
bytes may stand in it.  Escapes that stand for halves of surrogate pairs are treated in the same way
(`Quoted`), so a byte that belongs to no character is read as such an escape.  Behind a backslash,
where it spoils an escape, it is read as a character that no escape has, and outside of strings
either is as wrong as the byte itself.
-/
import ClusterWatch.Json.Reader
import ClusterWatch.Text.Utf8

namespace ClusterWatch.Json

/-- The first half of a surrogate pair, and a character that is not the second half of it. -/
def strayHalf : List Char := ['\\', 'u', 'd', '8', '0', '0', ' ']

/-- The text in which readers find what they would find in bytes.  `escaping` says whether a
backslash stands in front that begins an escape. -/
def mend : Bool → List (Option Char) → List Char
  | _, [] => []
  | escaping, some c :: cs => c :: mend (!escaping && c == '\\') cs
  | true, none :: cs => '\ufffd' :: mend false cs
  | false, none :: cs => strayHalf ++ mend false cs

def textOf (bytes : List UInt8) : List Char := mend false (Text.Utf8.decode bytes)

/-- Reads bytes that hold one value and nothing else but blanks. -/
def readBytes {α : Type} (read : Reader α) (bytes : List UInt8) : Except Fault α :=
  readAll read (textOf bytes)

end ClusterWatch.Json
