/-
Parts of the heads of messages.

Methods and the names of headers are tokens: some ASCII characters without blanks, at least one.
The value of a header is a text without line breaks and other controls.
-/
import ClusterWatch.Text.Letters

namespace ClusterWatch.Http

def isTokenChar (c : Char) : Bool :=
  Text.isAsciiLetter c || Text.isDigit c ||
    ['!', '#', '$', '%', '&', '\x27', '*', '+', '-', '.', '^', '_', '\x60', '|', '~'].contains c

def isToken (s : String) : Bool := !s.isEmpty && s.toList.all isTokenChar

/-- Whether a text may be the value of a header. -/
def isHeaderText (s : String) : Bool :=
  s.toList.all fun c => c == '\t' || (0x20 ≤ c.toNat && c.toNat != 0x7F)

/-- The value of a header as it arrives: without the blanks at its end. -/
def headerValue (s : String) : String :=
  String.ofList (s.toList.reverse.dropWhile fun c => c == ' ' || c == '\t').reverse

end ClusterWatch.Http
