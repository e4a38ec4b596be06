import LineScript.Fault
import LineScript.Text.Lines

/-!
# Sources
A source hands out lines and may fail after the last of them. Lines end at line feeds; a source
that is strict about its bytes also takes carriage returns for line ends.
-/
namespace LineScript

/-- The lines of a script, and the fault that reading meets after them, if any. -/
structure Source where
  lines : List String
  failure : Option Fault

namespace Source

def ofLines (lines : List String) : Source := ⟨lines, none⟩

def ofText (text : String) : Source := ofLines (Text.lines text)

/-- Bytes as a source: each line is read leniently on its own. -/
def ofBytes (bytes : List UInt8) : Source :=
  ofLines ((Text.cutAfter (· == 0x0a) bytes).map Text.Utf8.decode)

/-- The lines that are known to be complete in text of which more is to come: not even a carriage
return at its end tells that a line is over. -/
def completeLines (cs : List Char) : List String :=
  let cs := Text.unifyLineEnds (if cs.getLast? = some '\r' then cs.dropLast else cs)
  (Text.lines (String.ofList cs)).filter fun line => !Text.lacksLineFeed line

/-- Bytes as a source that is strict. A character that the end cuts off is met after the complete
lines, and counted from where it begins; any other defect is met at once. -/
def ofStrictBytes (bytes : List UInt8) : Source :=
  match Text.Utf8.read bytes with
  | .ok cs => ofText (String.ofList (Text.unifyLineEnds cs))
  | .error defect => match defect.flaw with
    | .unexpectedEnd =>
      let lines := completeLines (Text.Utf8.decodeChars (bytes.take defect.first))
      ⟨lines, some (.decoding { defect with first := 0, stop := defect.stop - defect.first })⟩
    | _ => ⟨[], some (.decoding defect)⟩

end Source

end LineScript
