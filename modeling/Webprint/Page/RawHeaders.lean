import Webprint.Page.Header

set_option autoImplicit false

/-!
# Headers as text

The headers of a response as a tool saves them: one to a line, a name, a colon and a value. Status
lines, empty lines and lines without a colon do not count.

The headers are a list here, of any length. A map of headers by name has room for 24,576 different
names and aborts on one more, so what follows is about texts below that bound.
-/

namespace Webprint.Page

inductive RawHeaderError where
  | invalidName (text : String)
  | invalidValue (text : String)
deriving DecidableEq, Repr

/-- The characters of header values in a text: the tab, and all from the space on but `DEL`. Those
beyond the first 128 stand there as opaque bytes. -/
def isValueChar (c : Char) : Bool := (0x20 ≤ c.toNat && c.toNat != 0x7f) || c == '\t'

def isSkipped (line : List Char) : Bool :=
  line.isEmpty || (Text.after? "HTTP/".toList line).isSome || !line.contains ':'

def headerOfLine (line : List Char) : Except RawHeaderError Header :=
  let (name, rest) := line.span (· != ':')
  let value := rest.drop 1
  match HeaderName.ofBytes? (Text.utf8Bytes (String.ofList (Text.trim name))) with
  | none => .error (.invalidName (String.ofList name))
  | some n =>
    let trimmed := Text.trim value
    if trimmed.all isValueChar then .ok ⟨n, Text.utf8Bytes (String.ofList trimmed)⟩
    else .error (.invalidValue (String.ofList value))

def rawHeaders (text : String) : Except RawHeaderError (List Header) :=
  (((Text.lines text.toList).map Text.trimEnd).filter (!isSkipped ·)).mapM headerOfLine

end Webprint.Page
