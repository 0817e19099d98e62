import Webprint.Pattern.Basic
import Webprint.Text.Search
import Webprint.Text.Utf8

set_option autoImplicit false

/-!
# Written patterns

A pattern is written as a regular expression followed by attributes, all parted by `\;`. An attribute
is a name and a value around the first colon. The attributes `confidence`, `version` and `key_regex`
have a meaning; others are kept as they are, and a piece without a colon is dropped.
-/

namespace Webprint.Pattern

def separator : List Char := ['\\', ';']

/-- Spellings of other dialects brought into this one: an escaped slash, and the two ways to say "any
character". -/
def normalize (s : List Char) : List Char :=
  let s := Text.replaceAll ['\\', '/'] ['/'] s
  let s := Text.replaceAll ['[', '^', ']'] ['.'] s
  Text.replaceAll ['[', '\\', 's', '\\', 'S', ']', '*'] ['.', '*'] s

def isDigitByte (b : UInt8) : Bool := 0x30 ≤ b && b ≤ 0x39

def readSign? (s : List Char) : Option (Bool × List Char) :=
  let first := (Text.bytes s).head?
  if first = some 0x2d || first = some 0x2b then
    (Text.partAtByte? 1 s).map fun p => (first = some 0x2d, p.2)
  else some (false, s)

def readDigits? (s : List Char) : Option (List Char) :=
  (Text.partAtByte? ((Text.bytes s).findIdx fun b => !isDigitByte b) s).map (·.1)

def appendDigit? (size : Confidence) (b : UInt8) : Option Confidence :=
  if b < 0x30 then none else some (size * .clamp 10 + .clamp ((b.toNat - 0x30 : Nat) : Int))

/-- Reads an integer as far as there is one: blanks, a sign, digits. There is none if a text would be
parted inside a character, or if a byte or a size had no counterpart in its range. -/
def lenientInteger? (s : List Char) : Option Confidence := do
  let (negative, s) ← readSign? (Text.trimStart s)
  let digits ← readDigits? s
  let size ← (Text.bytes digits).foldlM appendDigit? .zero
  if negative then size.opposite? else some size

def lenientInteger (s : List Char) : Confidence := (lenientInteger? s).getD .zero

/-- Everything counts as true but a blank text, `0`, and `false` in any case. -/
def isTruthy (s : List Char) : Bool :=
  let s := Text.trim s
  !(s.isEmpty || s == ['0'] || s.map Char.toLower == ['f', 'a', 'l', 's', 'e'])

def attribute? (piece : List Char) : Option (List Char × List Char) :=
  match piece.span (· != ':') with
  | (name, _ :: value) => some (name, value)
  | (_, []) => none

def addPiece (spec : PatternSpec) (piece : List Char) : PatternSpec :=
  match attribute? piece with
  | none => spec
  | some (name, value) =>
    match String.ofList name with
    | "confidence" => { spec with confidence := lenientInteger value }
    | "version" => { spec with version := String.ofList value }
    | "key_regex" => { spec with keyRegex := isTruthy value }
    | name => { spec with attributes := spec.attributes.insert name (String.ofList value) }

def parse (s : String) : PatternSpec :=
  match Text.splitAll separator s.toList with
  | [] => { regex := "" }
  | value :: pieces => pieces.foldl addPiece { regex := String.ofList (normalize value) }

end Webprint.Pattern
