import Webprint.Pattern.Text
import Webprint.Rule.Document
import Webprint.Signature
import Webprint.Slug
import Webprint.Unicode.Case

set_option autoImplicit false

/-!
# Compiling definitions

A definition becomes a signature: the patterns of each field are read and compiled, keys are
lower-cased except where letter case counts, category numbers become names, and relations are read
as patterns whose expression is the name of a technology. A definition compiles as a whole or not at
all.
-/

namespace Webprint

open Json (Value)

inductive Section where
  | field (f : Field)
  | implies
  | excludes
deriving DecidableEq, Repr

def Section.name : Section → String
  | .field f => f.name
  | .implies => "implies"
  | .excludes => "excludes"

inductive Form where
  | strings
  | map
deriving DecidableEq, Repr

def Form.description : Form → String
  | .strings => "a string or a list of strings"
  | .map => "a map of strings or lists of strings"

inductive CompileError where
  | invalidPattern (technology : String) (field : Field) (pattern : String) (cause : Regex.Fault)
  | unexpectedShape (technology : String) (part : Section) (expected : Form)
deriving DecidableEq, Repr

/-- The text of an error, up to what the cause would add. -/
def CompileError.message : CompileError → String
  | .invalidPattern technology field pattern _ =>
    "Invalid pattern in " ++ technology ++ "." ++ field.name ++ ": " ++ Text.quoted pattern ++ ": "
  | .unexpectedShape technology part expected =>
    "Unexpected shape in " ++ technology ++ "." ++ part.name ++ ": expected " ++ expected.description

def foldKey (f : Field) (key : String) : String :=
  if f.caseSensitiveKeys then key else String.ofList (Unicode.lowercase key.toList)

def isBlankValue : Value → Bool
  | .null => true
  | .string s => s.isEmpty
  | .array items => items.isEmpty
  | .object members => members.isEmpty
  | _ => false

def asString? : Value → Option String
  | .string s => some s
  | _ => none

/-- The strings of a value: one, several, or none for `null`. -/
def rawStrings? : Value → Option (List String)
  | .null => some []
  | .string s => some [s]
  | .array items => items.mapM asString?
  | _ => none

def compilePattern (technology : String) (f : Field) (raw : String) :
    Except CompileError Pattern :=
  match Pattern.ofSpec? (Pattern.parse raw) with
  | .ok p => .ok p
  | .error e => .error (.invalidPattern technology f raw e)

def compilePatterns (technology : String) (f : Field) (v : Value) :
    Except CompileError (List Pattern) :=
  match rawStrings? v with
  | none => .error (.unexpectedShape technology (.field f) .strings)
  | some raws => raws.mapM (compilePattern technology f)

def putEntry (e : KeyedPatterns) : List KeyedPatterns → List KeyedPatterns
  | [] => [e]
  | d :: rest => if d.key = e.key then e :: rest else d :: putEntry e rest

def compileEntry (technology : String) (f : Field) (entries : List KeyedPatterns)
    (member : String × Value) : Except CompileError (List KeyedPatterns) := do
  let key := foldKey f member.1
  let patterns ← compilePatterns technology f member.2
  if patterns.isEmpty then return entries
  else match KeyedPatterns.ofPatterns? key patterns with
    | .ok e => return putEntry e entries
    | .error e => .error (.invalidPattern technology f key e)

def compileField (technology : String) (f : Field) (v : Value) : Except CompileError Matcher :=
  match f.shape with
  | .scalar => (compilePatterns technology f v).map .scalar
  | .list => (compilePatterns technology f v).map .list
  | .keyed =>
    match v with
    | .object members => (members.foldlM (compileEntry technology f) []).map .keyed
    | _ => .error (.unexpectedShape technology (.field f) .map)

/-- Compiles one field of a definition and adds its matcher, unless that would be empty. -/
def addMatcher (technology : String) (d : Definition) (ms : SortedMap Field Matcher) (f : Field) :
    Except CompileError (SortedMap Field Matcher) :=
  match d.fields.get? f with
  | none => .ok ms
  | some v =>
    if isBlankValue v then .ok ms
    else do
      let m ← compileField technology f v
      return if m.isEmpty then ms else ms.insert f m

/-- A relation from its written form; none if it names no technology. -/
def relationOf? (raw : String) : Option Relation :=
  let spec := Pattern.parse raw
  let target := Text.trimmed spec.regex
  if target.isEmpty then none else some ⟨target, spec.confidence⟩

def compileRelations (technology : String) (part : Section) (v : Option Value) :
    Except CompileError (List Relation) :=
  match v with
  | none => .ok []
  | some v =>
    if isBlankValue v then .ok []
    else match rawStrings? v with
      | none => .error (.unexpectedShape technology part .strings)
      | some raws => .ok (raws.filterMap relationOf?)

def defaultIcon : String := "default.svg"

namespace Definition

def profile (d : Definition) (technology : String) (names : CategoryNames) : Profile :=
  { name := technology
    slug := Webprint.slug technology
    description := d.description
    website := d.website
    cpe := d.cpe
    icon := d.icon.getD defaultIcon
    categories := d.categories.filterMap fun n => names.lookup n }

def compile (d : Definition) (technology : String) (names : CategoryNames) :
    Except CompileError Signature := do
  let matchers ← Field.all.foldlM (addMatcher technology d) SortedMap.empty
  let implies ← compileRelations technology .implies d.implies
  let excludes ← compileRelations technology .excludes d.excludes
  return ⟨d.profile technology names, matchers, implies, excludes⟩

end Definition

end Webprint
