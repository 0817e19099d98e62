import Webprint.Catalogue
import Webprint.Evidence
import Webprint.Snapshot
import Webprint.Version

set_option autoImplicit false

/-!
# Matching

Which patterns of a catalogue match a page. Findings come in the order of the signatures, of the
fields, and of the patterns and texts within a field. A pattern is tried on every text of its field,
under a key on every text that the key stands for.
-/

namespace Webprint

structure Finding where
  pattern : Pattern
  evidence : Evidence

namespace Matching

def versionIn (p : Pattern) (s : String) : String :=
  if p.hasVersion then (Version.resolve? p.spec.version p.regex s).getD "" else ""

/-- Tries a pattern on one value. A value that is merely there matches every pattern and gives no
version. -/
def test (technology : String) (f : Field) (key : Option String) (p : Pattern)
    (c : Candidate) : List Finding :=
  let found (version : String) : List Finding :=
    [⟨p, ⟨key, .matched f, technology, p.spec.confidence, p.spec.version, version⟩⟩]
  match c with
  | .absent => []
  | .presence => found ""
  | .text s => if p.isMatch s then found (versionIn p s) else []

/-- The values that a pattern under a key is tried on: those under the key itself, or for a pattern
that says so those under every key that the key's expression matches. -/
def valuesFor {α : Type} (e : KeyedPatterns) (p : Pattern) (values : MultiMap α) : List α :=
  match e.keyRegex, p.spec.keyRegex with
  | some r, true => values.entries.flatMap fun (k, vs) => if r.isMatch k.toList then vs else []
  | _, _ => (values.get? e.key).getD []

def matchKeyed {α : Type} (candidate : α → Candidate) (technology : String) (f : Field)
    (es : List KeyedPatterns) (values : MultiMap α) : List Finding :=
  es.flatMap fun e => e.patterns.flatMap fun p =>
    (valuesFor e p values).flatMap fun v => test technology f (some e.key) p (candidate v)

def matchField (technology : String) (s : Snapshot) (f : Field) (m : Matcher) : List Finding :=
  match m with
  | .scalar ps =>
    match s.scalar f with
    | none => []
    | some text => ps.flatMap fun p => test technology f none p (.text text)
  | .list ps =>
    (s.list f).flatMap fun text => ps.flatMap fun p => test technology f none p (.text text)
  | .keyed es =>
    if f = .js then
      match s.jsFor technology with
      | none => []
      | some globals => matchKeyed JsValue.candidate technology f es globals
    else match s.keyed f with
      | none => []
      | some values => matchKeyed Candidate.text technology f es values

def matchSignature (s : Snapshot) (sig : Signature) : List Finding :=
  sig.matchers.entries.flatMap fun (f, m) => matchField sig.name s f m

def findings (c : Catalogue) (s : Snapshot) : List Finding :=
  c.signatures.flatMap (matchSignature s)

def evidence (c : Catalogue) (s : Snapshot) : List Evidence :=
  (findings c s).map (·.evidence)

def previewLength : Nat := 80

def Finding.log (x : Finding) : LogRecord :=
  let e := x.evidence
  ⟨.debug, "[" ++ e.origin.name ++ "] " ++ e.technology ++ " matched " ++ e.key.getD "-" ++ " /"
    ++ String.ofList (preview previewLength x.pattern.spec.regex.toList)
    ++ "/ version=" ++ Text.quoted e.version⟩

def log (xs : List Finding) : List LogRecord :=
  xs.map Finding.log ++ [⟨.debug, "Collected " ++ toString xs.length ++ " evidence entries"⟩]

end Matching

end Webprint
