import Webprint.Field
import Webprint.Pattern.Basic

set_option autoImplicit false

/-!
# Signatures

A technology in the form in which pages are matched against it: what it is, a matcher for each field
that it leaves traces in, and its relations to other technologies. Signatures have a JSON form, from
which every regular expression is compiled anew.
-/

namespace Webprint

/-- The regular expression for a key; none unless one of the patterns under the key asks for it. -/
def keyRegexFor (key : String) (patterns : List Pattern) : Except Regex.Fault (Option Regex) :=
  if patterns.any (·.spec.keyRegex) then (Regex.ofString? key).map some else .ok none

structure KeyedPatterns where
  key : String
  patterns : List Pattern
  keyRegex : Option Regex
  compiled : keyRegexFor key patterns = .ok keyRegex

namespace KeyedPatterns

def ofPatterns? (key : String) (patterns : List Pattern) : Except Regex.Fault KeyedPatterns :=
  match h : keyRegexFor key patterns with
  | .ok keyRegex => .ok ⟨key, patterns, keyRegex, h⟩
  | .error e => .error e

theorem ext_patterns {a b : KeyedPatterns} (hk : a.key = b.key) (hp : a.patterns = b.patterns) :
    a = b := by
  obtain ⟨k, p, r, hr⟩ := a
  obtain ⟨_, _, r', hr'⟩ := b
  cases hk
  cases hp
  have : r = r' := by
    have := hr.symm.trans hr'
    injection this
  subst this
  rfl

end KeyedPatterns

inductive Matcher where
  | scalar (patterns : List Pattern)
  | list (patterns : List Pattern)
  | keyed (entries : List KeyedPatterns)

namespace Matcher

def patternCount : Matcher → Nat
  | .scalar patterns => patterns.length
  | .list patterns => patterns.length
  | .keyed entries => entries.foldl (fun n e => n + e.patterns.length) 0

def isEmpty (m : Matcher) : Bool := m.patternCount = 0

def shape : Matcher → Shape
  | .scalar _ => .scalar
  | .list _ => .list
  | .keyed _ => .keyed

end Matcher

structure Relation where
  target : String
  confidence : Confidence
deriving DecidableEq

structure Profile where
  name : String
  slug : String
  description : Option String := none
  website : Option String := none
  cpe : Option String := none
  icon : String
  categories : List String := []
deriving DecidableEq

structure Signature where
  profile : Profile
  matchers : SortedMap Field Matcher
  implies : List Relation
  excludes : List Relation

namespace Signature

def name (s : Signature) : String := s.profile.name

def hasRelations (s : Signature) : Bool := !s.implies.isEmpty || !s.excludes.isEmpty

def jsKeys (s : Signature) : List String :=
  match s.matchers.get? .js with
  | some (.keyed entries) => entries.map (·.key)
  | _ => []

end Signature

/-! ## JSON form -/

open Json (Value)

def Pattern.toJson (p : Pattern) : Value := p.spec.toJson

def KeyedPatterns.toJson (e : KeyedPatterns) : Value :=
  .object [("key", .string e.key), ("patterns", .array (e.patterns.map Pattern.toJson))]

def Matcher.toJson (m : Matcher) : Value :=
  let patterns := match m with
    | .scalar patterns => patterns.map Pattern.toJson
    | .list patterns => patterns.map Pattern.toJson
    | .keyed entries => entries.map KeyedPatterns.toJson
  .object [("shape", .string m.shape.name), ("patterns", .array patterns)]

def Relation.toJson (r : Relation) : Value :=
  .object [("target", .string r.target), ("confidence", .int r.confidence.value)]

def Profile.members (p : Profile) : List (String × Value) :=
  [("name", .string p.name), ("slug", .string p.slug),
    ("description", .ofOption .string p.description), ("website", .ofOption .string p.website),
    ("cpe", .ofOption .string p.cpe), ("icon", .string p.icon),
    ("categories", .strings p.categories)]

def Signature.toJson (s : Signature) : Value :=
  .object <| s.profile.members ++
    [("matchers", .object (s.matchers.entries.map fun e => (e.1.name, e.2.toJson))),
      ("implies", .array (s.implies.map Relation.toJson)),
      ("excludes", .array (s.excludes.map Relation.toJson))]

namespace Json.Decode

structure KeyedDraft where
  key : Option String := none
  patterns : Option (List Pattern) := none

def keyedStep (depth : Nat) (d : KeyedDraft) (key : String) (r : Reading) :
    Except Fault KeyedDraft :=
  match key with
  | "key" => (once d.key text depth r).map fun v => { d with key := v }
  | "patterns" => (once d.patterns (list pattern) depth r).map fun v => { d with patterns := v }
  | _ => (skip r).map fun _ => d

def keyedPatterns : Decoder KeyedPatterns := fun depth r => do
  let d ← record ["key", "patterns"] keyedStep {} depth r
  let key ← required d.key
  let patterns ← required d.patterns
  compiled (KeyedPatterns.ofPatterns? key patterns)

def matcherOf : Shape → Decoder Matcher
  | .scalar => fun depth r => (list pattern depth r).map .scalar
  | .list => fun depth r => (list pattern depth r).map .list
  | .keyed => fun depth r => (list keyedPatterns depth r).map .keyed

/-- What has been read of a matcher: patterns that come before the shape wait for it. -/
structure MatcherDraft where
  shape : Option Shape := none
  waiting : Option Reading := none
  matcher : Option Matcher := none

def matcherStep (depth : Nat) (d : MatcherDraft) (key : String) (r : Reading) :
    Except Fault MatcherDraft :=
  match key with
  | "shape" => do
    let shape ← once d.shape (name Shape.ofName?) depth r
    match shape, d.waiting with
    | some s, some w => do
      let m ← matcherOf s depth w
      return { d with shape, matcher := some m }
    | _, _ => return { d with shape }
  | "patterns" =>
    if d.matcher.isSome || d.waiting.isSome then .error .mismatch
    else match d.shape with
      | some s => (matcherOf s depth r).map fun m => { d with matcher := some m }
      | none => (value depth r).map fun _ => { d with waiting := some r }
  | _ => (skip r).map fun _ => d

def matcher : Decoder Matcher := fun depth r => do
  let d ← record ["shape", "patterns"] matcherStep {} depth r
  required d.matcher

def matchers : Decoder (SortedMap Field Matcher) :=
  object (fun depth m key r => do
    let field ← required (Field.ofName? key)
    let a ← matcher depth r
    return m.insert field a) .empty

structure RelationDraft where
  target : Option String := none
  confidence : Option Confidence := none

def relationStep (depth : Nat) (d : RelationDraft) (key : String) (r : Reading) :
    Except Fault RelationDraft :=
  match key with
  | "target" => (once d.target text depth r).map fun v => { d with target := v }
  | "confidence" => (once d.confidence confidence depth r).map fun v => { d with confidence := v }
  | _ => (skip r).map fun _ => d

def relation : Decoder Relation := fun depth r => do
  let d ← record ["target", "confidence"] relationStep {} depth r
  let target ← required d.target
  let confidence ← required d.confidence
  return ⟨target, confidence⟩

structure ProfileDraft where
  name : Option String := none
  slug : Option String := none
  description : Option (Option String) := none
  website : Option (Option String) := none
  cpe : Option (Option String) := none
  icon : Option String := none
  categories : Option (List String) := none

def profileStep (depth : Nat) (d : ProfileDraft) (key : String) (r : Reading) :
    Except Fault ProfileDraft :=
  match key with
  | "name" => (once d.name text depth r).map fun v => { d with name := v }
  | "slug" => (once d.slug text depth r).map fun v => { d with slug := v }
  | "description" =>
    (once d.description (nullable text) depth r).map fun v => { d with description := v }
  | "website" => (once d.website (nullable text) depth r).map fun v => { d with website := v }
  | "cpe" => (once d.cpe (nullable text) depth r).map fun v => { d with cpe := v }
  | "icon" => (once d.icon text depth r).map fun v => { d with icon := v }
  | "categories" =>
    (once d.categories (list text) depth r).map fun v => { d with categories := v }
  | _ => .ok d

def ProfileDraft.finish (d : ProfileDraft) : Except Fault Profile := do
  let name ← required d.name
  let slug ← required d.slug
  let icon ← required d.icon
  return {
    name, slug, icon
    description := d.description.getD none
    website := d.website.getD none
    cpe := d.cpe.getD none
    categories := d.categories.getD [] }

/-- What has been read of a signature. The members of the profile stand beside the others and are
looked at last. -/
structure SignatureDraft where
  matchers : Option (SortedMap Field Matcher) := none
  implies : Option (List Relation) := none
  excludes : Option (List Relation) := none
  others : List (Option String × Reading) := []

def signatureStep (depth : Nat) (d : SignatureDraft) (key : String) (r : Reading) :
    Except Fault SignatureDraft :=
  match key with
  | "matchers" => (once d.matchers matchers depth r).map fun v => { d with matchers := v }
  | "implies" => (once d.implies (list relation) depth r).map fun v => { d with implies := v }
  | "excludes" => (once d.excludes (list relation) depth r).map fun v => { d with excludes := v }
  | _ => (value depth r).map fun _ => { d with others := d.others ++ [(some key, r)] }

def signature : Decoder Signature := fun depth r => do
  let d ← object signatureStep {} depth r
  let p ← foldMembers (profileStep maxDepth) {} d.others
  let profile ← p.finish
  return {
    profile
    matchers := d.matchers.getD .empty
    implies := d.implies.getD []
    excludes := d.excludes.getD [] }

end Json.Decode

end Webprint
