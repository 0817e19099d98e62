import Webprint.Confidence
import Webprint.SortedMap
import Webprint.Json.Decode
import Webprint.Regex.Basic
import Webprint.Text.Blank

set_option autoImplicit false

/-!
# Patterns

A pattern is a regular expression with a weight and a template for the version that its groups give.
What is written of a pattern is its specification; the compiled expression follows from it.
-/

namespace Webprint

structure PatternSpec where
  regex : String
  confidence : Confidence := .standard
  version : String := ""
  /-- The key under which the pattern stands is itself a regular expression. -/
  keyRegex : Bool := false
  /-- Attributes without a meaning of their own. -/
  attributes : SortedMap String String := .empty
deriving DecidableEq

structure Pattern where
  spec : PatternSpec
  regex : Regex
  compiled : Regex.ofString? spec.regex = .ok regex

namespace Pattern

def ofSpec? (spec : PatternSpec) : Except Regex.Fault Pattern :=
  match h : Regex.ofString? spec.regex with
  | .ok regex => .ok ⟨spec, regex, h⟩
  | .error e => .error e

theorem ext_spec {p q : Pattern} (h : p.spec = q.spec) : p = q := by
  obtain ⟨spec, r, hr⟩ := p
  obtain ⟨_, r', hr'⟩ := q
  cases h
  have : r = r' := by
    have := hr.symm.trans hr'
    injection this
  subst this
  rfl

theorem ofSpec?_spec (p : Pattern) : ofSpec? p.spec = .ok p := by
  unfold ofSpec?
  split
  · exact congrArg _ (ext_spec rfl)
  · rename_i h
    rw [p.compiled] at h
    cases h

def isMatch (p : Pattern) (s : String) : Bool := p.regex.isMatch s.toList

def hasVersion (p : Pattern) : Bool := !(Text.trim p.spec.version.toList).isEmpty

end Pattern

namespace PatternSpec

def toJson (s : PatternSpec) : Json.Value :=
  .object <|
    [("regex", .string s.regex), ("confidence", .int s.confidence.value),
      ("version", .string s.version)]
    ++ (if s.keyRegex then [("key_regex", .bool true)] else [])
    ++ (if s.attributes.isEmpty then []
        else [("attributes", .object (s.attributes.entries.map fun e => (e.1, .string e.2)))])

end PatternSpec

namespace Json.Decode

def confidence : Decoder Confidence := fun depth r => do
  let i ← integer Confidence.least (Confidence.greatest + 1) depth r
  return .clamp i

structure PatternSpecDraft where
  regex : Option String := none
  confidence : Option Confidence := none
  version : Option String := none
  keyRegex : Option Bool := none
  attributes : Option (SortedMap String String) := none

def patternSpecStep (depth : Nat) (d : PatternSpecDraft) (key : String) (r : Reading) :
    Except Fault PatternSpecDraft :=
  match key with
  | "regex" => (once d.regex text depth r).map fun v => { d with regex := v }
  | "confidence" => (once d.confidence confidence depth r).map fun v => { d with confidence := v }
  | "version" => (once d.version text depth r).map fun v => { d with version := v }
  | "key_regex" => (once d.keyRegex bool depth r).map fun v => { d with keyRegex := v }
  | "attributes" =>
    (once d.attributes (sortedMap text) depth r).map fun v => { d with attributes := v }
  | _ => (skip r).map fun _ => d

def patternSpec : Decoder PatternSpec := fun depth r => do
  let d ← record ["regex", "confidence", "version", "key_regex", "attributes"] patternSpecStep {}
    depth r
  let regex ← required d.regex
  return {
    regex
    confidence := d.confidence.getD .standard
    version := d.version.getD ""
    keyRegex := d.keyRegex.getD false
    attributes := d.attributes.getD .empty }

def compiled {ε α : Type} : Except ε α → Except Fault α
  | .ok a => .ok a
  | .error _ => .error .mismatch

def pattern : Decoder Pattern := fun depth r => do
  let spec ← patternSpec depth r
  compiled (Pattern.ofSpec? spec)

end Json.Decode

end Webprint
