import Webprint.Proofs.Discovery
import Webprint.Proofs.Version

set_option autoImplicit false

/-!
# Where patterns meet values

A spot is a place in the search: a technology, one of its fields, and a path of positions within the
field. `Meets` says which pattern meets which value at a spot. The evidence of a page is the list of
what is recorded at all spots where the pattern accepts the value, each spot once, in the order of
the spots.
-/

namespace Webprint

namespace Matching

/-! ## Spots -/

/-- A place in the search. The path counts patterns in a field with one text; texts, then patterns in
a field with a list; and entries, then patterns, then candidate values in a field with keys. -/
structure Spot where
  technology : String
  field : Field
  path : List Nat

/-- Spots are ordered by technology, then by field, then by path. -/
def Spot.Before (a b : Spot) : Prop :=
  a.technology < b.technology ∨
    a.technology = b.technology ∧ (a.field < b.field ∨ a.field = b.field ∧ a.path < b.path)

def keyMatches (key name : String) : Bool :=
  match Regex.ofString? key with
  | .ok r => r.isMatch name.toList
  | .error _ => false

/-- The values for a pattern under a key: those under all names that the key matches as an expression,
in the order of names, if the pattern says so, and otherwise those under the key itself. -/
def candidates {α : Type} (key : String) (p : Pattern) (values : MultiMap α) : List α :=
  if p.spec.keyRegex then (values.entries.filter fun e => keyMatches key e.1).flatMap (·.2)
  else (values.get? key).getD []

/-- The text of a variable that is no truth value: a number in decimal, or a string as it is. -/
def textOf? : JsValue → Option String
  | .bool _ => none
  | .number n => some n.text
  | .string t => some t

/-- A pattern accepts a text that its expression matches, and whatever is merely there. -/
def Accepts (p : Pattern) : Candidate → Prop
  | .text t => p.isMatch t = true
  | .presence => True
  | .absent => False

def versionOf? (p : Pattern) : Candidate → Option String
  | .text t => Version.resolve? p.spec.version p.regex t
  | .presence => some ""
  | .absent => none

/-- What is noted when a pattern accepts a value. -/
def noted (technology : String) (f : Field) (key : Option String) (p : Pattern)
    (version : String) : Evidence :=
  ⟨key, .matched f, technology, p.spec.confidence, p.spec.version, version⟩

/-- A blank template is not filled in; it would give an empty version. -/
theorem versionIn_eq (p : Pattern) (t : String) :
    versionIn p t = (Version.resolve? p.spec.version p.regex t).getD "" := by
  unfold versionIn
  by_cases h : p.hasVersion
  · rw [if_pos h]
  · have hblank : Text.trim p.spec.version.toList = [] := by
      simpa [Pattern.hasVersion] using h
    rw [if_neg h, Version.resolve?]
    cases p.regex.captures t.toList with
    | none => rfl
    | some captures => simp [Version.fill_of_blank hblank]

instance (p : Pattern) (v : Candidate) : Decidable (Accepts p v) :=
  match v with
  | .text t => inferInstanceAs (Decidable (p.isMatch t = true))
  | .presence => isTrue trivial
  | .absent => isFalse id

theorem evidence_test (technology : String) (f : Field) (key : Option String) (p : Pattern)
    (v : Candidate) : (test technology f key p v).map (·.evidence) =
      if Accepts p v then [noted technology f key p ((versionOf? p v).getD "")] else [] := by
  cases v with
  | absent => rfl
  | presence => rfl
  | text t =>
    by_cases h : p.isMatch t = true
    · have haccepts : Accepts p (.text t) := h
      simp [test, h, if_pos haccepts, versionIn_eq, noted, versionOf?]
    · have hrejects : ¬ Accepts p (.text t) := h
      simp [test, h, if_neg hrejects]

theorem length_test_le (technology : String) (f : Field) (key : Option String) (p : Pattern)
    (v : Candidate) : (test technology f key p v).length ≤ 1 := by
  have hlength := congrArg List.length (evidence_test technology f key p v)
  rw [List.length_map] at hlength
  rw [hlength]
  split <;> simp

/-- A pattern of an entry is tried on its candidates: an entry has an expression for its key as soon as
one of its patterns asks for it. -/
theorem valuesFor_eq_candidates {α : Type} {e : KeyedPatterns} {p : Pattern} (h : p ∈ e.patterns)
    (values : MultiMap α) : valuesFor e p values = candidates e.key p values := by
  unfold valuesFor candidates
  cases hflag : p.spec.keyRegex with
  | false => simp
  | true =>
    have hany : e.patterns.any (·.spec.keyRegex) = true := List.any_eq_true.2 ⟨p, h, hflag⟩
    have hcompiled := e.compiled
    rw [keyRegexFor, if_pos hany] at hcompiled
    cases hkey : Regex.ofString? e.key with
    | error fault => rw [hkey] at hcompiled; cases hcompiled
    | ok r =>
      have hr : e.keyRegex = some r := by
        rw [hkey] at hcompiled
        injection hcompiled with hcompiled
        exact hcompiled.symm
      simp only [hr, keyMatches, hkey, ↓reduceIte]
      induction values.entries with
      | nil => rfl
      | cons x xs ih =>
        rw [List.flatMap_cons, List.filter_cons, ih]
        by_cases hx : r.isMatch x.1.toList = true
        · simp [hx]
        · simp [hx]

/-! ## Evidence with its spots -/

def locatedTest (technology : String) (f : Field) (key : Option String) (p : Pattern)
    (v : Candidate) : List (List Nat × Evidence) :=
  (test technology f key p v).map fun x => ([], x.evidence)

def locatedKeyed {α : Type} (candidate : α → Candidate) (technology : String) (f : Field)
    (es : List KeyedPatterns) (values : MultiMap α) : List (List Nat × Evidence) :=
  numbered es fun e => numbered e.patterns fun p =>
    numbered (valuesFor e p values) fun v => locatedTest technology f (some e.key) p (candidate v)

def locatedField (technology : String) (s : Snapshot) (f : Field) (m : Matcher) :
    List (List Nat × Evidence) :=
  match m with
  | .scalar ps =>
    match s.scalar f with
    | none => []
    | some text => numbered ps fun p => locatedTest technology f none p (.text text)
  | .list ps =>
    numbered (s.list f) fun text => numbered ps fun p =>
      locatedTest technology f none p (.text text)
  | .keyed es =>
    if f = .js then
      match s.jsFor technology with
      | none => []
      | some globals => locatedKeyed JsValue.candidate technology f es globals
    else match s.keyed f with
      | none => []
      | some values => locatedKeyed Candidate.text technology f es values

def located (c : Catalogue) (s : Snapshot) : List (Spot × Evidence) :=
  c.signatures.flatMap fun sig => sig.matchers.entries.flatMap fun m =>
    (locatedField sig.name s m.1 m.2).map fun x => (⟨sig.name, m.1, x.1⟩, x.2)

theorem ascending_locatedTest (technology : String) (f : Field) (key : Option String) (p : Pattern)
    (v : Candidate) : (locatedTest technology f key p v).Pairwise fun x y => x.1 < y.1 := by
  have hlength : (locatedTest technology f key p v).length ≤ 1 := by
    rw [locatedTest, List.length_map]
    exact length_test_le technology f key p v
  cases h : locatedTest technology f key p v with
  | nil => exact .nil
  | cons x xs =>
    have hnone : xs = [] := by simpa [h] using hlength
    rw [hnone]
    exact List.pairwise_singleton _ _

theorem ascending_locatedKeyed {α : Type} (candidate : α → Candidate) (technology : String)
    (f : Field) (es : List KeyedPatterns) (values : MultiMap α) :
    (locatedKeyed candidate technology f es values).Pairwise fun x y => x.1 < y.1 :=
  ascending_numbered fun _ _ => ascending_numbered fun _ _ => ascending_numbered fun _ _ =>
    ascending_locatedTest ..

theorem ascending_locatedField (technology : String) (s : Snapshot) (f : Field) (m : Matcher) :
    (locatedField technology s f m).Pairwise fun x y => x.1 < y.1 := by
  cases m with
  | scalar ps =>
    simp only [locatedField]
    cases s.scalar f with
    | none => exact .nil
    | some text => exact ascending_numbered fun _ _ => ascending_locatedTest ..
  | list ps =>
    simp only [locatedField]
    exact ascending_numbered fun _ _ => ascending_numbered fun _ _ => ascending_locatedTest ..
  | keyed es =>
    simp only [locatedField]
    by_cases hjs : f = .js
    · rw [if_pos hjs]
      cases s.jsFor technology with
      | none => exact .nil
      | some globals => exact ascending_locatedKeyed ..
    · rw [if_neg hjs]
      cases s.keyed f with
      | none => exact .nil
      | some values => exact ascending_locatedKeyed ..

theorem ascending_located (c : Catalogue) (s : Snapshot) :
    (located c s).Pairwise fun x y => x.1.Before y.1 := by
  rw [located, List.pairwise_flatMap]
  refine ⟨fun sig _ => ?_, c.ascending.imp fun hlt => ?_⟩
  · -- within a signature the fields ascend, and within a field the paths
    rw [List.pairwise_flatMap]
    refine ⟨fun m _ => ?_, sig.matchers.ascending.imp fun hlt => ?_⟩
    · rw [List.pairwise_map]
      exact (ascending_locatedField sig.name s m.1 m.2).imp fun hpath =>
        .inr ⟨rfl, .inr ⟨rfl, hpath⟩⟩
    · intro x hx y hy
      obtain ⟨_, -, rfl⟩ := List.mem_map.1 hx
      obtain ⟨_, -, rfl⟩ := List.mem_map.1 hy
      exact .inr ⟨rfl, .inl hlt⟩
  · intro x hx y hy
    obtain ⟨_, -, hx⟩ := List.mem_flatMap.1 hx
    obtain ⟨_, -, hy⟩ := List.mem_flatMap.1 hy
    obtain ⟨_, -, rfl⟩ := List.mem_map.1 hx
    obtain ⟨_, -, rfl⟩ := List.mem_map.1 hy
    exact .inl hlt

/-! ## What is recorded -/

theorem mem_located {c : Catalogue} {s : Snapshot} {spot : Spot} {e : Evidence} :
    (spot, e) ∈ located c s ↔
      ∃ sig m, sig ∈ c.signatures ∧ sig.matchers.get? spot.field = some m ∧
        sig.name = spot.technology ∧ (spot.path, e) ∈ locatedField sig.name s spot.field m := by
  simp only [located, List.mem_flatMap, List.mem_map]
  constructor
  · rintro ⟨sig, hsig, ⟨f, m⟩, hm, ⟨path, e'⟩, hx, heq⟩
    cases heq
    exact ⟨sig, m, hsig, SortedMap.get?_eq_some.2 hm, rfl, hx⟩
  · rintro ⟨sig, m, hsig, hm, hname, hx⟩
    refine ⟨sig, hsig, (spot.field, m), SortedMap.get?_eq_some.1 hm, (spot.path, e), hx, ?_⟩
    rw [hname]

end Matching

end Webprint
