import Webprint.Proofs.Occurrences

set_option autoImplicit false

/-!
# Findings under a key

What a catalogue finds of a technology in a field is what the matcher of that field finds. Of a field
with keys, the findings under one key are those of the entry with the key: each of its patterns leaves
a record for every value that it is tried on and accepts.
-/

namespace Webprint.Matching

/-! ## Findings of one field -/

theorem findings_about (c : Catalogue) (s : Snapshot) (name : String) :
    ((findings c s).filter fun x => x.evidence.technology = name) =
      (c.get? name).toList.flatMap (matchSignature s) := by
  have hown : ∀ sig ∈ c.signatures, ∀ x ∈ matchSignature s sig, x.evidence.technology = sig.name := by
    intro sig _ x hx
    exact (signatureEvidence_spec x.evidence (List.mem_map_of_mem hx)).1
  rw [findings, filter_flatMap_of_key hown, Catalogue.filter_name]

theorem matchSignature_in (s : Snapshot) (sig : Signature) (f : Field) :
    ((matchSignature s sig).filter fun x => x.evidence.origin = .matched f) =
      (sig.matchers.get? f).toList.flatMap (matchField sig.name s f) := by
  have hown : ∀ m ∈ sig.matchers.entries, ∀ x ∈ matchField sig.name s m.1 m.2,
      x.evidence.origin = .matched m.1 := fun m _ x hx => (concerns_matchField x hx).2
  have hentries : (sig.matchers.entries.filter fun m => Origin.matched m.1 = .matched f) =
      (sig.matchers.entries.find? fun m => m.1 = f).toList := by
    rw [← filter_eq_find?_of_nodup (nodup_of_ascending sig.matchers.ascending)]
    simp only [Origin.matched.injEq]
  rw [matchSignature, filter_flatMap_of_key hown, hentries, SortedMap.get?]
  cases h : sig.matchers.entries.find? fun m => m.1 = f with
  | none => rfl
  | some m =>
    obtain rfl : m.1 = f := by simpa using List.find?_some h
    simp

theorem findings_in (c : Catalogue) (s : Snapshot) (name : String) (f : Field) :
    ((findings c s).filter fun x =>
        x.evidence.technology = name ∧ x.evidence.origin = .matched f) =
      (c.get? name).toList.flatMap fun sig =>
        (sig.matchers.get? f).toList.flatMap (matchField sig.name s f) := by
  have hsteps : ((findings c s).filter fun x =>
      x.evidence.technology = name ∧ x.evidence.origin = .matched f) =
      ((findings c s).filter fun x => x.evidence.technology = name).filter
        fun x => x.evidence.origin = .matched f := by
    rw [List.filter_filter]
    refine List.filter_congr fun x _ => ?_
    simp [Bool.and_comm]
  rw [hsteps, findings_about, List.filter_flatMap]
  simp only [matchSignature_in]

/-! ## Findings of one entry -/

section Entry

variable {α : Type} {technology : String} {f : Field} {candidate : α → Candidate}
  {values : MultiMap α} {e : KeyedPatterns} {es : List KeyedPatterns}

theorem valuesFor_exact {p : Pattern} (h : p.spec.keyRegex = false) (values : MultiMap α) :
    valuesFor e p values = (values.get? e.key).getD [] := by
  rw [valuesFor, h]
  cases e.keyRegex <;> rfl

def matchEntry (candidate : α → Candidate) (technology : String) (f : Field) (values : MultiMap α)
    (e : KeyedPatterns) : List Finding :=
  e.patterns.flatMap fun p =>
    (valuesFor e p values).flatMap fun v => test technology f (some e.key) p (candidate v)

theorem key_of_mem_matchEntry {x : Finding} (hx : x ∈ matchEntry candidate technology f values e) :
    x.evidence.key = some e.key := by
  simp only [matchEntry, List.mem_flatMap] at hx
  obtain ⟨p, -, v, -, hx⟩ := hx
  obtain ⟨version, rfl⟩ := eq_of_mem_test hx
  rfl

theorem filter_matchKeyed_key (hnodup : (es.map (·.key)).Nodup) (he : e ∈ es) :
    ((matchKeyed candidate technology f es values).filter fun x => x.evidence.key = some e.key) =
      matchEntry candidate technology f values e := by
  have hown : ∀ d ∈ es, ∀ x ∈ matchEntry candidate technology f values d,
      x.evidence.key = some d.key := fun _ _ _ hx => key_of_mem_matchEntry hx
  have hfind : es.find? (fun d => d.key = e.key) = some e :=
    (find?_eq_some_iff_of_nodup hnodup).2 ⟨he, rfl⟩
  change ((es.flatMap (matchEntry candidate technology f values)).filter _) = _
  rw [filter_flatMap_of_key hown]
  simp only [Option.some.injEq]
  rw [filter_eq_find?_of_nodup hnodup, hfind]
  simp

theorem filter_patterns (expression : Bool) :
    ((matchEntry candidate technology f values e).filter
        fun x => x.pattern.spec.keyRegex = expression) =
      (e.patterns.filter fun p => p.spec.keyRegex = expression).flatMap fun p =>
        (valuesFor e p values).flatMap fun v => test technology f (some e.key) p (candidate v) := by
  refine filter_flatMap_of_key (fun p _ x hx => ?_) expression
  obtain ⟨v, -, hx⟩ := List.mem_flatMap.1 hx
  obtain ⟨version, rfl⟩ := eq_of_mem_test hx
  rfl

end Entry

/-! ## Records -/

theorem flatMap_ite_singleton {α β : Type} (as : List α) (p : α → Prop) [DecidablePred p] (f : α → β) :
    (as.flatMap fun a => if p a then [f a] else []) = (as.filter fun a => p a).map f := by
  induction as with
  | nil => rfl
  | cons a as ih =>
    rw [List.flatMap_cons, ih]
    by_cases h : p a <;> simp [h]

/-- What a pattern under a key records of the texts that it is tried on. -/
def recordsOn (technology : String) (f : Field) (key : String) (p : Pattern) (texts : List String) :
    List Evidence :=
  (texts.filter fun t => p.isMatch t).map fun t =>
    noted technology f (some key) p ((Version.resolve? p.spec.version p.regex t).getD "")

theorem evidence_flatMap_test (technology : String) (f : Field) (key : String) (p : Pattern)
    (texts : List String) :
    ((texts.flatMap fun t => test technology f (some key) p (.text t)).map (·.evidence)) =
      recordsOn technology f key p texts := by
  have haccepts (t : String) : Accepts p (.text t) ↔ p.isMatch t = true := Iff.rfl
  rw [List.map_flatMap]
  simp only [evidence_test, haccepts, versionOf?]
  rw [flatMap_ite_singleton]
  simp [recordsOn]

/-- The findings about a technology in a field, under a key, of patterns that do or do not take the
key for an expression. -/
def findingsUnder (c : Catalogue) (s : Snapshot) (technology : String) (f : Field) (key : String)
    (expression : Bool) : List Finding :=
  (findings c s).filter fun x =>
    x.evidence.technology = technology ∧ x.evidence.origin = .matched f ∧
      x.evidence.key = some key ∧ x.pattern.spec.keyRegex = expression

theorem evidence_findingsUnder {c : Catalogue} {s : Snapshot} {technology : String}
    {sig : Signature} {f : Field} {es : List KeyedPatterns} {e : KeyedPatterns}
    {values : MultiMap String} (hsig : c.get? technology = some sig)
    (hm : sig.matchers.get? f = some (.keyed es)) (hnodup : (es.map (·.key)).Nodup) (he : e ∈ es)
    (hvalues : s.keyed f = some values) (expression : Bool) :
    (findingsUnder c s technology f e.key expression).map (·.evidence) =
      (e.patterns.filter fun p => p.spec.keyRegex = expression).flatMap fun p =>
        recordsOn technology f e.key p (valuesFor e p values) := by
  have hjs : f ≠ .js := by
    rintro rfl
    cases hvalues
  obtain ⟨-, rfl⟩ := Catalogue.get?_eq_some.1 hsig
  have hfield : matchField sig.name s f (.keyed es) =
      matchKeyed Candidate.text sig.name f es values := by
    simp only [matchField, if_neg hjs, hvalues]
  have hsteps : findingsUnder c s sig.name f e.key expression =
      (((findings c s).filter fun x =>
        x.evidence.technology = sig.name ∧ x.evidence.origin = .matched f).filter
          fun x => x.evidence.key = some e.key).filter
            fun x => x.pattern.spec.keyRegex = expression := by
    rw [findingsUnder, List.filter_filter, List.filter_filter]
    refine List.filter_congr fun x _ => ?_
    simp only [Bool.decide_and, Bool.and_comm, Bool.and_assoc]
  rw [hsteps, findings_in, hsig, Option.toList_some, List.flatMap_singleton, hm, Option.toList_some,
    List.flatMap_singleton, hfield, filter_matchKeyed_key hnodup he, filter_patterns,
    List.map_flatMap]
  simp only [evidence_flatMap_test]

end Webprint.Matching
