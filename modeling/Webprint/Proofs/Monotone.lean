import Mathlib.Data.List.Flatten
import Webprint.Proofs.Analysis

set_option autoImplicit false

/-!
# Pages that show more

A page that shows all that another one shows, in the same order, gives all of its evidence, in the
same order, and no technology that was reported is lost. More evidence may turn an implied technology
into one that is found, and may bring exclusions, but these never take a report away.
-/

namespace Webprint

/-- What the first map has under a key, the second one has there too, in the same order. -/
def MultiMap.Within {α : Type} (m n : MultiMap α) : Prop :=
  ∀ k, ((m.get? k).getD []).Sublist ((n.get? k).getD [])

/-- What the first page shows, the second one shows too: the same texts, and in each list all values
in the same order. -/
structure Snapshot.Within (s t : Snapshot) : Prop where
  scalar : ∀ f, s.scalar f = none ∨ s.scalar f = t.scalar f
  scripts : s.scripts.Sublist t.scripts
  headers : s.headers.Within t.headers
  cookies : s.cookies.Within t.cookies
  metaTags : s.metaTags.Within t.metaTags
  js : ∀ technology,
    ((s.jsFor technology).getD .empty).Within ((t.jsFor technology).getD .empty)

theorem Snapshot.jsFor_withJs (s : Snapshot) (technology key : String) (value : JsValue) (name : String) :
    (s.withJs technology key value).jsFor name =
      if technology = name then some (((s.jsFor technology).getD .empty).insert key [value])
      else s.jsFor name :=
  SortedMap.get?_insert ..

/-! ## Maps -/

namespace MultiMap

variable {α : Type}

theorem flatMap_entries (m : MultiMap α) (p : String → Bool) :
    (m.entries.flatMap fun e => if p e.1 then e.2 else []) =
      m.keys.flatMap fun k => if p k then (m.get? k).getD [] else [] := by
  rw [SortedMap.keys, List.flatMap_map]
  refine List.flatMap_congr fun e he => ?_
  have hget : m.get? e.1 = some e.2 := SortedMap.get?_eq_some.2 he
  simp [hget]

theorem ascending_keys (m : MultiMap α) : Ascending id m.keys :=
  List.pairwise_map.2 m.ascending

theorem mem_keys_of_get?_ne {m : MultiMap α} {k : String} (h : (m.get? k).getD [] ≠ []) :
    k ∈ m.keys := by
  cases hget : m.get? k with
  | none => simp [hget] at h
  | some vs => exact List.mem_map.2 ⟨(k, vs), SortedMap.get?_eq_some.1 hget, rfl⟩

/-- The values under all keys that satisfy a condition. Keys without values do not count, and the
others stand in the larger map in the same order. -/
theorem Within.flatMap_entries {m n : MultiMap α} (h : m.Within n) (p : String → Bool) :
    (m.entries.flatMap fun e => if p e.1 then e.2 else []).Sublist
      (n.entries.flatMap fun e => if p e.1 then e.2 else []) := by
  have hvalues (k : String) : (if p k then (m.get? k).getD [] else []).Sublist
      (if p k then (n.get? k).getD [] else []) := by
    by_cases hk : p k
    · rw [if_pos hk, if_pos hk]
      exact h k
    · rw [if_neg hk, if_neg hk]
  have hkeys : (m.keys.filter fun k => !((m.get? k).getD []).isEmpty).Sublist n.keys := by
    refine sublist_of_ascending (m.ascending_keys.filter _) n.ascending_keys fun k hk => ?_
    have hne : (m.get? k).getD [] ≠ [] := by simpa using (List.mem_filter.1 hk).2
    refine mem_keys_of_get?_ne fun hnil => hne ?_
    have hk := h k
    rwa [hnil, List.sublist_nil] at hk
  have hfilter : ∀ k ∈ m.keys, (!((m.get? k).getD []).isEmpty) = false →
      (if p k then (m.get? k).getD [] else []) = [] := by
    intro k _ hk
    have hnil : (m.get? k).getD [] = [] := by simpa using hk
    simp [hnil]
  rw [MultiMap.flatMap_entries, MultiMap.flatMap_entries, ← flatMap_filter_of_nil hfilter]
  exact (List.Sublist.flatMap_right _ fun k _ => hvalues k).trans (hkeys.flatMap _)

end MultiMap

/-! ## Matching -/

namespace Matching

theorem valuesFor_sublist {α : Type} (e : KeyedPatterns) (p : Pattern) {m n : MultiMap α}
    (h : m.Within n) : (valuesFor e p m).Sublist (valuesFor e p n) := by
  unfold valuesFor
  split
  · rename_i r _ _
    exact h.flatMap_entries fun k => r.isMatch k.toList
  · exact h e.key

theorem matchKeyed_sublist {α : Type} (candidate : α → Candidate) (technology : String) (f : Field)
    (es : List KeyedPatterns) {m n : MultiMap α} (h : m.Within n) :
    (matchKeyed candidate technology f es m).Sublist
      (matchKeyed candidate technology f es n) := by
  refine List.Sublist.flatMap_right _ fun e _ => List.Sublist.flatMap_right _ fun p _ => ?_
  exact (valuesFor_sublist e p h).flatMap _

theorem matchKeyed_empty {α : Type} (candidate : α → Candidate) (technology : String) (f : Field)
    (es : List KeyedPatterns) : matchKeyed candidate technology f es .empty = [] := by
  have hvalues (e : KeyedPatterns) (p : Pattern) :
      valuesFor e p (.empty : MultiMap α) = [] := by
    unfold valuesFor
    split <;> rfl
  simp [matchKeyed, hvalues]

theorem matchField_js (technology : String) (s : Snapshot) (es : List KeyedPatterns) :
    matchField technology s .js (.keyed es) =
      matchKeyed JsValue.candidate technology .js es ((s.jsFor technology).getD .empty) := by
  cases h : s.jsFor technology with
  | none => simp [matchField, h, matchKeyed_empty]
  | some globals => simp [matchField, h]

theorem keyed_within {s t : Snapshot} (h : s.Within t) (f : Field) :
    (s.keyed f = none ∧ t.keyed f = none) ∨
      ∃ m n, s.keyed f = some m ∧ t.keyed f = some n ∧ m.Within n := by
  cases f with
  | cookies => exact .inr ⟨_, _, rfl, rfl, h.cookies⟩
  | metaTags => exact .inr ⟨_, _, rfl, rfl, h.metaTags⟩
  | headers => exact .inr ⟨_, _, rfl, rfl, h.headers⟩
  | url | html | css | robots | certIssuer | scripts | js => exact .inl ⟨rfl, rfl⟩

theorem list_sublist {s t : Snapshot} (h : s.Within t) (f : Field) :
    (s.list f).Sublist (t.list f) := by
  cases f with
  | scripts => exact h.scripts
  | url | html | css | robots | certIssuer | cookies | metaTags | headers | js =>
    exact List.Sublist.refl _

theorem matchField_sublist (technology : String) {s t : Snapshot} (h : s.Within t) (f : Field)
    (m : Matcher) : (matchField technology s f m).Sublist (matchField technology t f m) := by
  cases m with
  | scalar ps =>
    rcases h.scalar f with hnone | heq
    · simp [matchField, hnone]
    · simp [matchField, heq]
  | list ps => exact (list_sublist h f).flatMap _
  | keyed es =>
    by_cases hjs : f = .js
    · subst hjs
      rw [matchField_js, matchField_js]
      exact matchKeyed_sublist _ _ _ _ (h.js technology)
    · rcases keyed_within h f with ⟨hs, ht⟩ | ⟨m, n, hs, ht, hmn⟩
      · simp [matchField, hjs, hs, ht]
      · simp only [matchField, hjs, hs, ht]
        exact matchKeyed_sublist _ _ _ _ hmn

theorem findings_sublist (c : Catalogue) {s t : Snapshot} (h : s.Within t) :
    (findings c s).Sublist (findings c t) := by
  refine List.Sublist.flatMap_right _ fun sig _ => List.Sublist.flatMap_right _ fun e _ => ?_
  exact matchField_sublist sig.name h e.1 e.2

theorem evidence_sublist (c : Catalogue) {s t : Snapshot} (h : s.Within t) :
    (evidence c s).Sublist (evidence c t) :=
  (findings_sublist c h).map _

end Matching

/-! ## Analysis -/

namespace Analysis

open Matching

theorem Direct.mono {c : Catalogue} {s t : Snapshot} {name : String} (h : s.Within t)
    (hdirect : Direct c s name) : Direct c t name := by
  obtain ⟨e, he, hname⟩ := hdirect
  exact ⟨e, (evidence_sublist c h).subset he, hname⟩

theorem Implied.mono {c : Catalogue} {s t : Snapshot} {name : String} (h : s.Within t)
    (himplied : Implied c s name) : Implied c t name := by
  obtain ⟨sig, hsig, hr⟩ := himplied
  obtain ⟨hin, hdirect⟩ := mem_found.1 hsig
  exact ⟨sig, mem_found.2 ⟨hin, Direct.mono h hdirect⟩, hr⟩

theorem mem_names_analyze {c : Catalogue} {s : Snapshot} {name : String} :
    name ∈ (analyze c s).map Detection.name ↔ Direct c s name ∨ Implied c s name := by
  rw [← mem_outcomeNames]
  exact (names_ofEvidence c (evidence c s)).mem_iff

/-- A page that shows more gives all of the evidence in the same order, and reports every technology
again. -/
theorem more_shown_more_found (c : Catalogue) {s t : Snapshot} (h : s.Within t) :
    (evidence c s).Sublist (evidence c t) ∧
      ∀ name ∈ (analyze c s).map Detection.name, name ∈ (analyze c t).map Detection.name := by
  refine ⟨evidence_sublist c h, fun name hname => ?_⟩
  rw [mem_names_analyze] at hname ⊢
  rcases hname with hdirect | himplied
  · exact .inl (Direct.mono h hdirect)
  · exact .inr (Implied.mono h himplied)

def lonePage : Snapshot := ({} : Snapshot).withJs "A" "version" (.bool true)

theorem within_withJs {s : Snapshot} {technology : String} (h : s.jsFor technology = none)
    (key : String) (value : JsValue) : s.Within (s.withJs technology key value) where
  scalar f := .inr (by cases f <;> rfl)
  scripts := List.Sublist.refl _
  headers _ := List.Sublist.refl _
  cookies _ := List.Sublist.refl _
  metaTags _ := List.Sublist.refl _
  js name k := by
    rw [Snapshot.jsFor_withJs]
    by_cases hname : technology = name
    · subst hname
      rw [h]
      exact List.nil_sublist _
    · rw [if_neg hname]

/-- The other one is only implied on that page, and found once its own variable is there. -/
theorem more_shown_more_found_couple :
    lonePage.Within couplePage ∧ Implied couple lonePage "B" ∧ ¬ Direct couple lonePage "B" ∧
      Direct couple couplePage "B" ∧
      (evidence couple lonePage).Sublist (evidence couple couplePage) ∧
      "B" ∈ (analyze couple couplePage).map Detection.name := by
  have hwithin : lonePage.Within couplePage := within_withJs (by decide +kernel) _ _
  have himplied : Implied couple lonePage "B" := by
    unfold Implied
    decide +kernel
  have hreported : "B" ∈ (analyze couple lonePage).map Detection.name :=
    mem_names_analyze.2 (.inr himplied)
  obtain ⟨hevidence, hnames⟩ := more_shown_more_found couple hwithin
  exact ⟨hwithin, himplied, by decide +kernel, by decide +kernel, hevidence, hnames "B" hreported⟩

end Analysis

end Webprint
