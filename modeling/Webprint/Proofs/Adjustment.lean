import Webprint.Proofs.Locality

set_option autoImplicit false

/-!
# Which way relations move a weight

A relation passes on the product of its own confidence and of what its technology weighs, and both may
be negative. An exclusion lowers a weight, and an implication raises it, exactly if that product is not
negative, apart from weights that are at the end of their range.
-/

namespace Webprint.Analysis

open Matching Relating Scoring

def HasOrigin (o : Origin) (d : Detection) : Prop := ∃ e ∈ d.evidence, e.origin = o

instance (o : Origin) (d : Detection) : Decidable (HasOrigin o d) :=
  inferInstanceAs (Decidable (∃ e ∈ d.evidence, e.origin = o))

def firstOf? (o : Origin) (d : Detection) : Option Evidence :=
  d.evidence.find? fun e => e.origin = o

theorem firstOf?_eq_none {o : Origin} {d : Detection} (h : ¬ HasOrigin o d) :
    firstOf? o d = none := by
  rw [firstOf?, List.find?_eq_none]
  intro e he heq
  exact h ⟨e, he, of_decide_eq_true heq⟩

theorem exists_firstOf? {o : Origin} {d : Detection} (h : HasOrigin o d) :
    ∃ e, firstOf? o d = some e := by
  rw [← Option.isSome_iff_exists, firstOf?, List.find?_isSome]
  obtain ⟨e, he, horigin⟩ := h
  exact ⟨e, he, decide_eq_true horigin⟩

/-! ## What the first relation passes on -/

variable {c : Catalogue} {s : Snapshot}

theorem impliedWeight_of_first {base : DetectionSet} {d : Detection} {e : Evidence} {w : Confidence}
    (h : firstOf? .implied d = some e) (hw : referredWeight base e = some w) :
    impliedWeight base d.evidence = w := by
  have hfind : d.evidence.find? (fun e => e.origin = .implied) = some e := h
  rw [impliedWeight, hfind, Option.bind_some, hw]
  rfl

theorem impliedWeight_of_none {d : Detection} (base : DetectionSet)
    (h : firstOf? .implied d = none) : impliedWeight base d.evidence = .zero := by
  have hfind : d.evidence.find? (fun e => e.origin = .implied) = none := h
  rw [impliedWeight, hfind]
  rfl

theorem excludedWeight_of_first {base : DetectionSet} {d : Detection} {e : Evidence} {w : Confidence}
    (h : firstOf? .excluded d = some e) (hw : referredWeight base e = some w) :
    excludedWeight base d.evidence = w := by
  rw [firstOf?, ← List.head?_filter] at h
  obtain ⟨rest, hrest⟩ := List.head?_eq_some_iff.1 h
  rw [excludedWeight, hrest, List.findSome?_cons, hw]
  rfl

theorem excludedWeight_of_none {d : Detection} (base : DetectionSet)
    (h : firstOf? .excluded d = none) : excludedWeight base d.evidence = .zero := by
  rw [firstOf?, ← List.head?_filter, List.head?_eq_none_iff] at h
  rw [excludedWeight, h]
  rfl

theorem boosted_outcome (name : String) :
    boosted (outcome c (evidence c s) name).evidence = boosted (about name (evidence c s)) :=
  boosted_hearsay c (evidence c s) name

/-- What counts among the relations onto a technology names a detection, and passes on a share of what
that one weighs by itself. -/
theorem referrer_of_first {o : Origin} (ho : o.isSynthetic = true) {name : String} {e : Evidence}
    (h : firstOf? o (outcome c (evidence c s) name) = some e) :
    ∃ r ∈ analyze c s, e.key = some r.name ∧
      referredWeight (base c (evidence c s)) e =
        some (e.confidence.percent (boosted r.evidence)) := by
  have horigin : e.origin = o := by simpa using List.find?_some h
  have hsynthetic : e.isSynthetic = true := by rw [Evidence.isSynthetic, horigin, ho]
  -- evidence from the page is not synthetic, so this is something that was said
  have hsaid : e ∈ about name (said c (evidence c s)) := by
    rcases List.mem_append.1 (List.mem_of_find?_eq_some h) with hown | hhearsay
    · have hnot := not_isSynthetic_evidence (mem_about.1 hown).1
      rw [hsynthetic] at hnot
      cases hnot
    · exact mem_of_mem_hearsay hhearsay
  obtain ⟨sig, hsig, hkey⟩ := key_of_mem_about_said hsaid
  have hdirect : Direct c s sig.name := (mem_relating.1 hsig).2.1
  have hin : outcome c (evidence c s) sig.name ∈ analyze c s :=
    mem_ofEvidence.2 ⟨sig.name, mem_outcomeNames.2 (.inl hdirect), rfl⟩
  refine ⟨_, hin, hkey, ?_⟩
  rw [boosted_outcome]
  exact referredWeight_base c _ (mem_subjects_evidence.2 hdirect) hkey

theorem confidence_outcome (name : String) :
    (outcome c (evidence c s) name).confidence =
      boosted (outcome c (evidence c s) name).evidence
        + impliedWeight (base c (evidence c s)) (outcome c (evidence c s) name).evidence
        - excludedWeight (base c (evidence c s)) (outcome c (evidence c s) name).evidence := by
  rw [boosted_outcome]
  rfl

/-- A detection that others exclude and none implies does not weigh more than its own evidence, exactly
if its first exclusion and the detection that this one names do not weigh against each other; one that
others imply and none excludes does not weigh less under the same condition on its first implication.
At the end of the range there is nowhere to go. -/
theorem relations_move_weights (c : Catalogue) (s : Snapshot) :
    ∀ d ∈ analyze c s,
      (HasOrigin .excluded d → ¬ HasOrigin .implied d →
        ∃ e, firstOf? .excluded d = some e ∧ ∃ r ∈ analyze c s, e.key = some r.name ∧
          (d.confidence.value ≤ (boosted d.evidence).value ↔
            0 ≤ e.confidence.value * (boosted r.evidence).value ∨
              (boosted d.evidence).value = Confidence.greatest)) ∧
      (HasOrigin .implied d → ¬ HasOrigin .excluded d →
        ∃ e, firstOf? .implied d = some e ∧ ∃ r ∈ analyze c s, e.key = some r.name ∧
          ((boosted d.evidence).value ≤ d.confidence.value ↔
            0 ≤ e.confidence.value * (boosted r.evidence).value ∨
              (boosted d.evidence).value = Confidence.least)) := by
  intro d hd
  obtain ⟨name, -, rfl⟩ := mem_ofEvidence.1 hd
  have hzero : Confidence.zero.value = 0 := rfl
  constructor
  · intro hexcluded himplied
    obtain ⟨e, hfirst⟩ := exists_firstOf? hexcluded
    obtain ⟨r, hr, hkey, hweight⟩ := referrer_of_first rfl hfirst
    refine ⟨e, hfirst, r, hr, hkey, ?_⟩
    rw [confidence_outcome, impliedWeight_of_none _ (firstOf?_eq_none himplied),
      excludedWeight_of_first hfirst hweight, Confidence.value_sub, Confidence.value_add, hzero,
      Int.add_zero, Confidence.saturate_value, Confidence.value_percent]
    exact Confidence.saturate_sub_share_le_iff _ _
  · intro himplied hexcluded
    obtain ⟨e, hfirst⟩ := exists_firstOf? himplied
    obtain ⟨r, hr, hkey, hweight⟩ := referrer_of_first rfl hfirst
    refine ⟨e, hfirst, r, hr, hkey, ?_⟩
    rw [confidence_outcome, impliedWeight_of_first hfirst hweight,
      excludedWeight_of_none _ (firstOf?_eq_none hexcluded), Confidence.value_sub, hzero,
      Int.sub_zero, Confidence.saturate_value, Confidence.value_add, Confidence.value_percent]
    exact Confidence.le_saturate_add_share_iff _ _

def rivals (w : Confidence) : Catalogue :=
  .ofSignatures [{ traced "A" [] with excludes := [⟨"B", w⟩] }, traced "B" []]

def partners (w : Confidence) : Catalogue :=
  .ofSignatures [traced "A" [⟨"B", w⟩], traced "B" []]

theorem relations_move_weights_rivals :
    ∃ d ∈ analyze (rivals (.clamp 50)) couplePage,
      HasOrigin .excluded d ∧ ¬ HasOrigin .implied d ∧
        d.confidence.value ≤ (boosted d.evidence).value := by
  let c := rivals (.clamp 50)
  let es := evidence c couplePage
  have hdirect : Direct c couplePage "B" := by decide +kernel
  have hin : outcome c es "B" ∈ analyze c couplePage :=
    mem_ofEvidence.2 ⟨"B", mem_outcomeNames.2 (.inl hdirect), rfl⟩
  have hexcluded : HasOrigin .excluded (outcome c es "B") := by decide +kernel
  have himplied : ¬ HasOrigin .implied (outcome c es "B") := by decide +kernel
  obtain ⟨e, he, r, hr, hkey, hmoves⟩ :=
    (relations_move_weights c couplePage _ hin).1 hexcluded himplied
  have hfirst : firstOf? .excluded (outcome c es "B") =
      some (.synthetic .excluded "A" "B" (.clamp 50)) := by decide +kernel
  obtain rfl := Option.some.inj (hfirst.symm.trans he)
  obtain ⟨n, -, rfl⟩ := mem_ofEvidence.1 hr
  obtain rfl : "A" = n := Option.some.inj hkey
  have hweight : 0 ≤ (50 : Int) * (boosted (outcome c es "A").evidence).value := by decide +kernel
  exact ⟨_, hin, hexcluded, himplied, hmoves.2 (.inl hweight)⟩

theorem negative_relation_turns :
    (∃ d ∈ analyze (rivals (.clamp (-50))) couplePage,
      HasOrigin .excluded d ∧ ¬ HasOrigin .implied d ∧
        (boosted d.evidence).value < d.confidence.value) ∧
    ∃ d ∈ analyze (partners (.clamp (-50))) couplePage,
      HasOrigin .implied d ∧ ¬ HasOrigin .excluded d ∧
        d.confidence.value < (boosted d.evidence).value := by
  have hrivals : Direct (rivals (.clamp (-50))) couplePage "B" := by decide +kernel
  have hpartners : Direct (partners (.clamp (-50))) couplePage "B" := by decide +kernel
  refine ⟨⟨_, mem_ofEvidence.2 ⟨"B", mem_outcomeNames.2 (.inl hrivals), rfl⟩, ?_⟩,
    ⟨_, mem_ofEvidence.2 ⟨"B", mem_outcomeNames.2 (.inl hpartners), rfl⟩, ?_⟩⟩
  · decide +kernel
  · decide +kernel

end Webprint.Analysis
