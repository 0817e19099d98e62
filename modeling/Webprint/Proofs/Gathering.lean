import Mathlib.Data.List.Induction
import Mathlib.Data.List.Nodup
import Mathlib.Data.List.Perm.Basic
import Webprint.Proofs.DetectionSet
import Webprint.Proofs.FirstOccurrence
import Webprint.Scoring

set_option autoImplicit false

/-!
# Gathering evidence

Evidence gathered by technology comes to one detection for each technology that it is about, in the
order in which they come up first, each with the evidence about it in its order.
-/

namespace Webprint

/-! ## Evidence by technology -/

/-- The evidence about one technology. -/
def about (name : String) (es : List Evidence) : List Evidence :=
  es.filter fun e => e.technology = name

/-- The technologies that evidence is about, in the order in which they come up first. -/
def subjects (es : List Evidence) : List String := (es.map (·.technology)).eraseDups

@[simp] theorem about_append (name : String) (es fs : List Evidence) :
    about name (es ++ fs) = about name es ++ about name fs :=
  List.filter_append ..

@[simp] theorem about_singleton (name : String) (e : Evidence) :
    about name [e] = if e.technology = name then [e] else [] := by
  by_cases h : e.technology = name <;> simp [about, h]

theorem about_append_other {name : String} {e : Evidence} (h : name ≠ e.technology)
    (es : List Evidence) : about name (es ++ [e]) = about name es := by
  rw [about_append, about_singleton, if_neg h.symm, List.append_nil]

@[simp] theorem mem_about {name : String} {es : List Evidence} {e : Evidence} :
    e ∈ about name es ↔ e ∈ es ∧ e.technology = name := by
  simp [about]

@[simp] theorem mem_subjects {name : String} {es : List Evidence} :
    name ∈ subjects es ↔ ∃ e ∈ es, e.technology = name := by
  simp [subjects]

theorem about_eq_nil {name : String} {es : List Evidence} :
    about name es = [] ↔ name ∉ subjects es := by
  simp [about]

theorem subjects_append_of_mem {es : List Evidence} {e : Evidence}
    (h : e.technology ∈ subjects es) : subjects (es ++ [e]) = subjects es := by
  rw [subjects, List.map_append]
  exact eraseDups_append_of_mem (List.mem_eraseDups.1 h)

theorem subjects_append_of_not_mem {es : List Evidence} {e : Evidence}
    (h : e.technology ∉ subjects es) : subjects (es ++ [e]) = subjects es ++ [e.technology] := by
  rw [subjects, List.map_append]
  exact eraseDups_append_of_not_mem fun hin => h (List.mem_eraseDups.2 hin)

theorem nodup_subjects (es : List Evidence) : (subjects es).Nodup := nodup_eraseDups _

theorem flatMap_about_of_not_mem {names : List String} {e : Evidence} (h : e.technology ∉ names) :
    (names.flatMap fun n => about n [e]) = [] := by
  rw [List.flatMap_eq_nil_iff]
  intro n hn
  rw [about_singleton, if_neg (ne_of_mem_of_not_mem hn h).symm]

theorem flatMap_about_of_mem {names : List String} {e : Evidence} (hnodup : names.Nodup)
    (h : e.technology ∈ names) : (names.flatMap fun n => about n [e]) = [e] := by
  induction names with
  | nil => simp at h
  | cons n names ih =>
    obtain ⟨hn, hnames⟩ := List.nodup_cons.1 hnodup
    rw [List.flatMap_cons, about_singleton]
    by_cases heq : e.technology = n
    · subst heq
      rw [if_pos rfl, flatMap_about_of_not_mem hn]
      rfl
    · rw [if_neg heq, ih hnames (by simpa [heq] using h)]
      rfl

theorem perm_flatMap_about (es : List Evidence) :
    ((subjects es).flatMap fun n => about n es).Perm es := by
  induction es using List.reverseRecOn with
  | nil => exact .refl _
  | append_singleton es e ih =>
    by_cases h : e.technology ∈ subjects es
    · rw [subjects_append_of_mem h]
      simp only [about_append]
      refine (List.flatMap_append_perm ..).symm.trans (ih.append ?_)
      rw [flatMap_about_of_mem (nodup_subjects es) h]
    · have hold : ((subjects es).flatMap fun n => about n (es ++ [e])) =
          (subjects es).flatMap fun n => about n es := by
        exact List.flatMap_congr fun n hn =>
          about_append_other (ne_of_mem_of_not_mem hn h) es
      have hnew : about e.technology (es ++ [e]) = [e] := by
        simp [about_eq_nil.2 h]
      rw [subjects_append_of_not_mem h, List.flatMap_append, hold, List.flatMap_singleton, hnew]
      exact ih.append_right [e]

/-! ## Gathering -/

namespace Scoring

theorem gather_append (c : Catalogue) (es : List Evidence) (e : Evidence) :
    gather c (es ++ [e]) = (gather c es).addEvidence (.ofName c e.technology) e := by
  simp [gather]

theorem gather_detections (c : Catalogue) (es : List Evidence) :
    (gather c es).detections =
      (subjects es).map fun n => { Detection.ofName c n with evidence := about n es } := by
  induction es using List.reverseRecOn with
  | nil => rfl
  | append_singleton es e ih =>
    have hnames : (gather c es).names = subjects es :=
      DetectionSet.names_of_detections ih fun _ => rfl
    rw [gather_append, DetectionSet.addEvidence, DetectionSet.change_eq,
      DetectionSet.detections_modify]
    by_cases h : e.technology ∈ subjects es
    · have hin : (Detection.ofName c e.technology).name ∈ (gather c es).names := by
        rw [hnames]; exact h
      rw [DetectionSet.insert_of_mem hin, ih, subjects_append_of_mem h, List.map_map]
      refine List.map_congr_left fun n _ => ?_
      by_cases hn : n = e.technology
      · subst hn
        simp [Detection.ofName]
      · simp [Detection.ofName, about_append_other hn, hn]
    · have hnot : (Detection.ofName c e.technology).name ∉ (gather c es).names := by
        rw [hnames]; exact h
      rw [DetectionSet.detections_insert hnot, ih, subjects_append_of_not_mem h, List.map_append,
        List.map_append, List.map_map]
      congr 1
      · refine List.map_congr_left fun n hn => ?_
        have hne := ne_of_mem_of_not_mem hn h
        simp [Detection.ofName, about_append_other hne, hne]
      · simp [Detection.ofName, about_eq_nil.2 h]

def weighed (c : Catalogue) (name : String) (es : List Evidence) : Detection :=
  { Detection.ofName c name with
    confidence := boosted es, versions := versions es, evidence := es }

@[simp] theorem aggregate_detections (c : Catalogue) (es : List Evidence) :
    (aggregate c es).detections = (subjects es).map fun n => weighed c n (about n es) := by
  change (gather c es).detections.map _ = _
  rw [gather_detections, List.map_map]
  rfl

@[simp] theorem names_aggregate (c : Catalogue) (es : List Evidence) :
    (aggregate c es).names = subjects es :=
  DetectionSet.names_of_detections (aggregate_detections c es) fun _ => rfl

/-- Evidence about technologies in any succession gives one detection for each of them, in the order
in which they come up first. A detection has the evidence about its technology in the order of the
input, and the weight and the versions of just that evidence. No evidence is lost or doubled. -/
theorem aggregate_by_technology (c : Catalogue) (es : List Evidence) :
    ByFirstOccurrence (aggregate c es).names (es.map (·.technology)) ∧
      (∀ d ∈ (aggregate c es).detections,
        d.evidence = es.filter (fun e => e.technology = d.name) ∧ d.signature = c.get? d.name ∧
          d.confidence = boosted d.evidence ∧ d.versions = versions d.evidence) ∧
      ((aggregate c es).detections.flatMap (·.evidence)).Perm es := by
  refine ⟨?_, ?_, ?_⟩
  · rw [names_aggregate]
    exact byFirstOccurrence_eraseDups _
  · rw [aggregate_detections, List.forall_mem_map]
    exact fun _ _ => ⟨rfl, rfl, rfl, rfl⟩
  · rw [aggregate_detections, List.flatMap_map]
    exact perm_flatMap_about es

end Scoring

end Webprint
