import Webprint.Proofs.Votes

set_option autoImplicit false

/-!
# What evidence weighs and which versions it names

Synthetic evidence changes neither a weight nor the versions. The best version is one that evidence
names, and there is one as soon as any is named.
-/

namespace Webprint.Scoring

/-! ## Synthetic evidence -/

theorem ownWeights_append (es fs : List Evidence) :
    ownWeights (es ++ fs) = ownWeights es ++ ownWeights fs := by
  rw [ownWeights, List.filter_append, List.map_append]
  rfl

theorem ownWeights_of_synthetic {es : List Evidence} (h : ∀ e ∈ es, e.isSynthetic = true) :
    ownWeights es = [] := by
  have hnone : es.filter (!·.isSynthetic) = [] := by
    rw [List.filter_eq_nil_iff]
    intro e he
    simp [h e he]
  rw [ownWeights, hnone]
  rfl

theorem boosted_append_synthetic (es : List Evidence) {fs : List Evidence}
    (h : ∀ e ∈ fs, e.isSynthetic = true) : boosted (es ++ fs) = boosted es := by
  have hweights : ownWeights (es ++ fs) = ownWeights es := by
    rw [ownWeights_append, ownWeights_of_synthetic h, List.append_nil]
  unfold boosted
  rw [hweights]

/-! ## Versions -/

theorem versions_append (es fs : List Evidence) :
    versions (es ++ fs) = versions es ++ versions fs := by
  rw [versions, List.filter_append, List.map_append]
  rfl

theorem versions_of_unversioned {es : List Evidence} (h : ∀ e ∈ es, e.version = "") :
    versions es = [] := by
  have hnone : es.filter (·.hasVersion) = [] := by
    rw [List.filter_eq_nil_iff]
    intro e he
    rw [Evidence.hasVersion, h e he]
    decide
  rw [versions, hnone]
  rfl

theorem versions_eq_filter (es : List Evidence) :
    versions es = (es.map (·.version)).filter (· ≠ "") := by
  rw [List.filter_map]
  unfold versions
  congr 1
  refine List.filter_congr fun e _ => ?_
  rw [Evidence.hasVersion, Bool.eq_iff_iff]
  simp

/-! ## The best version -/

theorem mem_of_vote {es : List Evidence} {v : String} (h : vote es = some v) :
    v ∈ es.map (·.version) := (vote_eq_some_iff.1 h).mem

theorem mem_of_bestVersion {es : List Evidence} {v : String} (h : bestVersion es = some v) :
    v ∈ versions es := by
  have hamong {f : Field} (hf : vote ((es.filter (·.hasVersion)).filter
      fun e => e.origin = .matched f) = some v) : v ∈ versions es := by
    obtain ⟨e, he, rfl⟩ := List.mem_map.1 (mem_of_vote hf)
    exact List.mem_map.2 ⟨e, (List.mem_filter.1 he).1, rfl⟩
  unfold bestVersion at h
  obtain h | ⟨-, hfirst⟩ := Option.or_eq_some_iff.1 h
  · obtain h | ⟨-, hscripts⟩ := Option.or_eq_some_iff.1 h
    · obtain hall | ⟨-, hjs⟩ := Option.or_eq_some_iff.1 h
      · exact mem_of_vote hall
      · exact hamong hjs
    · exact hamong hscripts
  · obtain ⟨e, he, rfl⟩ := Option.map_eq_some_iff.1 hfirst
    exact List.mem_map.2 ⟨e, List.mem_of_head? he, rfl⟩

theorem bestVersion_eq_none {es : List Evidence} : bestVersion es = none ↔ versions es = [] := by
  constructor
  · intro h
    have hfirst := (Option.or_eq_none_iff.1 h).2
    rw [Option.map_eq_none_iff, List.head?_eq_none_iff] at hfirst
    rw [versions, hfirst]
    rfl
  · intro h
    have hnone : es.filter (·.hasVersion) = [] := List.map_eq_nil_iff.1 h
    unfold bestVersion
    rw [hnone]
    rfl

end Webprint.Scoring
