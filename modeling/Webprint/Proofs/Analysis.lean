import Webprint.Proofs.Confidence
import Webprint.Proofs.Discovery
import Webprint.Proofs.Outcome

set_option autoImplicit false

/-!
# Analysing a page

What the detections for a page are, in terms of the evidence that the page gives and of the
relations in the catalogue: which technologies they are for, what these weigh, and what becomes of
the evidence.
-/

namespace Webprint.Analysis

open Matching Relating Scoring

variable (c : Catalogue) (s : Snapshot)

/-! ## Relations of found technologies -/

theorem said_evidence :
    said c (evidence c s) = (found c s).flatMap fun sig => sayings sig.name sig := by
  rw [said_eq_flatMap, subjects_evidence, List.flatMap_map]
  refine List.flatMap_congr fun sig hsig => ?_
  rw [Catalogue.get?_name (mem_found.1 hsig).1]
  rfl

theorem filter_about_said (o : Origin) (name : String) :
    (about name (said c (evidence c s))).filter (fun e => e.origin = o) =
      (onto (related o) name (found c s)).map (saying o) := by
  rw [said_evidence, filter_about_flatMap_sayings]

/-! ## Names -/

/-- A technology that the page gives evidence for implies this one. -/
def Implied (name : String) : Prop :=
  ∃ sig ∈ found c s, ∃ r ∈ sig.implies, r.target = name

theorem mem_subjects_unmet {c : Catalogue} {s : Snapshot} {name : String} :
    name ∈ subjects (unmet (aggregate c (evidence c s)) (said c (evidence c s))) ↔
      Implied c s name ∧ ¬ Direct c s name := by
  rw [mem_subjects, ← @mem_subjects_evidence c s name, ← names_aggregate c]
  constructor
  · rintro ⟨e, he, rfl⟩
    obtain ⟨hsaid, himplied, hnot⟩ := mem_unmet.1 he
    have hin : e ∈ (about e.technology (said c (evidence c s))).filter
        fun e => e.origin = .implied := by
      simp [hsaid, himplied]
    rw [filter_about_said] at hin
    obtain ⟨x, hx, -⟩ := List.mem_map.1 hin
    obtain ⟨sig, hsig, -, hr, htarget⟩ := mem_onto hx
    exact ⟨⟨sig, hsig, x.2, hr, htarget⟩, hnot⟩
  · rintro ⟨⟨sig, hsig, r, hr, rfl⟩, hnot⟩
    refine ⟨.synthetic .implied sig.name r.target r.confidence, mem_unmet.2 ⟨?_, rfl, hnot⟩, rfl⟩
    rw [said_evidence]
    exact List.mem_flatMap.2 ⟨sig, hsig, mem_sayings.2 (.inl ⟨r, hr, rfl⟩)⟩

theorem mem_outcomeNames {c : Catalogue} {s : Snapshot} {name : String} :
    name ∈ outcomeNames c (evidence c s) ↔ Direct c s name ∨ Implied c s name := by
  rw [outcomeNames, List.mem_append, mem_subjects_evidence, mem_subjects_unmet]
  constructor
  · rintro (hdirect | ⟨himplied, -⟩)
    · exact .inl hdirect
    · exact .inr himplied
  · intro h
    by_cases hdirect : Direct c s name
    · exact .inl hdirect
    · exact .inr ⟨h.resolve_left hdirect, hdirect⟩

/-- A page has one detection for each technology that it gives evidence for or that one of these
implies, marked if it is only implied, with the signature that the catalogue has for it. -/
theorem detected_names :
    (∀ name, name ∈ (analyze c s).map Detection.name ↔ Direct c s name ∨ Implied c s name) ∧
      ((analyze c s).map Detection.name).Nodup ∧
      ∀ d ∈ analyze c s,
        (d.implied = true ↔ ¬ Direct c s d.name) ∧ d.signature = c.get? d.name := by
  have hperm := names_ofEvidence c (evidence c s)
  refine ⟨fun name => ?_, ?_, ?_⟩
  · rw [← mem_outcomeNames]
    exact hperm.mem_iff
  · exact hperm.nodup_iff.2 (nodup_outcomeNames c (evidence c s))
  · intro d hd
    obtain ⟨n, -, rfl⟩ := mem_ofEvidence.1 hd
    rw [← mem_subjects_evidence]
    exact ⟨decide_eq_true_iff, rfl⟩

/-! ## Weights -/

/-- What the evidence that a page gives for a technology weighs. -/
def ownWeight (name : String) : Int := (boosted (about name (evidence c s))).value

/-- The share of a technology's own weight that one of its relations passes on. -/
def share (x : String × Relation) : Int :=
  Confidence.saturate (x.2.confidence.value * ownWeight c s x.1) / 100

/-- The implication that counts for a technology: the first one if the page gives evidence for it,
and the last one otherwise. -/
def countingImplication (name : String) : Option (String × Relation) :=
  if Direct c s name then (onto Signature.implies name (found c s)).head?
  else (onto Signature.implies name (found c s)).getLast?

/-- The exclusion that counts for a technology: the first one, if the page gives evidence for it. -/
def countingExclusion (name : String) : Option (String × Relation) :=
  if Direct c s name then (onto Signature.excludes name (found c s)).head? else none

/-- The share of the relation that counts, if there is one. -/
def shareOf (x : Option (String × Relation)) : Int := (x.map (share c s)).getD 0

theorem filter_about_evidence (name : String) {o : Origin} (h : o.isSynthetic = true) :
    (about name (evidence c s)).filter (fun e => e.origin = o) = [] := by
  rw [List.filter_eq_nil_iff]
  intro e he
  have hown := not_isSynthetic_evidence (mem_about.1 he).1
  intro heq
  rw [Evidence.isSynthetic, of_decide_eq_true heq, h] at hown
  cases hown

theorem implications_unadjusted (name : String) :
    (unadjusted c (evidence c s) name).evidence.find? (fun e => e.origin = .implied) =
      (countingImplication c s name).map (saying .implied) := by
  have hsaid := filter_about_said c s .implied name
  rw [← List.head?_filter]
  change List.head? ((about name (evidence c s) ++ hearsay c (evidence c s) name).filter _) = _
  rw [List.filter_append, filter_about_evidence c s name rfl, List.nil_append, countingImplication,
    hearsay]
  simp only [mem_subjects_evidence]
  by_cases hdirect : Direct c s name
  · rw [if_pos hdirect, if_pos hdirect, hsaid, List.head?_map]
    rfl
  · rw [if_neg hdirect, if_neg hdirect, hsaid, List.getLast?_map]
    change _ = (onto (related .implied) name (found c s)).getLast?.map _
    cases (onto (related .implied) name (found c s)).getLast? <;> rfl

theorem exclusions_unadjusted (name : String) :
    ((unadjusted c (evidence c s) name).evidence.filter fun e => e.origin = .excluded) =
      if Direct c s name then (onto Signature.excludes name (found c s)).map (saying .excluded)
      else [] := by
  have hsaid := filter_about_said c s .excluded name
  change (about name (evidence c s) ++ hearsay c (evidence c s) name).filter _ = _
  rw [List.filter_append, filter_about_evidence c s name rfl, List.nil_append, hearsay]
  simp only [mem_subjects_evidence]
  by_cases hdirect : Direct c s name
  · rw [if_pos hdirect, if_pos hdirect, hsaid]
    rfl
  · rw [if_neg hdirect, if_neg hdirect, filter_about_said, List.getLast?_map]
    cases (onto (related .implied) name (found c s)).getLast? <;> rfl

theorem referredWeight_saying (o : Origin) {x : String × Relation} (h : Direct c s x.1) :
    (referredWeight (base c (evidence c s)) (saying o x)).map (·.value) = some (share c s x) := by
  have hreferrer := mem_subjects_evidence.2 h
  rw [referredWeight_base c (evidence c s) hreferrer rfl, Option.map_some, Confidence.value_percent]
  rfl

theorem direct_of_mem_onto {c : Catalogue} {s : Snapshot} {name : String} {x : String × Relation}
    {relations : Signature → List Relation} (h : x ∈ onto relations name (found c s)) :
    Direct c s x.1 := by
  obtain ⟨sig, hsig, hname, -, -⟩ := mem_onto h
  rw [← hname]
  exact (mem_found.1 hsig).2

theorem direct_of_countingImplication {c : Catalogue} {s : Snapshot} {name : String}
    {x : String × Relation} (h : countingImplication c s name = some x) : Direct c s x.1 := by
  unfold countingImplication at h
  by_cases hdirect : Direct c s name
  · rw [if_pos hdirect] at h
    exact direct_of_mem_onto (List.mem_of_head? h)
  · rw [if_neg hdirect] at h
    exact direct_of_mem_onto (List.mem_of_getLast? h)

theorem impliedWeight_unadjusted (name : String) :
    (impliedWeight (base c (evidence c s)) (unadjusted c (evidence c s) name).evidence).value =
      shareOf c s (countingImplication c s name) := by
  rw [impliedWeight, implications_unadjusted]
  cases hx : countingImplication c s name with
  | none => rfl
  | some x =>
    have hweight := referredWeight_saying c s .implied (direct_of_countingImplication hx)
    obtain ⟨w, hw, hshare⟩ := Option.map_eq_some_iff.1 hweight
    rw [Option.map_some, Option.bind_some, hw]
    exact hshare

theorem excludedWeight_unadjusted (name : String) :
    (excludedWeight (base c (evidence c s)) (unadjusted c (evidence c s) name).evidence).value =
      shareOf c s (countingExclusion c s name) := by
  rw [excludedWeight, exclusions_unadjusted, countingExclusion]
  by_cases hdirect : Direct c s name
  · rw [if_pos hdirect, if_pos hdirect]
    cases hxs : onto Signature.excludes name (found c s) with
    | nil => rfl
    | cons x xs =>
      have hx : x ∈ onto Signature.excludes name (found c s) := by rw [hxs]; simp
      have hweight := referredWeight_saying c s .excluded (direct_of_mem_onto hx)
      obtain ⟨w, hw, hshare⟩ := Option.map_eq_some_iff.1 hweight
      rw [List.map_cons, List.findSome?_cons, hw]
      exact hshare
  · rw [if_neg hdirect, if_neg hdirect]
    rfl

theorem ownWeight_of_not_direct {c : Catalogue} {s : Snapshot} {name : String}
    (h : ¬ Direct c s name) : ownWeight c s name = 0 := by
  rw [← mem_subjects_evidence] at h
  rw [ownWeight, about_eq_nil.2 h]
  rfl

/-- A detection weighs what the page gives for it, with the share of one implication added and that
of one exclusion taken away. Shares are taken of own weights, which relations never change; which
relation comes first or last is a matter of the order of names. -/
theorem detected_weights :
    Ascending Signature.name (found c s) ∧
      ∀ d ∈ analyze c s,
        d.confidence.value =
            Confidence.saturate
              (Confidence.saturate
                  (ownWeight c s d.name + shareOf c s (countingImplication c s d.name))
                - shareOf c s (countingExclusion c s d.name)) ∧
          (¬ Direct c s d.name → ownWeight c s d.name = 0) := by
  refine ⟨ascending_found c s, fun d hd => ?_⟩
  obtain ⟨n, -, rfl⟩ := mem_ofEvidence.1 hd
  refine ⟨?_, ownWeight_of_not_direct⟩
  change (_ + _ - _ : Confidence).value = _
  rw [Confidence.value_sub, Confidence.value_add, impliedWeight_unadjusted,
    excludedWeight_unadjusted]
  rfl

def traced (name : String) (implies : List Relation) : Signature where
  profile := { name, slug := name, icon := "" }
  matchers := SortedMap.empty.insert .js
    (.keyed [⟨"version", [⟨{ regex := "" }, .ofNode .empty, rfl⟩], none, rfl⟩])
  implies := implies
  excludes := []

def couple : Catalogue :=
  .ofSignatures [traced "A" [⟨"B", .clamp 50⟩], traced "B" [⟨"A", .clamp 50⟩]]

def couplePage : Snapshot :=
  (({} : Snapshot).withJs "A" "version" (.bool true)).withJs "B" "version" (.bool true)

theorem detected_weights_couple :
    ∃ d ∈ analyze couple couplePage, d.name = "A" ∧ d.confidence.value = 150 := by
  have hdirect : Direct couple couplePage "A" := by decide +kernel
  have hin : outcome couple (evidence couple couplePage) "A" ∈ analyze couple couplePage :=
    mem_ofEvidence.2 ⟨"A", mem_outcomeNames.2 (.inl hdirect), rfl⟩
  have hweight := ((detected_weights couple couplePage).2 _ hin).1
  refine ⟨_, hin, rfl, ?_⟩
  rw [hweight]
  decide +kernel

/-! ## Evidence and versions -/

theorem ownEvidence_outcome (name : String) :
    (outcome c (evidence c s) name).evidence.filter (!·.isSynthetic) =
      about name (evidence c s) := by
  have hown : (about name (evidence c s)).filter (!·.isSynthetic) = about name (evidence c s) := by
    rw [List.filter_eq_self]
    intro e he
    rw [not_isSynthetic_evidence (mem_about.1 he).1]
    rfl
  have hothers : (hearsay c (evidence c s) name).filter (!·.isSynthetic) = [] := by
    rw [List.filter_eq_nil_iff]
    intro e he
    rw [(synthetic_hearsay c (evidence c s) e he).1]
    decide
  change List.filter _ (about name (evidence c s) ++ hearsay c (evidence c s) name) = _
  rw [List.filter_append, hown, hothers, List.append_nil]

theorem flatMap_ownEvidence :
    ((analyze c s).flatMap fun d => d.evidence.filter (!·.isSynthetic)).Perm (evidence c s) := by
  have hunmet : ((subjects (unmet (aggregate c (evidence c s)) (said c (evidence c s)))).flatMap
      fun n => about n (evidence c s)) = [] := by
    rw [List.flatMap_eq_nil_iff]
    intro n hn
    rw [about_eq_nil, mem_subjects_evidence]
    exact (mem_subjects_unmet.1 hn).2
  refine ((ofEvidence_perm c (evidence c s)).flatMap_right _).trans ?_
  rw [List.flatMap_map]
  simp only [ownEvidence_outcome]
  rw [outcomeNames, List.flatMap_append, hunmet, List.append_nil]
  exact perm_flatMap_about (evidence c s)

theorem versions_unadjusted (name : String) :
    (unadjusted c (evidence c s) name).versions =
      versions (unadjusted c (evidence c s) name).evidence := by
  have hothers : versions (hearsay c (evidence c s) name) = [] :=
    versions_of_unversioned fun e he => (synthetic_hearsay c (evidence c s) e he).2
  change versions (about name (evidence c s)) =
    versions (about name (evidence c s) ++ hearsay c (evidence c s) name)
  rw [versions_append, hothers, List.append_nil]

/-- A detection keeps the evidence about its technology in the order of discovery, with nothing but
synthetic evidence behind it, and its versions are those of all its evidence. Over all detections,
no evidence of the page is lost or doubled. -/
theorem detected_evidence :
    (∀ d ∈ analyze c s,
        (∃ others, d.evidence = about d.name (evidence c s) ++ others ∧
          ∀ e ∈ others, e.isSynthetic = true) ∧
        d.versions = (d.evidence.map (·.version)).filter (· ≠ "") ∧
        (d.bestVersion = none ↔ d.versions = []) ∧
        ∀ v, d.bestVersion = some v → v ∈ d.versions) ∧
      ((analyze c s).flatMap fun d => d.evidence.filter (!·.isSynthetic)).Perm (evidence c s) := by
  refine ⟨fun d hd => ?_, flatMap_ownEvidence c s⟩
  obtain ⟨n, -, rfl⟩ := mem_ofEvidence.1 hd
  have hversions : (outcome c (evidence c s) n).versions =
      versions (outcome c (evidence c s) n).evidence := versions_unadjusted c s n
  rw [hversions]
  refine ⟨⟨hearsay c (evidence c s) n, rfl, fun e he => ?_⟩, versions_eq_filter _, ?_, ?_⟩
  · exact (synthetic_hearsay c (evidence c s) e he).1
  · exact bestVersion_eq_none
  · intro v hv
    exact mem_of_bestVersion hv

end Webprint.Analysis
