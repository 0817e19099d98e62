import Webprint.Proofs.Analysis

set_option autoImplicit false

/-!
# What a detection depends on

The detection of a technology depends on its own definition and on those of the technologies that
have a relation onto it. Two catalogues in which these are the same give the same detection, whatever
else they hold.
-/

namespace Webprint

/-- One of the relations of a signature leads to a technology. -/
def Signature.RelatesTo (sig : Signature) (name : String) : Prop :=
  ∃ r ∈ sig.implies ++ sig.excludes, r.target = name

instance (sig : Signature) (name : String) : Decidable (sig.RelatesTo name) :=
  inferInstanceAs (Decidable (∃ r ∈ sig.implies ++ sig.excludes, r.target = name))

/-- Both catalogues define a technology in the same way, or not at all; and every other one is
defined in the same way in both, or has in neither a relation onto this one. -/
structure Catalogue.AgreeOn (c d : Catalogue) (name : String) : Prop where
  own : c.get? name = d.get? name
  others : ∀ other, other ≠ name → c.get? other = d.get? other ∨
    (∀ sig, c.get? other = some sig → ¬ sig.RelatesTo name) ∧
      ∀ sig, d.get? other = some sig → ¬ sig.RelatesTo name

namespace Catalogue.AgreeOn

variable {c d : Catalogue} {name : String}

theorem symm (h : c.AgreeOn d name) : d.AgreeOn c name where
  own := h.own.symm
  others other hne := (h.others other hne).imp Eq.symm And.symm

theorem mem_of_relatesTo (h : c.AgreeOn d name) {sig : Signature} (hsig : sig ∈ c.signatures)
    (hrelates : sig.RelatesTo name) : sig ∈ d.signatures := by
  have hget : c.get? sig.name = some sig := get?_name hsig
  have hsame : c.get? sig.name = d.get? sig.name := by
    by_cases hname : sig.name = name
    · rw [hname]
      exact h.own
    · rcases h.others sig.name hname with hsame | ⟨hnone, -⟩
      · exact hsame
      · exact absurd hrelates (hnone sig hget)
  exact (get?_eq_some.1 (hsame.symm.trans hget)).1

end Catalogue.AgreeOn

namespace Analysis

open Matching Relating Scoring

/-! ## Evidence about one technology -/

theorem about_evidence (c : Catalogue) (s : Snapshot) (name : String) :
    about name (evidence c s) = (c.get? name).toList.flatMap (signatureEvidence s) := by
  have hown : ∀ sig ∈ c.signatures, ∀ e ∈ signatureEvidence s sig, e.technology = sig.name :=
    fun _ _ e he => (signatureEvidence_spec e he).1
  rw [evidence_eq_flatMap, about, filter_flatMap_of_key hown, Catalogue.filter_name]

theorem direct_iff {c : Catalogue} {s : Snapshot} {name : String} :
    Direct c s name ↔ about name (evidence c s) ≠ [] := by
  rw [← mem_subjects_evidence, ne_eq, about_eq_nil, not_not]

/-! ## Found technologies that count for one -/

variable {c d : Catalogue} {name : String} (s : Snapshot)

def relating (c : Catalogue) (s : Snapshot) (name : String) : List Signature :=
  (found c s).filter fun sig => sig.RelatesTo name

theorem mem_relating {c : Catalogue} {s : Snapshot} {sig : Signature} :
    sig ∈ relating c s name ↔
      sig ∈ c.signatures ∧ Direct c s sig.name ∧ sig.RelatesTo name := by
  rw [relating, List.mem_filter, mem_found, decide_eq_true_iff, and_assoc]

theorem about_said (c : Catalogue) (s : Snapshot) (name : String) :
    about name (said c (evidence c s)) =
      (relating c s name).flatMap fun sig => about name (sayings sig.name sig) := by
  have hother : ∀ sig ∈ found c s, decide (sig.RelatesTo name) = false →
      about name (sayings sig.name sig) = [] := by
    intro sig _ hnot
    rw [about, List.filter_eq_nil_iff]
    intro e he heq
    refine of_decide_eq_false hnot ?_
    obtain ⟨r, hr, rfl⟩ | ⟨r, hr, rfl⟩ := mem_sayings.1 he
    · exact ⟨r, List.mem_append_left _ hr, of_decide_eq_true heq⟩
    · exact ⟨r, List.mem_append_right _ hr, of_decide_eq_true heq⟩
  rw [said_evidence, about, List.filter_flatMap]
  change (found c s).flatMap (fun sig => about name (sayings sig.name sig)) = _
  rw [← flatMap_filter_of_nil hother]
  rfl

theorem implied_iff {c : Catalogue} {s : Snapshot} :
    Implied c s name ↔ ∃ sig ∈ relating c s name, ∃ r ∈ sig.implies, r.target = name := by
  constructor
  · rintro ⟨sig, hsig, r, hr, htarget⟩
    have hrelates : sig.RelatesTo name := ⟨r, List.mem_append_left _ hr, htarget⟩
    exact ⟨sig, List.mem_filter.2 ⟨hsig, decide_eq_true hrelates⟩, r, hr, htarget⟩
  · rintro ⟨sig, hsig, r, hr, htarget⟩
    exact ⟨sig, (List.mem_filter.1 hsig).1, r, hr, htarget⟩

theorem key_of_mem_about_said {c : Catalogue} {s : Snapshot} {e : Evidence}
    (h : e ∈ about name (said c (evidence c s))) :
    ∃ sig ∈ relating c s name, e.key = some sig.name := by
  rw [about_said] at h
  obtain ⟨sig, hsig, he⟩ := List.mem_flatMap.1 h
  refine ⟨sig, hsig, ?_⟩
  obtain ⟨r, -, rfl⟩ | ⟨r, -, rfl⟩ := mem_sayings.1 (mem_about.1 he).1
  · rfl
  · rfl

/-! ## Two catalogues -/

theorem about_evidence_congr (h : c.get? name = d.get? name) :
    about name (evidence c s) = about name (evidence d s) := by
  rw [about_evidence, about_evidence, h]

theorem direct_congr (h : c.get? name = d.get? name) : Direct c s name ↔ Direct d s name := by
  rw [direct_iff, direct_iff, about_evidence_congr s h]

theorem mem_relating_of_agreeOn (h : c.AgreeOn d name) {sig : Signature}
    (hsig : sig ∈ relating c s name) : sig ∈ relating d s name := by
  obtain ⟨hin, hdirect, hrelates⟩ := mem_relating.1 hsig
  have hin' := h.mem_of_relatesTo hin hrelates
  have hget : c.get? sig.name = d.get? sig.name := by
    rw [Catalogue.get?_name hin, Catalogue.get?_name hin']
  exact mem_relating.2 ⟨hin', (direct_congr s hget).1 hdirect, hrelates⟩

theorem relating_congr (h : c.AgreeOn d name) : relating c s name = relating d s name :=
  eq_of_ascending ((ascending_found c s).filter _) ((ascending_found d s).filter _) fun _ =>
    ⟨mem_relating_of_agreeOn s h, mem_relating_of_agreeOn s h.symm⟩

theorem about_said_congr (h : c.AgreeOn d name) :
    about name (said c (evidence c s)) = about name (said d (evidence d s)) := by
  rw [about_said, about_said, relating_congr s h]

theorem unadjusted_congr (h : c.AgreeOn d name) :
    unadjusted c (evidence c s) name = unadjusted d (evidence d s) name := by
  have hown := about_evidence_congr s h.own
  have hsubjects : name ∈ subjects (evidence c s) ↔ name ∈ subjects (evidence d s) := by
    rw [mem_subjects_evidence, mem_subjects_evidence]
    exact direct_congr s h.own
  have hhearsay : hearsay c (evidence c s) name = hearsay d (evidence d s) name := by
    unfold hearsay
    rw [about_said_congr s h]
    simp only [hsubjects]
  simp only [unadjusted, Detection.ofName, h.own, hown, hhearsay, hsubjects]

/-- A referrer weighs the same in both, since it is defined in the same way. -/
theorem referredWeight_congr (h : c.AgreeOn d name) {e : Evidence}
    (he : e ∈ about name (said c (evidence c s))) :
    referredWeight (base c (evidence c s)) e = referredWeight (base d (evidence d s)) e := by
  obtain ⟨sig, hsig, hkey⟩ := key_of_mem_about_said he
  obtain ⟨hc, hdirect, -⟩ := mem_relating.1 hsig
  obtain ⟨hd, hdirect', -⟩ := mem_relating.1 (mem_relating_of_agreeOn s h hsig)
  have hget : c.get? sig.name = d.get? sig.name := by
    rw [Catalogue.get?_name hc, Catalogue.get?_name hd]
  rw [referredWeight_base c _ (mem_subjects_evidence.2 hdirect) hkey,
    referredWeight_base d _ (mem_subjects_evidence.2 hdirect') hkey, about_evidence_congr s hget]

/-- Only synthetic evidence asks for the weights of others. -/
theorem adjust_congr {a b : DetectionSet} {x : Detection}
    (h : ∀ e ∈ x.evidence, e.isSynthetic = true → referredWeight a e = referredWeight b e) :
    adjust a x = adjust b x := by
  have himplied : impliedWeight a x.evidence = impliedWeight b x.evidence := by
    unfold impliedWeight
    cases hfind : x.evidence.find? fun e => e.origin = .implied with
    | none => rfl
    | some e =>
      have horigin : e.origin = .implied := by simpa using List.find?_some hfind
      have hsynthetic : e.isSynthetic = true := by rw [Evidence.isSynthetic, horigin]; rfl
      rw [Option.bind_some, Option.bind_some, h e (List.mem_of_find?_eq_some hfind) hsynthetic]
  have hexcluded : excludedWeight a x.evidence = excludedWeight b x.evidence := by
    unfold excludedWeight
    rw [← List.head?_filterMap, ← List.head?_filterMap]
    congr 2
    refine List.filterMap_congr fun e he => ?_
    obtain ⟨hin, horigin⟩ := List.mem_filter.1 he
    have hsynthetic : e.isSynthetic = true := by
      rw [Evidence.isSynthetic, of_decide_eq_true horigin]
      rfl
    exact h e hin hsynthetic
  unfold adjust
  rw [himplied, hexcluded]

theorem outcome_congr (h : c.AgreeOn d name) :
    outcome c (evidence c s) name = outcome d (evidence d s) name := by
  unfold outcome
  rw [← unadjusted_congr s h]
  refine adjust_congr fun e he hsynthetic => ?_
  rcases List.mem_append.1 he with hown | hhearsay
  · have hnot := not_isSynthetic_evidence (mem_about.1 hown).1
    rw [hsynthetic] at hnot
    cases hnot
  · exact referredWeight_congr s h (mem_of_mem_hearsay hhearsay)

theorem mem_outcomeNames_congr (h : c.AgreeOn d name) :
    name ∈ outcomeNames c (evidence c s) ↔ name ∈ outcomeNames d (evidence d s) := by
  rw [mem_outcomeNames, mem_outcomeNames, implied_iff, implied_iff, direct_congr s h.own,
    relating_congr s h]

theorem filter_ofEvidence (c : Catalogue) (es : List Evidence) (name : String) :
    ((ofEvidence c es).filter fun x => x.name = name) =
      if name ∈ outcomeNames c es then [outcome c es name] else [] := by
  have hdistinct : ((ofEvidence c es).map Detection.name).Nodup :=
    (names_ofEvidence c es).nodup_iff.2 (nodup_outcomeNames c es)
  rw [filter_eq_find?_of_nodup hdistinct]
  by_cases hname : name ∈ outcomeNames c es
  · have hin : outcome c es name ∈ ofEvidence c es := mem_ofEvidence.2 ⟨name, hname, rfl⟩
    have hfind : (ofEvidence c es).find? (fun x => x.name = name) = some (outcome c es name) :=
      (find?_eq_some_iff_of_nodup hdistinct).2 ⟨hin, rfl⟩
    rw [if_pos hname, hfind]
    rfl
  · have hnone : (ofEvidence c es).find? (fun x => x.name = name) = none := by
      rw [List.find?_eq_none]
      intro x hx heq
      obtain ⟨n, hn, rfl⟩ := mem_ofEvidence.1 hx
      exact hname ((of_decide_eq_true heq : n = name) ▸ hn)
    rw [if_neg hname, hnone]
    rfl

/-- On any page, two catalogues that agree on a technology and on what is related to it report the
same of it: the same detection, or none. -/
theorem detection_local (h : c.AgreeOn d name) (s : Snapshot) :
    ((analyze c s).filter fun x => x.name = name) =
      (analyze d s).filter fun x => x.name = name := by
  unfold analyze
  rw [filter_ofEvidence, filter_ofEvidence, outcome_congr s h]
  simp only [mem_outcomeNames_congr s h]

def trio : Catalogue := couple.insert (traced "C" [⟨"B", .clamp 50⟩])

/-- It changes nothing for the other one, which is still found and implied by its partner. -/
theorem detection_local_trio :
    couple.AgreeOn trio "A" ∧
      ((analyze couple couplePage).filter fun x => x.name = "A") =
        ((analyze trio couplePage).filter fun x => x.name = "A") ∧
      ((analyze couple couplePage).filter fun x => x.name = "A") ≠ [] := by
  have hget (n : String) : trio.get? n =
      if "C" = n then some (traced "C" [⟨"B", .clamp 50⟩]) else couple.get? n :=
    Catalogue.get?_insert ..
  have hagree : couple.AgreeOn trio "A" := by
    refine ⟨(hget "A").symm, fun n _ => ?_⟩
    by_cases hn : "C" = n
    · subst hn
      have hnone : (couple.get? "C").isNone = true := by decide +kernel
      refine .inr ⟨fun sig hsig => ?_, fun sig hsig => ?_⟩
      · rw [hsig] at hnone
        cases hnone
      · rw [hget, if_pos rfl] at hsig
        cases hsig
        decide
    · rw [hget, if_neg hn]
      exact .inl rfl
  refine ⟨hagree, detection_local hagree couplePage, ?_⟩
  have hdirect : Direct couple couplePage "A" := by decide +kernel
  unfold analyze
  rw [filter_ofEvidence, if_pos (mem_outcomeNames.2 (.inl hdirect))]
  exact List.cons_ne_nil _ _

end Analysis

end Webprint
