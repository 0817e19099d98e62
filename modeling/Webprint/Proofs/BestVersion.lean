import Mathlib.Algebra.Order.BigOperators.Group.List
import Webprint.Proofs.Saturation
import Webprint.Proofs.Scoring

set_option autoImplicit false

/-!
# The best version

The best version is elected in the first of three rounds that elects one, and is the first version
that is named if none does. Among weights that fit the range together the order of the evidence has
no part in it but for that last resort.
-/

namespace Webprint.Scoring

open Confidence (greatest)

/-! ## Rounds -/

def named (es : List Evidence) : List Evidence := es.filter (·.hasVersion)

/-- The evidence that is voted on in turn: all that names a version, that of global variables, and
that of scripts. -/
def rounds (es : List Evidence) : List (List Evidence) :=
  [named es, (named es).filter fun e => e.origin = .matched .js,
    (named es).filter fun e => e.origin = .matched .scripts]

theorem bestVersion_eq (es : List Evidence) :
    bestVersion es = ((rounds es).findSome? vote).or (versions es).head? := by
  have hfirst : (versions es).head? = (named es).head?.map (·.version) := List.head?_map
  have hrounds (a b c : List Evidence) :
      [a, b, c].findSome? vote = ((vote a).or (vote b)).or (vote c) := by
    simp only [List.findSome?_cons, List.findSome?_nil]
    cases vote a <;> cases vote b <;> cases vote c <;> rfl
  rw [hfirst, rounds, hrounds]
  rfl

theorem versions_eq_nil {es : List Evidence} : versions es = [] ↔ ∀ e ∈ es, e.version = "" := by
  rw [versions_eq_filter, List.filter_eq_nil_iff, List.forall_mem_map]
  simp

theorem vote_eq_none_iff {es : List Evidence} : vote es = none ↔ ∀ v, ¬ Elected es v := by
  simp only [Option.eq_none_iff_forall_ne_some, Ne, vote_eq_some_iff]

theorem bestVersion_eq_some_iff {es : List Evidence} {v : String} :
    bestVersion es = some v ↔
      (∃ before round after, rounds es = before ++ round :: after ∧ Elected round v ∧
          ∀ r ∈ before, ∀ w, ¬ Elected r w) ∨
        (∀ r ∈ rounds es, ∀ w, ¬ Elected r w) ∧ (versions es).head? = some v := by
  rw [bestVersion_eq, Option.or_eq_some_iff, List.findSome?_eq_some_iff, List.findSome?_eq_none_iff]
  simp only [vote_eq_some_iff, vote_eq_none_iff]

/-! ## The order of the evidence -/

def sizes (es : List Evidence) : Int := (es.map fun e => (e.confidence.value.natAbs : Int)).sum

theorem sizes_sublist {es fs : List Evidence} (h : fs.Sublist es) : sizes fs ≤ sizes es := by
  refine (h.map _).sum_le_sum fun i hi => ?_
  obtain ⟨e, -, rfl⟩ := List.mem_map.1 hi
  exact Int.natCast_nonneg _

theorem weightFor_eq_sum {es : List Evidence} (h : sizes es ≤ greatest) (v : String) :
    weightFor es v = ((naming v es).map fun e => e.confidence.value).sum := by
  have hfits : sizes (naming v es) ≤ greatest := (sizes_sublist List.filter_sublist).trans h
  rw [weightFor, sum, Confidence.value_foldl_add, List.map_map]
  refine Confidence.walk_of_sum_natAbs_le ?_
  rw [List.map_map]
  exact hfits

section Perm

variable {es fs : List Evidence}

theorem sizes_perm (hperm : fs.Perm es) : sizes fs = sizes es := (hperm.map _).sum_eq

theorem weightFor_perm (h : sizes es ≤ greatest) (hperm : fs.Perm es) :
    weightFor fs = weightFor es := by
  funext v
  rw [weightFor_eq_sum h, weightFor_eq_sum ((sizes_perm hperm).trans_le h)]
  exact ((hperm.filter _).map _).sum_eq

theorem timesNamed_perm (hperm : fs.Perm es) : timesNamed fs = timesNamed es := by
  funext v
  exact congrArg Int.ofNat (hperm.filter _).length_eq

theorem vote_perm (h : sizes es ≤ greatest) (hperm : fs.Perm es) : vote fs = vote es := by
  have hleads {score : String → Int} {v : String} :
      Leads score (fs.map (·.version)) v ↔ Leads score (es.map (·.version)) v :=
    Leads.congr fun _ => (hperm.map _).mem_iff
  apply Option.ext
  intro v
  simp only [vote_eq_some_iff, Elected, weightFor_perm h hperm, timesNamed_perm hperm, hleads]

theorem bestVersion_perm (h : sizes (named es) ≤ greatest) (hperm : fs.Perm es)
    (hfirst : (versions fs).head? = (versions es).head?) : bestVersion fs = bestVersion es := by
  have hnamed : (named fs).Perm (named es) := hperm.filter _
  have hround (p : Evidence → Bool) :
      vote ((named fs).filter p) = vote ((named es).filter p) :=
    vote_perm ((sizes_sublist List.filter_sublist).trans h) (hnamed.filter p)
  rw [bestVersion_eq, bestVersion_eq, hfirst, rounds, rounds]
  simp only [List.findSome?_cons, hround, vote_perm h hnamed]

end Perm

/-- There is a best version unless no evidence names one. It is the one elected in the first round
that elects one, and the first one that is named if no round does. As long as the weights fit the
range together they are added exactly, and then evidence in any other order with the same first
version has the same best version. -/
theorem bestVersion_by_rounds (es : List Evidence) :
    (bestVersion es = none ↔ ∀ e ∈ es, e.version = "") ∧
      (∀ v, bestVersion es = some v ↔
        (∃ before round after, rounds es = before ++ round :: after ∧ Elected round v ∧
            ∀ r ∈ before, ∀ w, ¬ Elected r w) ∨
          (∀ r ∈ rounds es, ∀ w, ¬ Elected r w) ∧ (versions es).head? = some v) ∧
      (sizes (named es) ≤ greatest →
        (∀ r ∈ rounds es, ∀ v,
          weightFor r v = ((naming v r).map fun e => e.confidence.value).sum) ∧
        ∀ fs, fs.Perm es → (versions fs).head? = (versions es).head? →
          bestVersion fs = bestVersion es) := by
  refine ⟨bestVersion_eq_none.trans versions_eq_nil, fun _ => bestVersion_eq_some_iff, fun h => ?_⟩
  refine ⟨fun r hr v => weightFor_eq_sum (le_trans (sizes_sublist ?_) h) v,
    fun fs hperm hfirst => bestVersion_perm h hperm hfirst⟩
  simp only [rounds, List.mem_cons, List.not_mem_nil, or_false] at hr
  rcases hr with rfl | rfl | rfl
  · exact .refl _
  · exact List.filter_sublist
  · exact List.filter_sublist

/-- Beyond the range it counts in which order evidence is found. -/
example :
    let e (version : String) (i : Int) : Evidence := ⟨none, .matched .html, "T", .clamp i, "", version⟩
    bestVersion [e "1" greatest, e "2" greatest, e "2" 1, e "2" (-1)] = some "1" ∧
      bestVersion [e "1" greatest, e "2" greatest, e "2" (-1), e "2" 1] = some "2" := by
  decide

end Webprint.Scoring
