import Webprint.Proofs.Ranking

set_option autoImplicit false

/-!
# Ranking

What is ranked comes out as it went in but for confidence and best version, in falling order of the
scores, and in its own order where scores are equal. What a detection gets does not depend on where it
stands among the others: what these weigh is read before any weight is adjusted.
-/

namespace Webprint

/-! ## Stable sorting -/

section Stable

variable {α : Type}

theorem filter_mergeSort {le : α → α → Bool}
    (trans : ∀ a b c : α, le a b = true → le b c = true → le a c = true)
    (total : ∀ a b : α, (le a b || le b a) = true) {p : α → Bool}
    (htied : ∀ a b, p a = true → p b = true → le a b = true) (as : List α) :
    (as.mergeSort le).filter p = as.filter p := by
  have hpairs : (as.filter p).Pairwise fun a b => le a b = true :=
    List.pairwise_of_forall_mem_list fun a ha b hb =>
      htied a b (List.mem_filter.1 ha).2 (List.mem_filter.1 hb).2
  have hsub := (List.sublist_mergeSort trans total hpairs List.filter_sublist).filter p
  have hkept : (as.filter p).filter p = as.filter p := by simp
  rw [hkept] at hsub
  -- a sublist of the same length is the whole list
  have hlength := ((List.mergeSort_perm as le).filter p).length_eq
  exact (hsub.eq_of_length hlength.symm).symm

end Stable

/-! ## Scores -/

namespace Detection

open Decimal Binary64

def score (d : Detection) : ℚ := d.rankScore.value

/-- The double for a negative integer is no zero. -/
theorem half_le_of_nearest {a : Nat} {i : ℤ} (h : Nearest a i.natAbs) (hi : i < 0) :
    1 / 2 ≤ magnitude a := by
  obtain ⟨t, ht⟩ := exists_quarter (n := 2) (by decide) (by decide)
  have hhalf : magnitude t = 1 / 2 := ht.trans (by norm_num)
  have hone : (1 : ℚ) ≤ i.natAbs := by exact_mod_cast (show 1 ≤ i.natAbs by omega)
  rw [← hhalf]
  exact h.magnitude_le (by rw [hhalf]; linarith)

theorem quarter_le_of_nearest {a s : Nat} (h : Nearest s (2 * magnitude a / 3))
    (ha : 1 / 2 ≤ magnitude a) : 1 / 4 ≤ magnitude s := by
  obtain ⟨t, ht⟩ := exists_quarter (n := 1) (by decide) (by decide)
  rw [Nat.cast_one] at ht
  rw [← ht]
  exact h.magnitude_le (by rw [ht]; linarith)

/-- A score has the sign of the confidence, and there is no negative zero among the scores. -/
theorem exists_rankScore (d : Detection) :
    ∃ s, s < 2 ^ 63 ∧ (decide (d.confidence.value < 0) = true → 0 < s) ∧
      d.rankScore = ofParts (d.confidence.value < 0) s := by
  have hlower := d.confidence.lower
  have hupper := d.confidence.upper
  generalize hi : d.confidence.value = i at *
  have hrange : i.natAbs ≤ 2 ^ 63 := by
    unfold Confidence.least Confidence.greatest at *
    omega
  obtain ⟨a, ha, hnearest, hdouble⟩ := exists_doubleOf_nearest hrange
  -- a negative confidence is at least one in size, and neither rounding nor division brings it to zero
  by_cases himplied : d.implied
  · have hbound : magnitude a ≤ 2 ^ 64 := by
      rw [← magnitude_two_pow]
      refine magnitude_strictMono.monotone (hnearest.le_two_pow ?_)
      exact_mod_cast hrange.trans_lt (by norm_num)
    obtain ⟨s, hs, hthirds, hdiv⟩ := exists_div_impliedDivisor (i < 0) ha hbound
    refine ⟨s, hs, fun hneg => pos_of_magnitude_pos ?_, ?_⟩
    · have hhalf := half_le_of_nearest hnearest (of_decide_eq_true hneg)
      linarith [quarter_le_of_nearest hthirds hhalf]
    · simp only [rankScore, himplied, hi, hdouble, hdiv, if_true, Option.getD_some]
  · refine ⟨a, ha, fun hneg => pos_of_magnitude_pos ?_, ?_⟩
    · linarith [half_le_of_nearest hnearest (of_decide_eq_true hneg)]
    · simp only [rankScore, himplied, hi, hdouble, if_false, Bool.false_eq_true]

theorem orderKey_rankScore_le_iff (a b : Detection) :
    a.rankScore.orderKey ≤ b.rankScore.orderKey ↔ a.score ≤ b.score := by
  obtain ⟨s, hs, hspos, ha⟩ := a.exists_rankScore
  obtain ⟨t, ht, htpos, hb⟩ := b.exists_rankScore
  rw [score, score, ha, hb, orderKey_le_iff hs ht hspos htpos]

end Detection

namespace Analysis

/-! ## Weights -/

theorem name_reweigh (d : Detection) : (reweigh d).name = d.name := rfl

def finished (s : DetectionSet) (d : Detection) : Detection :=
  adjust (s.map reweigh name_reweigh) (reweigh d)

theorem rank_eq (s : DetectionSet) :
    rank s = (s.detections.map (finished s)).mergeSort standsBefore := by
  have hmap : s.detections.map (finished s) =
      (s.detections.map reweigh).map (adjust (s.map reweigh name_reweigh)) :=
    (List.map_map ..).symm
  rw [hmap]
  rfl

theorem rank_perm (s : DetectionSet) : (rank s).Perm (s.detections.map (finished s)) := by
  rw [rank_eq]
  exact List.mergeSort_perm ..

theorem finished_perm {s t : DetectionSet} (h : t.detections.Perm s.detections) :
    finished t = finished s := by
  have hbase : ((t.map reweigh name_reweigh).detections).Perm
      (s.map reweigh name_reweigh).detections := h.map reweigh
  have hweight : referredWeight (t.map reweigh name_reweigh) =
      referredWeight (s.map reweigh name_reweigh) := by
    funext e
    simp only [referredWeight, DetectionSet.get?_perm hbase]
  funext d
  simp only [finished, adjust, impliedWeight, excludedWeight, hweight]

/-! ## Places -/

theorem standsBefore_iff {a b : Detection} : standsBefore a b = true ↔ b.score ≤ a.score := by
  rw [standsBefore, decide_eq_true_iff, Detection.orderKey_rankScore_le_iff]

theorem rank_pairwise (s : DetectionSet) : (rank s).Pairwise fun a b => b.score ≤ a.score := by
  rw [rank_eq]
  exact (List.pairwise_mergeSort standsBefore_trans standsBefore_total _).imp standsBefore_iff.1

theorem filter_rank (s : DetectionSet) (x : ℚ) :
    (rank s).filter (fun d => d.score = x) =
      (s.detections.map (finished s)).filter fun d => d.score = x := by
  rw [rank_eq]
  refine filter_mergeSort standsBefore_trans standsBefore_total (fun a b ha hb => ?_) _
  rw [standsBefore_iff, of_decide_eq_true ha, of_decide_eq_true hb]

theorem pair_sublist_rank_iff {s : DetectionSet} {a b : Detection} (ha : a ∈ rank s)
    (hb : b ∈ rank s) (hne : a.score ≠ b.score) : [a, b].Sublist (rank s) ↔ b.score < a.score := by
  constructor
  · intro hab
    exact (List.pairwise_pair.1 ((rank_pairwise s).sublist hab)).lt_of_ne hne.symm
  · intro hlt
    have hab : a ≠ b := fun heq => hne (congrArg Detection.score heq)
    exact pair_sublist_of_pairwise (rank_pairwise s) ha hb hab hlt.not_ge

theorem nodup_names_rank (s : DetectionSet) : ((rank s).map Detection.name).Nodup := by
  have hnames := (rank_perm s).map Detection.name
  rw [List.map_map] at hnames
  exact hnames.nodup_iff.2 s.distinct

/-- Ranking only changes the confidence and the best version of a detection. It puts the detections
in falling order of their scores, and those with equal scores in their own order. If they come in
another order, each of them is given the same, and only those with equal scores may change places. -/
theorem rank_stable (s : DetectionSet) :
    (∀ d, ∃ confidence bestVersion, finished s d = { d with confidence, bestVersion }) ∧
      (rank s).Perm (s.detections.map (finished s)) ∧
      (rank s).Pairwise (fun a b => b.score ≤ a.score) ∧
      (∀ x, (rank s).filter (fun d => d.score = x) =
        (s.detections.map (finished s)).filter fun d => d.score = x) ∧
      ∀ t : DetectionSet, t.detections.Perm s.detections →
        (∀ d ∈ rank t, ∀ e ∈ rank s, d.name = e.name → d = e) ∧ (rank t).Perm (rank s) ∧
          ∀ a ∈ rank s, ∀ b ∈ rank s, a.score ≠ b.score →
            ([a, b].Sublist (rank t) ↔ [a, b].Sublist (rank s)) := by
  refine ⟨fun d => ⟨_, _, rfl⟩, rank_perm s, rank_pairwise s, filter_rank s, fun t ht => ?_⟩
  have hperm : (rank t).Perm (rank s) := by
    refine (rank_perm t).trans (.trans ?_ (rank_perm s).symm)
    rw [finished_perm ht]
    exact ht.map _
  refine ⟨fun d hd e he hname => ?_, hperm, fun a ha b hb hne => ?_⟩
  · exact List.inj_on_of_nodup_map (nodup_names_rank s) (hperm.mem_iff.1 hd) he hname
  · rw [pair_sublist_rank_iff (hperm.mem_iff.2 ha) (hperm.mem_iff.2 hb) hne,
      pair_sublist_rank_iff ha hb hne]

def matchedWith (name : String) (others : List Evidence) : Detection where
  name := name
  signature := none
  evidence := ⟨none, .matched .html, name, .clamp 100, "", ""⟩ :: others

def outdone : Detection := matchedWith "B" [.synthetic .excluded "A" "B" (.clamp 50)]

def outdoneLast : DetectionSet :=
  (DetectionSet.empty.push (matchedWith "A" []) rfl).push outdone (by decide +kernel)

def outdoneFirst : DetectionSet :=
  (DetectionSet.empty.push outdone rfl).push (matchedWith "A" []) (by decide +kernel)

theorem rank_stable_outdone :
    outdoneFirst.detections.Perm outdoneLast.detections ∧
      ∃ a ∈ rank outdoneLast, ∃ b ∈ rank outdoneLast,
        a.name = "A" ∧ a.confidence.value = 100 ∧ b.name = "B" ∧ b.confidence.value = 50 ∧
          a.score ≠ b.score ∧ [a, b].Sublist (rank outdoneFirst) := by
  have hperm : outdoneFirst.detections.Perm outdoneLast.detections := .swap ..
  have ha : finished outdoneLast (matchedWith "A" []) ∈ rank outdoneLast :=
    (rank_perm _).mem_iff.2 (List.mem_map_of_mem (.head _))
  have hb : finished outdoneLast outdone ∈ rank outdoneLast :=
    (rank_perm _).mem_iff.2 (List.mem_map_of_mem (.tail _ (.head _)))
  have hlt : (finished outdoneLast outdone).score <
      (finished outdoneLast (matchedWith "A" [])).score := by
    rw [← not_le, ← Detection.orderKey_rankScore_le_iff]
    decide +kernel
  have hplaces := ((rank_stable outdoneLast).2.2.2.2 outdoneFirst hperm).2.2 _ ha _ hb hlt.ne'
  exact ⟨hperm, _, ha, _, hb, rfl, by decide +kernel, rfl, by decide +kernel, hlt.ne',
    hplaces.2 ((pair_sublist_rank_iff ha hb hlt.ne').2 hlt)⟩

end Analysis

end Webprint
