import Mathlib.Data.List.Sublists
import Webprint.Proofs.Analysis
import Webprint.Proofs.Rounding

set_option autoImplicit false

/-!
# Which detection stands first

Detections are sorted by their scores, and those that the page gives evidence for come before those
that are only implied when scores are equal. A score is the confidence as a double, and for an
implied detection two thirds of it; in the range where doubles hold all quarters, doubles compare
like the numbers that they are rounded from.
-/

namespace Webprint

/-! ## Two items of a sorted list -/

section Pairs

variable {α : Type}

theorem pair_sublist_or {as : List α} {a b : α} (ha : a ∈ as) (hb : b ∈ as) (h : a ≠ b) :
    [a, b].Sublist as ∨ [b, a].Sublist as := by
  obtain ⟨before, after, rfl⟩ := List.append_of_mem ha
  rcases List.mem_append.1 hb with hbefore | hafter
  · right
    exact (List.singleton_sublist.2 hbefore).append (List.singleton_sublist.2 (by simp))
  · left
    have hin : b ∈ after := (List.mem_cons.1 hafter).resolve_left (Ne.symm h)
    exact ((List.singleton_sublist.2 hin).cons_cons a).trans (List.sublist_append_right _ _)

/-- Of two items of a sorted list, the one that may not stand behind the other stands first. -/
theorem pair_sublist_of_pairwise {r : α → α → Prop} {as : List α} (h : as.Pairwise r) {a b : α}
    (ha : a ∈ as) (hb : b ∈ as) (hne : a ≠ b) (hr : ¬ r b a) : [a, b].Sublist as :=
  (pair_sublist_or ha hb hne).resolve_right fun hba => hr (List.pairwise_pair.1 (h.sublist hba))

theorem not_sublist_swapped {as : List α} (h : as.Nodup) {a b : α} (hab : [a, b].Sublist as) :
    ¬ [b, a].Sublist as := by
  induction as with
  | nil => cases hab
  | cons x as ih =>
    obtain ⟨hx, has⟩ := List.nodup_cons.1 h
    intro hba
    rcases List.sublist_cons_iff.1 hab with hrest | ⟨_, heq, hb⟩
    · rcases List.sublist_cons_iff.1 hba with hba | ⟨_, heq, -⟩
      · exact ih has hrest hba
      · have hb : b ∈ as := hrest.subset (by simp)
        cases heq
        exact hx hb
    · have hb : b ∈ as := by
        cases heq
        exact hb.subset (by simp)
      rcases List.sublist_cons_iff.1 hba with hba | ⟨_, heq', -⟩
      · have ha : a ∈ as := hba.subset (by simp)
        cases heq
        exact hx ha
      · cases heq'
        exact hx hb

theorem swapped_mergeSort_iff {le : α → α → Bool}
    (trans : ∀ a b c : α, le a b = true → le b c = true → le a c = true)
    (total : ∀ a b : α, (le a b || le b a) = true) {as : List α} (hnodup : as.Nodup) {a b : α}
    (h : [a, b].Sublist as) : [b, a].Sublist (as.mergeSort le) ↔ le a b = false := by
  have hperm := List.mergeSort_perm as le
  have hsorted := hperm.nodup_iff.2 hnodup
  constructor
  · intro hba
    rw [Bool.eq_false_iff]
    intro hle
    exact not_sublist_swapped hsorted (List.pair_sublist_mergeSort trans total hle h) hba
  · intro hle
    have ha : a ∈ as.mergeSort le := hperm.mem_iff.2 (h.subset (by simp))
    have hb : b ∈ as.mergeSort le := hperm.mem_iff.2 (h.subset (by simp))
    have hne : a ≠ b := by
      rintro rfl
      exact not_sublist_swapped hnodup h h
    refine pair_sublist_of_pairwise (List.pairwise_mergeSort trans total as) hb ha hne.symm ?_
    rw [hle]
    exact Bool.false_ne_true

end Pairs

/-! ## Scores -/

namespace Detection

open Decimal Binary64

theorem exists_doubleOf_nearest {i : ℤ} (h : i.natAbs ≤ 2 ^ 63) :
    ∃ a, a < 2 ^ 63 ∧ Nearest a i.natAbs ∧ doubleOf i = ofParts (i < 0) a := by
  have hsmall : ((i.natAbs : ℕ) : ℚ) / ((1 : ℕ) : ℚ) < 2 ^ 64 := by
    rw [Nat.cast_one, div_one]
    exact_mod_cast h.trans_lt (by norm_num)
  obtain ⟨a, ha, hnearest, hratio⟩ := exists_ofRatio (i < 0) i.natAbs Nat.one_pos hsmall
  rw [Nat.cast_one, div_one] at hnearest
  exact ⟨a, ha, hnearest, by rw [doubleOf, hratio, Option.getD_some]⟩

theorem exists_doubleOf {i : ℤ} (h : i.natAbs < 2 ^ 53) :
    ∃ a, a < 2 ^ 63 ∧ magnitude a = i.natAbs ∧ doubleOf i = ofParts (i < 0) a := by
  obtain ⟨a, ha, hnearest, hdouble⟩ := exists_doubleOf_nearest (i := i) (by omega)
  have hexact : ∃ t, magnitude t = i.natAbs := by
    rcases Nat.eq_zero_or_pos i.natAbs with hzero | hpos
    · exact ⟨0, by rw [hzero, magnitude_zero, Nat.cast_zero]⟩
    · obtain ⟨t, ht⟩ := exists_magnitude (e := 0) hpos Nat.one_pos (by decide) h (by simp)
      exact ⟨t, by rw [ht, Nat.cast_one, div_one]⟩
  obtain ⟨t, ht⟩ := hexact
  rw [← ht] at hnearest
  obtain rfl := hnearest.eq_of_magnitude
  exact ⟨a, ha, ht, hdouble⟩

theorem magnitude_impliedDivisor : magnitude impliedDivisor.size = 3 / 2 := by
  have hsize : impliedDivisor.size = 1023 * 2 ^ 52 + 2 ^ 51 := by decide
  rw [hsize, magnitude_of_normal (by decide) (by decide)]
  norm_num

theorem exists_div_impliedDivisor (negative : Bool) {a : Nat} (ha : a < 2 ^ 63)
    (h : magnitude a ≤ 2 ^ 64) :
    ∃ s, s < 2 ^ 63 ∧ Nearest s (2 * magnitude a / 3) ∧
      (ofParts negative a).div? impliedDivisor = some (ofParts negative s) := by
  have hdivisor := magnitude_impliedDivisor
  have hquotient : magnitude (ofParts negative a).size / magnitude impliedDivisor.size =
      2 * magnitude a / 3 := by
    rw [size_ofParts _ ha, hdivisor]
    ring
  obtain ⟨s, hs, hnearest, hdiv⟩ := exists_div? (ofParts negative a) (y := impliedDivisor)
    (by rw [hdivisor]; norm_num) (by rw [hquotient]; linarith)
  have hpositive : impliedDivisor.negative = false := by decide
  rw [hquotient] at hnearest
  rw [negative_ofParts _ ha, hpositive, Bool.bne_false] at hdiv
  exact ⟨s, hs, hnearest, hdiv⟩

theorem exists_impliedScore {i : ℤ} (h : i.natAbs < 2 ^ 53) :
    ∃ s, s < 2 ^ 63 ∧ Nearest s (2 * i.natAbs / 3) ∧
      ((doubleOf i).div? impliedDivisor).getD (doubleOf i) = ofParts (i < 0) s := by
  obtain ⟨a, ha, hmagnitude, hdouble⟩ := exists_doubleOf h
  have hcast : (i.natAbs : ℚ) < 2 ^ 53 := by exact_mod_cast h
  obtain ⟨s, hs, hnearest, hdiv⟩ :=
    exists_div_impliedDivisor (i < 0) ha (by rw [hmagnitude]; linarith)
  rw [hmagnitude] at hnearest
  exact ⟨s, hs, hnearest, by rw [hdouble, hdiv, Option.getD_some]⟩

theorem exists_quarter {n : Nat} (hpos : 0 < n) (h : n < 2 ^ 53) : ∃ t, magnitude t = n / 4 := by
  have hvalue : (n : ℚ) / (4 : ℕ) = n * 2 ^ (-2 : ℤ) := by
    norm_num [zpow_neg, div_eq_mul_inv]
  obtain ⟨t, ht⟩ := exists_magnitude (e := -2) hpos (by decide : 0 < 4) (by decide) h hvalue
  exact ⟨t, ht.trans (by norm_num)⟩

/-- A number less than a third of a whole one is less by more than a quarter, so it stays less when
the third is rounded. -/
theorem lt_of_nearest_third {a s m n : Nat} (ha : magnitude a = m) (hm : m ≤ 2 ^ 50)
    (hs : Nearest s (n / 3)) (h : 3 * m < n) : a < s := by
  obtain ⟨t, ht⟩ := exists_quarter (n := 4 * m + 1) (by omega) (by omega)
  have hat : a < t := by
    rw [← magnitude_strictMono.lt_iff_lt, ha, ht]
    push_cast
    linarith
  have hcast : (3 * m + 1 : ℚ) ≤ n := by exact_mod_cast h
  have htn : magnitude t < n / 3 := by
    rw [ht]
    push_cast
    linarith
  exact hat.trans_le (Nearest.le_of_lt (fun _ => by simp) hs htn)

theorem gt_of_nearest_third {a s m n : Nat} (ha : magnitude a = m) (hm : m ≤ 2 ^ 50)
    (hs : Nearest s (n / 3)) (h : n < 3 * m) : s < a := by
  obtain ⟨t, ht⟩ := exists_quarter (n := 4 * m - 1) (by omega) (by omega)
  have hsub : ((4 * m - 1 : ℕ) : ℚ) = 4 * m - 1 := by
    rw [Nat.cast_sub (by omega)]
    push_cast
    ring
  have hta : t < a := by
    rw [← magnitude_strictMono.lt_iff_lt, ha, ht, hsub]
    linarith
  have hcast : (n + 1 : ℚ) ≤ 3 * m := by exact_mod_cast h
  have hnt : (n / 3 : ℚ) < magnitude t := by
    rw [ht, hsub]
    linarith
  exact (Nearest.le_of_lt hs (fun _ => by simp) hnt).trans_lt hta

theorem eq_of_nearest_third {a s m : Nat} (ha : magnitude a = m)
    (hs : Nearest s ((3 * m : ℕ) / 3)) : s = a := by
  have hvalue : (((3 * m : ℕ) : ℚ) / 3) = magnitude a := by
    rw [ha]
    push_cast
    ring
  rw [hvalue] at hs
  exact hs.eq_of_magnitude

theorem nearest_third_iff {a s m n : Nat} (ha : magnitude a = m) (hm : m ≤ 2 ^ 50)
    (hs : Nearest s (n / 3)) : (a < s ↔ 3 * m < n) ∧ (s < a ↔ n < 3 * m) := by
  rcases Nat.lt_trichotomy (3 * m) n with habove | rfl | hbelow
  · have hlt := lt_of_nearest_third ha hm hs habove
    omega
  · have heq := eq_of_nearest_third ha hs
    omega
  · have hlt := gt_of_nearest_third ha hm hs hbelow
    omega

/-- Between a detection of its own right and an implied one, two thirds of the latter's confidence
decide. -/
theorem rankScore_lt_iff {d i : Detection} (hd : d.implied = false) (hi : i.implied = true)
    (hdbound : d.confidence.value.natAbs ≤ 2 ^ 50) (hibound : i.confidence.value.natAbs ≤ 2 ^ 50) :
    d.rankScore.orderKey < i.rankScore.orderKey ↔
      3 * d.confidence.value < 2 * i.confidence.value := by
  obtain ⟨a, ha, hmagnitude, hdouble⟩ :=
    exists_doubleOf (i := d.confidence.value) (by omega)
  obtain ⟨s, hs, hnearest, hscore⟩ :=
    exists_impliedScore (i := i.confidence.value) (by omega)
  have hthird : (2 * (i.confidence.value.natAbs : ℚ) / 3) =
      ((2 * i.confidence.value.natAbs : ℕ) : ℚ) / 3 := by push_cast; ring
  rw [hthird] at hnearest
  obtain ⟨habove, hbelow⟩ := nearest_third_iff hmagnitude hdbound hnearest
  have hdscore : d.rankScore = ofParts (d.confidence.value < 0) a := by
    rw [rankScore, hd]
    exact hdouble
  have hiscore : i.rankScore = ofParts (i.confidence.value < 0) s := by
    rw [rankScore, hi]
    exact hscore
  rw [hdscore, hiscore, orderKey_ofParts _ ha, orderKey_ofParts _ hs]
  by_cases hdneg : d.confidence.value < 0 <;> by_cases hineg : i.confidence.value < 0 <;>
    simp only [hdneg, hineg, decide_true, decide_false, if_true, if_false, Bool.false_eq_true] <;>
    omega

end Detection

namespace Analysis

open Matching Relating Scoring

variable {c : Catalogue} {s : Snapshot}

theorem standsBefore_trans (a b d : Detection) (hab : standsBefore a b = true)
    (hbd : standsBefore b d = true) : standsBefore a d = true := by
  simp only [standsBefore, decide_eq_true_eq] at *
  omega

theorem standsBefore_total (a b : Detection) : (standsBefore a b || standsBefore b a) = true := by
  simp only [standsBefore, Bool.or_eq_true, decide_eq_true_eq]
  omega

theorem implied_eq {d : Detection} (h : d ∈ analyze c s) :
    d.implied = decide (¬ Direct c s d.name) := by
  obtain ⟨n, -, rfl⟩ := mem_ofEvidence.1 h
  exact decide_eq_decide.2 (not_congr mem_subjects_evidence)

theorem implied_first_iff {i d : Detection} (hi : i ∈ analyze c s) (hd : d ∈ analyze c s)
    (himplied : ¬ Direct c s i.name) (hdirect : Direct c s d.name) :
    [i, d].Sublist (analyze c s) ↔ d.rankScore.orderKey < i.rankScore.orderKey := by
  obtain ⟨n, hn, rfl⟩ := mem_ofEvidence.1 hi
  obtain ⟨m, hm, rfl⟩ := mem_ofEvidence.1 hd
  have hm' : m ∈ subjects (evidence c s) := mem_subjects_evidence.2 hdirect
  have hn' : n ∈ subjects (unmet (aggregate c (evidence c s)) (said c (evidence c s))) :=
    (List.mem_append.1 hn).resolve_left fun h => himplied (mem_subjects_evidence.1 h)
  have hnames : [m, n].Sublist (outcomeNames c (evidence c s)) :=
    (List.singleton_sublist.2 hm').append (List.singleton_sublist.2 hn')
  have hnodup : ((outcomeNames c (evidence c s)).map (outcome c (evidence c s))).Nodup := by
    refine List.Nodup.of_map Detection.name ?_
    rw [List.map_map]
    exact (List.map_id _).symm ▸ nodup_outcomeNames c (evidence c s)
  have hsorted : analyze c s =
      ((outcomeNames c (evidence c s)).map (outcome c (evidence c s))).mergeSort standsBefore :=
    ofEvidence_eq c (evidence c s)
  rw [hsorted, swapped_mergeSort_iff standsBefore_trans standsBefore_total hnodup
    (hnames.map (outcome c (evidence c s))), standsBefore, decide_eq_false_iff_not, Int.not_le]

/-- What is only implied stands before what the page gives evidence for exactly if two thirds of its
confidence are greater than the other's confidence. If its confidence is not greater itself, this
takes two negative confidences. -/
theorem implied_penalty (c : Catalogue) (s : Snapshot) :
    ∀ i ∈ analyze c s, ∀ d ∈ analyze c s, ¬ Direct c s i.name → Direct c s d.name →
      i.confidence.value.natAbs ≤ 2 ^ 50 → d.confidence.value.natAbs ≤ 2 ^ 50 →
        ([i, d].Sublist (analyze c s) ↔ 3 * d.confidence.value < 2 * i.confidence.value) ∧
          (i.confidence.value ≤ d.confidence.value →
            0 ≤ i.confidence.value ∨ 0 ≤ d.confidence.value → ¬ [i, d].Sublist (analyze c s)) := by
  intro i hi d hd himplied hdirect hibound hdbound
  have hiflag : i.implied = true := by
    rw [implied_eq hi]
    exact decide_eq_true himplied
  have hdflag : d.implied = false := by
    rw [implied_eq hd]
    exact decide_eq_false fun h => h hdirect
  have hfirst := implied_first_iff hi hd himplied hdirect
  rw [Detection.rankScore_lt_iff hdflag hiflag hdbound hibound] at hfirst
  refine ⟨hfirst, fun hle hsign hsublist => ?_⟩
  have hless := hfirst.1 hsublist
  omega

def weighted (name : String) (w : Confidence) : Signature :=
  { traced name [] with
    matchers := SortedMap.empty.insert .js
      (.keyed [⟨"version", [⟨{ regex := "", confidence := w }, .ofNode .empty, rfl⟩], none, rfl⟩]) }

def besideImplied (w : Confidence) : Catalogue :=
  .ofSignatures [traced "A" [⟨"C", w⟩], weighted "B" w]

theorem implied_penalty_sixty :
    ∃ i ∈ analyze (besideImplied (.clamp 60)) couplePage,
      ∃ d ∈ analyze (besideImplied (.clamp 60)) couplePage,
        i.confidence.value = 60 ∧ d.confidence.value = 60 ∧
          ¬ [i, d].Sublist (analyze (besideImplied (.clamp 60)) couplePage) := by
  let c := besideImplied (.clamp 60)
  let es := evidence c couplePage
  have hdirect : Direct c couplePage "B" := by decide +kernel
  have himplied : ¬ Direct c couplePage "C" := by decide +kernel
  have hd : outcome c es "B" ∈ analyze c couplePage :=
    mem_ofEvidence.2 ⟨"B", mem_outcomeNames.2 (.inl hdirect), rfl⟩
  have hi : outcome c es "C" ∈ analyze c couplePage :=
    mem_ofEvidence.2 ⟨"C", by decide +kernel, rfl⟩
  have hdweight : (outcome c es "B").confidence.value = 60 := by decide +kernel
  have hiweight : (outcome c es "C").confidence.value = 60 := by decide +kernel
  have hpenalty := implied_penalty c couplePage _ hi _ hd himplied hdirect
    (by rw [hiweight]; decide) (by rw [hdweight]; decide)
  refine ⟨_, hi, _, hd, hiweight, hdweight, hpenalty.2 ?_ (.inl ?_)⟩
  · rw [hiweight, hdweight]
  · rw [hiweight]
    decide

/-- Two thirds of a negative confidence are more than the whole. -/
theorem negative_implied_first :
    ∃ i ∈ analyze (besideImplied (.clamp (-60))) couplePage,
      ∃ d ∈ analyze (besideImplied (.clamp (-60))) couplePage,
        ¬ Direct (besideImplied (.clamp (-60))) couplePage i.name ∧
          Direct (besideImplied (.clamp (-60))) couplePage d.name ∧
          i.confidence.value = -60 ∧ d.confidence.value = -60 ∧
          [i, d].Sublist (analyze (besideImplied (.clamp (-60))) couplePage) := by
  let c := besideImplied (.clamp (-60))
  let es := evidence c couplePage
  have hdirect : Direct c couplePage "B" := by decide +kernel
  have himplied : ¬ Direct c couplePage "C" := by decide +kernel
  have hd : outcome c es "B" ∈ analyze c couplePage :=
    mem_ofEvidence.2 ⟨"B", mem_outcomeNames.2 (.inl hdirect), rfl⟩
  have hi : outcome c es "C" ∈ analyze c couplePage :=
    mem_ofEvidence.2 ⟨"C", by decide +kernel, rfl⟩
  refine ⟨_, hi, _, hd, himplied, hdirect, ?_, ?_, (implied_first_iff hi hd himplied hdirect).2 ?_⟩
  · decide +kernel
  · decide +kernel
  · decide +kernel

end Analysis

end Webprint
