import Webprint.Proofs.Saturation
import Webprint.Proofs.Scoring

set_option autoImplicit false

/-!
# How exact boosted weights are

The weights of evidence are added one after another, and each sum is kept in the range. Where this
comes to the exact sum, cut off once at the end, and on which evidence the order has no influence.
-/

namespace Webprint.Scoring

open Confidence (saturate least greatest walk gain loss Onward)

def ownValues (es : List Evidence) : List Int := (ownWeights es).map (·.value)

/-- What weights of zero add beside a positive one. -/
def bonus (es : List Evidence) : Int :=
  if (ownValues es).any fun w => 0 < w then
    min greatest (zeroBoost * ((ownValues es).filter fun w => w = 0).length)
  else 0

def exactWeight (es : List Evidence) : Int := (ownValues es).sum + bonus es

def weightSteps (es : List Evidence) : List Int := ownValues es ++ [bonus es]

/-- Positive weights fit the range, or the bonus makes up for what negative ones take away; negative
weights fit the range, or there are no positive ones. -/
def Moderate (es : List Evidence) : Prop :=
  (gain (ownValues es) ≤ greatest ∨ loss (ownValues es) ≤ bonus es) ∧
    (loss (ownValues es) ≤ -least ∨ gain (ownValues es) = 0)

theorem bonus_bounds (es : List Evidence) : 0 ≤ bonus es ∧ bonus es ≤ greatest := by
  unfold bonus zeroBoost greatest
  split <;> omega

theorem bonus_of_gain_eq_zero {es : List Evidence} (h : gain (ownValues es) = 0) : bonus es = 0 := by
  have hnone : ¬ (ownValues es).any fun w => 0 < w := by
    rw [List.any_eq_true]
    rintro ⟨w, hw, hpos⟩
    have := Confidence.gain_pos hw (of_decide_eq_true hpos)
    omega
  rw [bonus, if_neg hnone]

theorem value_sum_ownWeights (es : List Evidence) :
    (sum (ownWeights es)).value = walk 0 (ownValues es) :=
  Confidence.value_foldl_add .zero (ownWeights es)

theorem value_boosted (es : List Evidence) : (boosted es).value = walk 0 (weightSteps es) := by
  have hany : ((ownWeights es).any fun w => decide (0 < w.value)) =
      (ownValues es).any fun w => decide (0 < w) := by
    rw [ownValues, List.any_map]
    rfl
  have hzeros : ((ownWeights es).filter fun w => decide (w.value = 0)).length =
      ((ownValues es).filter fun w => decide (w = 0)).length := by
    rw [ownValues, List.filter_map, List.length_map]
    rfl
  have hbonus : (if (ownWeights es).any fun w => decide (0 < w.value) then
      Confidence.clamp (zeroBoost * ((ownWeights es).filter fun w => decide (w.value = 0)).length)
      else Confidence.zero).value = bonus es := by
    rw [hany, hzeros, bonus]
    split
    · rw [Confidence.value_clamp]
      unfold saturate zeroBoost least greatest
      omega
    · rfl
  rw [weightSteps, Confidence.walk_append, ← value_sum_ownWeights, ← hbonus]
  exact Confidence.value_add _ _

/-! ## Other orders -/

theorem ownValues_perm {es fs : List Evidence} (h : fs.Perm es) :
    (ownValues fs).Perm (ownValues es) :=
  ((h.filter _).map _).map _

theorem bonus_perm {es fs : List Evidence} (h : fs.Perm es) : bonus fs = bonus es := by
  have hvalues := ownValues_perm h
  rw [bonus, bonus, hvalues.any_eq, (hvalues.filter _).length_eq]

/-- What evidence weighs with all positive weights in front. -/
def leastWeight (es : List Evidence) : Int :=
  saturate (saturate (min greatest (gain (ownValues es)) - loss (ownValues es)) + bonus es)

/-- What evidence weighs with all negative weights in front. -/
def greatestWeight (es : List Evidence) : Int :=
  saturate (saturate (max least (-loss (ownValues es)) + gain (ownValues es)) + bonus es)

theorem value_boosted_perm {es fs : List Evidence} (h : fs.Perm es) :
    (boosted fs).value = saturate (walk 0 (ownValues fs) + bonus es) := by
  rw [value_boosted, weightSteps, Confidence.walk_append, bonus_perm h]
  rfl

theorem boosted_bounds {es fs : List Evidence} (h : fs.Perm es) :
    leastWeight es ≤ (boosted fs).value ∧ (boosted fs).value ≤ greatestWeight es := by
  have hvalues := ownValues_perm h
  have hbounds := Confidence.walk_bounds (by decide) (by decide : (0 : Int) ≤ greatest) (ownValues fs)
  rw [Confidence.gain_perm hvalues, Confidence.loss_perm hvalues, Int.zero_add,
    Int.zero_sub] at hbounds
  rw [value_boosted_perm h]
  exact ⟨Confidence.saturate_mono (Int.add_le_add_right hbounds.1 _),
    Confidence.saturate_mono (Int.add_le_add_right hbounds.2 _)⟩

theorem exists_perm_filter (p : Int → Bool) (es : List Evidence) :
    ∃ fs, fs.Perm es ∧
      ownValues fs = (ownValues es).filter p ++ (ownValues es).filter fun w => !p w := by
  refine ⟨_, List.filter_append_perm (fun e => p e.confidence.value) es, ?_⟩
  have hfilter (q : Int → Bool) :
      ownValues (es.filter fun e => q e.confidence.value) = (ownValues es).filter q := by
    simp only [ownValues, ownWeights, List.filter_map, List.filter_filter, List.map_map]
    congr 2
    funext e
    exact Bool.and_comm _ _
  rw [ownValues, ownWeights_append, List.map_append]
  exact congrArg₂ _ (hfilter p) (hfilter fun w => !p w)

theorem exists_leastWeight (es : List Evidence) :
    ∃ fs, fs.Perm es ∧ (boosted fs).value = leastWeight es := by
  obtain ⟨fs, hperm, hvalues⟩ := exists_perm_filter (fun w => 0 < w) es
  refine ⟨fs, hperm, ?_⟩
  rw [value_boosted_perm hperm, hvalues,
    Confidence.walk_ups_first (by decide) (by decide) (ownValues es), Int.zero_add]
  rfl

theorem exists_greatestWeight (es : List Evidence) :
    ∃ fs, fs.Perm es ∧ (boosted fs).value = greatestWeight es := by
  obtain ⟨fs, hperm, hvalues⟩ := exists_perm_filter (fun w => w < 0) es
  refine ⟨fs, hperm, ?_⟩
  rw [value_boosted_perm hperm, hvalues,
    Confidence.walk_downs_first (by decide) (by decide) (ownValues es), Int.zero_sub]
  rfl

/-! ## Where the order does not show -/

section Ends

variable (es : List Evidence)

theorem leastWeight_eq_greatestWeight_iff : leastWeight es = greatestWeight es ↔ Moderate es := by
  have hgain := Confidence.gain_nonneg (ownValues es)
  have hloss := Confidence.loss_nonneg (ownValues es)
  have hbonus := bonus_bounds es
  have hnone : gain (ownValues es) = 0 → bonus es = 0 := bonus_of_gain_eq_zero
  unfold leastWeight greatestWeight Moderate saturate least greatest at *
  omega

theorem greatestWeight_of_moderate (h : Moderate es) :
    greatestWeight es = saturate (exactWeight es) := by
  have hgain := Confidence.gain_nonneg (ownValues es)
  have hloss := Confidence.loss_nonneg (ownValues es)
  have hbonus := bonus_bounds es
  have hnone : gain (ownValues es) = 0 → bonus es = 0 := bonus_of_gain_eq_zero
  rw [exactWeight, Confidence.sum_eq_gain_sub_loss]
  unfold Moderate at h
  unfold greatestWeight saturate least greatest at *
  omega

end Ends

theorem moderate_of_constant {es : List Evidence} {w : Int}
    (h : ∀ fs, fs.Perm es → (boosted fs).value = w) : Moderate es := by
  obtain ⟨fs, hfs, hleast⟩ := exists_leastWeight es
  obtain ⟨gs, hgs, hgreatest⟩ := exists_greatestWeight es
  rw [← leastWeight_eq_greatestWeight_iff, ← hleast, ← hgreatest, h fs hfs, h gs hgs]

theorem boosted_of_moderate {es fs : List Evidence} (h : Moderate es) (hperm : fs.Perm es) :
    (boosted fs).value = saturate (exactWeight es) := by
  have hbounds := boosted_bounds hperm
  rw [(leastWeight_eq_greatestWeight_iff es).2 h, greatestWeight_of_moderate es h] at hbounds
  exact Int.le_antisymm hbounds.2 hbounds.1

/-- Evidence weighs the exact sum of its own weights and the bonus, cut off once, as long as no sum
on the way leaves the range and is led back. That this is so in every order, and that the order has no
influence, are both the case precisely for moderate evidence. -/
theorem boosted_exact_iff (es : List Evidence) :
    (Onward (weightSteps es) → (boosted es).value = saturate (exactWeight es)) ∧
      ((∀ fs, fs.Perm es → (boosted fs).value = saturate (exactWeight es)) ↔ Moderate es) ∧
      ((∀ fs, fs.Perm es → boosted fs = boosted es) ↔ Moderate es) := by
  refine ⟨fun h => ?_, ⟨moderate_of_constant, fun h fs => boosted_of_moderate h⟩, ?_⟩
  · rw [value_boosted, Confidence.walk_of_onward h, weightSteps, List.sum_append,
      List.sum_singleton, exactWeight]
  · constructor
    · intro h
      exact moderate_of_constant fun fs hfs => congrArg (·.value) (h fs hfs)
    · intro h fs hfs
      apply Confidence.ext
      rw [boosted_of_moderate h hfs, boosted_of_moderate h (.refl es)]

def textEvidence (i : Int) : Evidence := ⟨none, .matched .html, "T", .clamp i, "", ""⟩

def overrun : List Evidence := [textEvidence greatest, textEvidence 1, textEvidence (-1)]

/-- One more than the greatest weight is cut off at once, and what is taken away afterwards is missing.
With the last piece of evidence in front the sum is exact. -/
theorem boosted_not_exact :
    (boosted overrun).value = 9223372036854775806 ∧
      saturate (exactWeight overrun) = 9223372036854775807 ∧
      overrun.reverse.Perm overrun ∧ (boosted overrun.reverse).value = 9223372036854775807 :=
  ⟨by decide, by decide, List.reverse_perm overrun, by decide⟩

end Webprint.Scoring
