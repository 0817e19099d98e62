import Mathlib.Algebra.BigOperators.Group.List.Basic
import Mathlib.Algebra.Ring.Int.Defs
import Mathlib.Data.List.Induction
import Mathlib.Data.List.Perm.Basic
import Webprint.Proofs.Confidence

set_option autoImplicit false

/-!
# Sums that are kept in range

Steps are taken one after another, and after each of them what is beyond the range of a confidence is
cut off. In whatever order they are taken, the end lies between two values: the one that all steps up
lead to if they come first, and the one that all steps down lead to if they come first. Both are
reached.
-/

namespace Webprint.Confidence

/-- Where steps lead from an integer if each of them ends in the range. -/
def walk (x : Int) (steps : List Int) : Int := steps.foldl (fun x step => saturate (x + step)) x

@[simp] theorem walk_append (x : Int) (steps later : List Int) :
    walk x (steps ++ later) = walk (walk x steps) later :=
  List.foldl_append

theorem saturate_bounds (i : Int) : least ≤ saturate i ∧ saturate i ≤ greatest := by
  unfold saturate least greatest
  omega

theorem saturate_mono {i j : Int} (h : i ≤ j) : saturate i ≤ saturate j := by
  unfold saturate
  omega

def gain (steps : List Int) : Int := (steps.filter fun step => 0 < step).sum

def loss (steps : List Int) : Int := -(steps.filter fun step => step < 0).sum

@[simp] theorem gain_cons (step : Int) (steps : List Int) :
    gain (step :: steps) = max step 0 + gain steps := by
  unfold gain
  by_cases h : 0 < step
  · rw [List.filter_cons_of_pos (by simpa using h), List.sum_cons]
    omega
  · rw [List.filter_cons_of_neg (by simpa using h)]
    omega

/-- A step down is a step up the other way. -/
theorem loss_eq_gain (steps : List Int) : loss steps = gain (steps.map Neg.neg) := by
  have hdown : ((fun step : Int => decide (0 < step)) ∘ Neg.neg) = fun step => decide (step < 0) := by
    funext step
    simp
  rw [loss, gain, List.filter_map, hdown, List.sum_neg]

@[simp] theorem loss_cons (step : Int) (steps : List Int) :
    loss (step :: steps) = max (-step) 0 + loss steps := by
  simp only [loss_eq_gain, List.map_cons, gain_cons]

theorem gain_nonneg (steps : List Int) : 0 ≤ gain steps := by
  induction steps with
  | nil => exact Int.le_refl 0
  | cons step steps ih =>
    rw [gain_cons]
    omega

theorem loss_nonneg (steps : List Int) : 0 ≤ loss steps := by
  rw [loss_eq_gain]
  exact gain_nonneg _

theorem sum_eq_gain_sub_loss (steps : List Int) : steps.sum = gain steps - loss steps := by
  induction steps with
  | nil => rfl
  | cons step steps ih =>
    rw [List.sum_cons, gain_cons, loss_cons]
    omega

theorem sum_natAbs (steps : List Int) :
    (steps.map fun step => (step.natAbs : Int)).sum = gain steps + loss steps := by
  induction steps with
  | nil => rfl
  | cons step steps ih =>
    rw [List.map_cons, List.sum_cons, gain_cons, loss_cons]
    omega

theorem gain_pos {step : Int} {steps : List Int} (h : step ∈ steps) (hpos : 0 < step) :
    0 < gain steps := by
  induction steps with
  | nil => cases h
  | cons first steps ih =>
    have hrest := gain_nonneg steps
    rw [gain_cons]
    rcases List.mem_cons.1 h with rfl | h
    · omega
    · have := ih h
      omega

/-- The end of a walk is bounded from below by taking all steps up first, and from above by taking
all steps down first. -/
theorem walk_bounds {x : Int} (hlo : least ≤ x) (hhi : x ≤ greatest) (steps : List Int) :
    saturate (min greatest (x + gain steps) - loss steps) ≤ walk x steps ∧
      walk x steps ≤ saturate (max least (x - loss steps) + gain steps) := by
  induction steps generalizing x with
  | nil =>
    change saturate (min greatest (x + 0) - 0) ≤ x ∧ x ≤ saturate (max least (x - 0) + 0)
    unfold saturate
    omega
  | cons step steps ih =>
    obtain ⟨hlo', hhi'⟩ := saturate_bounds (x + step)
    obtain ⟨hbelow, habove⟩ := ih hlo' hhi'
    have hgain := gain_nonneg steps
    have hloss := loss_nonneg steps
    have hstep : saturate (x + step) = max least (min (x + step) greatest) := rfl
    rw [gain_cons, loss_cons]
    refine ⟨Int.le_trans (saturate_mono ?_) hbelow, Int.le_trans habove (saturate_mono ?_)⟩
    · omega
    · omega

theorem walk_of_loss_eq_zero {x : Int} (hlo : least ≤ x) (hhi : x ≤ greatest) {steps : List Int}
    (h : loss steps = 0) : walk x steps = saturate (x + gain steps) := by
  have hbounds := walk_bounds hlo hhi steps
  have hgain := gain_nonneg steps
  rw [h] at hbounds
  unfold saturate least greatest at *
  omega

theorem walk_of_gain_eq_zero {x : Int} (hlo : least ≤ x) (hhi : x ≤ greatest) {steps : List Int}
    (h : gain steps = 0) : walk x steps = saturate (x - loss steps) := by
  have hbounds := walk_bounds hlo hhi steps
  have hloss := loss_nonneg steps
  rw [h] at hbounds
  unfold saturate least greatest at *
  omega

@[simp] theorem gain_append (steps later : List Int) :
    gain (steps ++ later) = gain steps + gain later := by
  rw [gain, List.filter_append, List.sum_append]
  rfl

@[simp] theorem loss_append (steps later : List Int) :
    loss (steps ++ later) = loss steps + loss later := by
  simp only [loss_eq_gain, List.map_append, gain_append]

theorem gain_perm {steps others : List Int} (h : steps.Perm others) : gain steps = gain others :=
  (h.filter _).sum_eq

theorem loss_perm {steps others : List Int} (h : steps.Perm others) : loss steps = loss others := by
  rw [loss_eq_gain, loss_eq_gain]
  exact gain_perm (h.map _)

theorem gain_eq_zero {steps : List Int} (h : ∀ step ∈ steps, step ≤ 0) : gain steps = 0 := by
  have hnone : steps.filter (fun step => 0 < step) = [] := by
    rw [List.filter_eq_nil_iff]
    intro step hstep
    simpa using h step hstep
  rw [gain, hnone]
  rfl

theorem loss_eq_zero {steps : List Int} (h : ∀ step ∈ steps, 0 ≤ step) : loss steps = 0 := by
  rw [loss_eq_gain]
  refine gain_eq_zero fun down hdown => ?_
  obtain ⟨step, hstep, rfl⟩ := List.mem_map.1 hdown
  exact Int.neg_nonpos_of_nonneg (h step hstep)

section Orders

variable {x : Int} (hlo : least ≤ x) (hhi : x ≤ greatest) (steps : List Int)

include hlo hhi

theorem walk_ups_first :
    walk x (steps.filter (fun step => 0 < step) ++ steps.filter fun step => !0 < step) =
      saturate (min greatest (x + gain steps) - loss steps) := by
  have hperm := List.filter_append_perm (fun step : Int => decide (0 < step)) steps
  have hups : loss (steps.filter fun step => 0 < step) = 0 :=
    loss_eq_zero fun step hstep => Int.le_of_lt (of_decide_eq_true (List.mem_filter.1 hstep).2)
  have hdowns : gain (steps.filter fun step => !0 < step) = 0 :=
    gain_eq_zero fun step hstep => by simpa using (List.mem_filter.1 hstep).2
  obtain ⟨hlo', hhi'⟩ := saturate_bounds (x + gain (steps.filter fun step => 0 < step))
  have hgain := gain_nonneg (steps.filter fun step => 0 < step)
  rw [walk_append, walk_of_loss_eq_zero hlo hhi hups, walk_of_gain_eq_zero hlo' hhi' hdowns,
    ← gain_perm hperm, ← loss_perm hperm, gain_append, loss_append, hups, hdowns]
  unfold saturate at *
  omega

theorem walk_downs_first :
    walk x (steps.filter (fun step => step < 0) ++ steps.filter fun step => !step < 0) =
      saturate (max least (x - loss steps) + gain steps) := by
  have hperm := List.filter_append_perm (fun step : Int => decide (step < 0)) steps
  have hdowns : gain (steps.filter fun step => step < 0) = 0 :=
    gain_eq_zero fun step hstep => Int.le_of_lt (of_decide_eq_true (List.mem_filter.1 hstep).2)
  have hups : loss (steps.filter fun step => !step < 0) = 0 :=
    loss_eq_zero fun step hstep => by simpa using (List.mem_filter.1 hstep).2
  obtain ⟨hlo', hhi'⟩ := saturate_bounds (x - loss (steps.filter fun step => step < 0))
  have hloss := loss_nonneg (steps.filter fun step => step < 0)
  rw [walk_append, walk_of_gain_eq_zero hlo hhi hdowns, walk_of_loss_eq_zero hlo' hhi' hups,
    ← gain_perm hperm, ← loss_perm hperm, gain_append, loss_append, hups, hdowns]
  unfold saturate at *
  omega

end Orders

/-! ## Exact sums -/

/-- No step leads back from where the sum of those before it has left the range. -/
def Onward (steps : List Int) : Prop :=
  ∀ before step after, steps = before ++ step :: after →
    (greatest < before.sum → 0 ≤ step) ∧ (before.sum < least → step ≤ 0)

theorem walk_of_onward {steps : List Int} (h : Onward steps) : walk 0 steps = saturate steps.sum := by
  induction steps using List.reverseRecOn with
  | nil => rfl
  | append_singleton steps step ih =>
    have hbefore : Onward steps := by
      intro before next after heq
      exact h before next (after ++ [step]) (by rw [heq, List.append_assoc, List.cons_append])
    obtain ⟨hup, hdown⟩ := h steps step [] rfl
    rw [walk_append, ih hbefore, List.sum_append, List.sum_singleton]
    change saturate (saturate steps.sum + step) = _
    unfold saturate least greatest at *
    omega

theorem walk_of_sum_natAbs_le {steps : List Int}
    (h : (steps.map fun step => (step.natAbs : Int)).sum ≤ greatest) : walk 0 steps = steps.sum := by
  have hbounds := walk_bounds (by decide) (by decide : (0 : Int) ≤ greatest) steps
  have hgain := gain_nonneg steps
  have hloss := loss_nonneg steps
  rw [sum_natAbs] at h
  rw [sum_eq_gain_sub_loss]
  unfold saturate least greatest at *
  omega

theorem value_foldl_add (c : Confidence) (cs : List Confidence) :
    (cs.foldl (· + ·) c).value = walk c.value (cs.map (·.value)) := by
  induction cs generalizing c with
  | nil => rfl
  | cons d cs ih =>
    rw [List.foldl_cons, ih, value_add]
    rfl

end Webprint.Confidence
