import Webprint.Confidence

set_option autoImplicit false

/-!
# Arithmetic of confidences

The operations on confidences in terms of integers.
-/

namespace Webprint.Confidence

theorem ext {a b : Confidence} (h : a.value = b.value) : a = b := by
  cases a
  cases b
  cases h
  rfl

/-- The integer of 64 bits nearest to an integer. -/
def saturate (i : Int) : Int := max least (min i greatest)

@[simp] theorem value_clamp (i : Int) : (clamp i).value = saturate i := by
  have hle : least ≤ greatest := by decide
  unfold clamp saturate
  by_cases hlo : i < least
  · simp only [hlo, ↓reduceDIte]
    omega
  · by_cases hhi : greatest < i
    · simp only [hlo, hhi, ↓reduceDIte]
      omega
    · simp only [hlo, hhi, ↓reduceDIte]
      omega

@[simp] theorem saturate_value (c : Confidence) : saturate c.value = c.value := by
  have hlo := c.lower
  have hhi := c.upper
  unfold saturate
  omega

theorem clamp_value (c : Confidence) : clamp c.value = c := by
  apply ext
  simp

@[simp] theorem value_add (a b : Confidence) : (a + b).value = saturate (a.value + b.value) :=
  value_clamp _

@[simp] theorem value_sub (a b : Confidence) : (a - b).value = saturate (a.value - b.value) :=
  value_clamp _

@[simp] theorem value_mul (a b : Confidence) : (a * b).value = saturate (a.value * b.value) :=
  value_clamp _

/-- The percentage of a saturated product needs no saturation of its own. -/
@[simp] theorem value_percent (w b : Confidence) :
    (w.percent b).value = saturate (w.value * b.value) / 100 := by
  have hlo := (clamp (w.value * b.value)).lower
  have hhi := (clamp (w.value * b.value)).upper
  rw [percent, value_clamp, ← value_clamp (w.value * b.value)]
  unfold saturate least greatest at *
  omega

/-! ## A share that is added or taken away -/

theorem saturate_sub_share_le_iff (b : Confidence) (x : Int) :
    saturate (b.value - saturate x / 100) ≤ b.value ↔ 0 ≤ x ∨ b.value = greatest := by
  have hlo := b.lower
  have hhi := b.upper
  unfold saturate least greatest at *
  omega

theorem le_saturate_add_share_iff (b : Confidence) (x : Int) :
    b.value ≤ saturate (b.value + saturate x / 100) ↔ 0 ≤ x ∨ b.value = least := by
  have hlo := b.lower
  have hhi := b.upper
  unfold saturate least greatest at *
  omega

end Webprint.Confidence
