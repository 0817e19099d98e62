import Mathlib.Algebra.Order.Archimedean.Basic
import Mathlib.Algebra.Order.Floor.Ring
import Mathlib.Tactic.FieldSimp
import Mathlib.Tactic.Linarith
import Mathlib.Tactic.NormNum
import Mathlib.Tactic.Positivity
import Mathlib.Tactic.Ring
import Webprint.Decimal.Binary64

set_option autoImplicit false

/-!
# Rounding to doubles

The numbers that doubles stand for, and that `ofRatio` picks one nearest to a fraction. So a greater
fraction never gets a smaller double, and what a double stands for is kept.
-/

namespace Webprint.Decimal.Binary64

def size (x : Binary64) : Nat := x.bits.toNat % 2 ^ 63

/-- What a double of a given size stands for. -/
def magnitude (s : Nat) : ℚ :=
  if s < 2 ^ 52 then s * 2 ^ (-1074 : ℤ)
  else ((s % 2 ^ 52 + 2 ^ 52 : ℕ) : ℚ) * 2 ^ ((s / 2 ^ 52 : ℕ) - 1075 : ℤ)

theorem two_zpow_pos (e : ℤ) : (0 : ℚ) < 2 ^ e := zpow_pos (by norm_num) e

theorem two_zpow_succ (e : ℤ) : (2 : ℚ) ^ (e + 1) = 2 * 2 ^ e := by
  rw [zpow_add_one₀ (by norm_num), mul_comm]

theorem two_zpow_le {d e : ℤ} (h : d ≤ e) : (2 : ℚ) ^ d ≤ 2 ^ e :=
  zpow_le_zpow_right₀ (by norm_num) h

/-! ## What sizes stand for -/

theorem magnitude_of_normal {b f : Nat} (hb : 0 < b) (hf : f < 2 ^ 52) :
    magnitude (b * 2 ^ 52 + f) = ((f + 2 ^ 52 : ℕ) : ℚ) * 2 ^ ((b : ℤ) - 1075) := by
  have hlarge : ¬ b * 2 ^ 52 + f < 2 ^ 52 := by omega
  have hmod : (b * 2 ^ 52 + f) % 2 ^ 52 = f := by omega
  have hdiv : (b * 2 ^ 52 + f) / 2 ^ 52 = b := by omega
  rw [magnitude, if_neg hlarge, hmod, hdiv]

theorem magnitude_of_small {s : Nat} (h : s ≤ 2 ^ 52) : magnitude s = s * 2 ^ (-1074 : ℤ) := by
  rcases Nat.lt_or_eq_of_le h with hs | rfl
  · rw [magnitude, if_pos hs]
  · have hsize : (2 : ℕ) ^ 52 = 1 * 2 ^ 52 + 0 := by norm_num
    rw [hsize, magnitude_of_normal (by decide) (by decide)]
    norm_num

@[simp] theorem magnitude_zero : magnitude 0 = 0 := by
  rw [magnitude_of_small (by decide), Nat.cast_zero, zero_mul]

theorem magnitude_lt_succ (s : Nat) : magnitude s < magnitude (s + 1) := by
  by_cases hs : s < 2 ^ 52
  · rw [magnitude_of_small (by omega), magnitude_of_small (by omega)]
    exact mul_lt_mul_of_pos_right (Nat.cast_lt.2 (Nat.lt_succ_self s)) (two_zpow_pos _)
  · obtain ⟨b, f, hb, hf, rfl⟩ : ∃ b f, 0 < b ∧ f < 2 ^ 52 ∧ s = b * 2 ^ 52 + f :=
      ⟨s / 2 ^ 52, s % 2 ^ 52, by omega, by omega, by omega⟩
    have hpos := two_zpow_pos ((b : ℤ) - 1075)
    rw [magnitude_of_normal hb hf]
    by_cases hlast : f + 1 < 2 ^ 52
    · rw [Nat.add_assoc, magnitude_of_normal hb hlast]
      exact mul_lt_mul_of_pos_right (Nat.cast_lt.2 (by omega)) hpos
    · -- the next size begins a new power of two
      have hnext : b * 2 ^ 52 + f + 1 = (b + 1) * 2 ^ 52 + 0 := by omega
      have hexponent : ((b + 1 : ℕ) : ℤ) - 1075 = ((b : ℤ) - 1075) + 1 := by omega
      have hcast : ((f + 2 ^ 52 : ℕ) : ℚ) < ((2 ^ 52 * 2 : ℕ) : ℚ) := Nat.cast_lt.2 (by omega)
      rw [hnext, magnitude_of_normal (by omega) (by decide), hexponent, two_zpow_succ,
        Nat.zero_add, ← mul_assoc]
      rw [Nat.cast_mul, Nat.cast_ofNat] at hcast
      exact mul_lt_mul_of_pos_right hcast hpos

theorem magnitude_strictMono : StrictMono magnitude := strictMono_nat_of_lt_succ magnitude_lt_succ

theorem pos_of_magnitude_pos {s : Nat} (h : 0 < magnitude s) : 0 < s := by
  rwa [← magnitude_zero, magnitude_strictMono.lt_iff_lt] at h

/-- A size stands for a multiple of a given power of two, or for less than all numbers that need
doubles with this exponent. -/
theorem magnitude_multiple_or_lt (t : Nat) {e : ℤ} (he : -1074 ≤ e) :
    (∃ z : ℤ, magnitude t = z * 2 ^ e) ∨ (-1074 < e ∧ magnitude t < 2 ^ 52 * 2 ^ e) := by
  by_cases ht : t < 2 ^ 52
  · rw [magnitude_of_small (by omega)]
    rcases Int.lt_or_eq_of_le he with hlt | rfl
    · right
      have hle := two_zpow_le he
      have hpos := two_zpow_pos e
      have hcast : (t : ℚ) < 2 ^ 52 := by exact_mod_cast ht
      refine ⟨hlt, ?_⟩
      nlinarith
    · exact .inl ⟨t, by norm_num⟩
  · obtain ⟨b, f, hb, hf, rfl⟩ : ∃ b f, 0 < b ∧ f < 2 ^ 52 ∧ t = b * 2 ^ 52 + f :=
      ⟨t / 2 ^ 52, t % 2 ^ 52, by omega, by omega, by omega⟩
    rw [magnitude_of_normal hb hf]
    by_cases hexponent : e ≤ (b : ℤ) - 1075
    · left
      obtain ⟨k, hk⟩ := Int.eq_ofNat_of_zero_le (Int.sub_nonneg.2 hexponent)
      have hsplit : (b : ℤ) - 1075 = k + e := by omega
      refine ⟨(f + 2 ^ 52 : ℕ) * 2 ^ k, ?_⟩
      rw [hsplit, zpow_add₀ (by norm_num), zpow_natCast]
      push_cast
      ring
    · right
      have hle := two_zpow_le (show (b : ℤ) - 1075 + 1 ≤ e by omega)
      have hpos := two_zpow_pos ((b : ℤ) - 1075)
      have hcast : ((f + 2 ^ 52 : ℕ) : ℚ) < 2 ^ 53 := by
        exact_mod_cast (show f + 2 ^ 52 < 2 ^ 53 by omega)
      rw [two_zpow_succ] at hle
      refine ⟨by omega, ?_⟩
      nlinarith

/-! ## Nearest sizes -/

/-- No size stands for a number that is nearer. -/
def Nearest (s : Nat) (x : ℚ) : Prop := ∀ t, |magnitude s - x| ≤ |magnitude t - x|

theorem nearest_magnitude (t : Nat) : Nearest t (magnitude t) := by
  intro u
  rw [sub_self, abs_zero]
  exact abs_nonneg _

theorem Nearest.eq_of_magnitude {s t : Nat} (h : Nearest s (magnitude t)) : s = t := by
  have hzero := h t
  rw [sub_self, abs_zero, abs_nonpos_iff, sub_eq_zero] at hzero
  exact magnitude_strictMono.injective hzero

theorem Nearest.le_of_lt {s t : Nat} {x y : ℚ} (hs : Nearest s x) (ht : Nearest t y)
    (h : x < y) : s ≤ t := by
  by_contra hlt
  have hmagnitude : magnitude t < magnitude s := magnitude_strictMono (Nat.lt_of_not_le hlt)
  -- `x` is not below the middle between both, and `y` is not above it
  have hx := sq_le_sq.2 (hs t)
  have hy := sq_le_sq.2 (ht s)
  nlinarith

theorem Nearest.magnitude_le {s t : Nat} {x : ℚ} (h : Nearest s x) (hx : magnitude t < x) :
    magnitude t ≤ magnitude s :=
  magnitude_strictMono.monotone ((nearest_magnitude t).le_of_lt h hx)

theorem nearest_of_rounded {q : ℤ} {s : Nat} {e : ℤ} {x : ℚ} (he : -1074 ≤ e)
    (hlo : e = -1074 ∨ 2 ^ 52 * 2 ^ e ≤ x) (hq : |(q : ℚ) - x / 2 ^ e| ≤ 1 / 2)
    (hs : magnitude s = q * 2 ^ e) : Nearest s x := by
  intro t
  have hpos := two_zpow_pos e
  have hx : x = x / 2 ^ e * 2 ^ e := by field_simp
  have hscale (z : ℚ) : |z * 2 ^ e - x| = |z - x / 2 ^ e| * 2 ^ e := by
    conv_lhs => rw [hx]
    rw [← sub_mul, abs_mul, abs_of_pos hpos]
  -- no integer is nearer than the rounded one
  have hinteger (z : ℤ) : |(q : ℚ) - x / 2 ^ e| ≤ |(z : ℚ) - x / 2 ^ e| := by
    by_cases hz : z = q
    · rw [hz]
    · have hone : (1 : ℚ) ≤ |(z : ℚ) - q| := by
        exact_mod_cast Int.one_le_abs (sub_ne_zero.2 hz)
      have htriangle := abs_sub_le (z : ℚ) (x / 2 ^ e) q
      rw [abs_sub_comm (x / 2 ^ e) (q : ℚ)] at htriangle
      linarith
  rw [hs, hscale]
  rcases magnitude_multiple_or_lt t he with ⟨z, hz⟩ | ⟨hnormal, hsmall⟩
  · rw [hz, hscale]
    exact mul_le_mul_of_nonneg_right (hinteger z) hpos.le
  · -- the least number with this exponent lies between `t` and `x`
    have hleast : 2 ^ 52 * 2 ^ e ≤ x := hlo.resolve_left (by omega)
    have hbound := mul_le_mul_of_nonneg_right (hinteger (2 ^ 52)) hpos.le
    rw [← hscale ((2 ^ 52 : ℤ) : ℚ), Int.cast_pow, Int.cast_ofNat,
      abs_of_nonpos (sub_nonpos.2 hleast)] at hbound
    rw [abs_of_nonpos (by linarith : magnitude t - x ≤ 0)]
    linarith

/-! ## The double for a fraction -/

theorem scale_den_pos (num : Nat) {den : Nat} (h : 0 < den) (e : ℤ) : 0 < (scale num den e).2 := by
  unfold scale
  split
  · exact h
  · exact Nat.mul_pos h (Nat.pow_pos (by decide))

theorem scale_eq (num den : Nat) (e : ℤ) :
    ((scale num den e).1 : ℚ) / (scale num den e).2 = num / den * 2 ^ e := by
  unfold scale
  split
  · rename_i he
    obtain ⟨k, rfl⟩ := Int.eq_ofNat_of_zero_le he
    simp only [Int.toNat_natCast, Nat.pow_eq, Nat.cast_mul, Nat.cast_pow, Nat.cast_ofNat,
      zpow_natCast]
    ring
  · rename_i he
    obtain ⟨k, hk⟩ := Int.eq_ofNat_of_zero_le (show 0 ≤ -e by omega)
    obtain rfl : e = -(k : ℤ) := by omega
    simp only [Int.neg_neg, Int.toNat_natCast, Nat.pow_eq, Nat.cast_mul, Nat.cast_pow,
      Nat.cast_ofNat, zpow_neg, zpow_natCast]
    rw [div_mul_eq_div_div, div_eq_mul_inv]

theorem abs_roundToEven_sub_le (num : Nat) {den : Nat} (h : 0 < den) :
    |((roundToEven num den : ℕ) : ℚ) - num / den| ≤ 1 / 2 := by
  have hpos : (0 : ℚ) < den := Nat.cast_pos.2 h
  have hsplit := Nat.div_add_mod num den
  have hrest := Nat.mod_lt num h
  -- twice the distance, in multiples of `1 / den`
  have hdistance : 2 * (roundToEven num den * den) ≤ 2 * num + den ∧
      2 * num ≤ 2 * (roundToEven num den * den) + den := by
    have hcomm : num / den * den = den * (num / den) := Nat.mul_comm _ _
    have hsucc : (num / den + 1) * den = den * (num / den) + den := by ring
    unfold roundToEven
    simp only
    split
    · omega
    · split
      · omega
      · split <;> omega
  rw [abs_le]
  constructor
  · rw [neg_le_sub_iff_le_add, div_le_iff₀ hpos]
    have hle : (2 * num : ℚ) ≤ 2 * (roundToEven num den * den) + den := by
      exact_mod_cast hdistance.2
    linarith
  · rw [sub_le_iff_le_add, ← sub_le_iff_le_add', le_div_iff₀ hpos]
    have hle : (2 * (roundToEven num den * den) : ℚ) ≤ 2 * num + den := by
      exact_mod_cast hdistance.1
    linarith

theorem log2_bounds {n : Nat} (h : 0 < n) :
    (2 : ℚ) ^ (Nat.log2 n : ℤ) ≤ n ∧ (n : ℚ) < 2 * 2 ^ (Nat.log2 n : ℤ) := by
  have hlo := Nat.log2_self_le (Nat.ne_of_gt h)
  have hhi := Nat.lt_log2_self (n := n)
  rw [zpow_natCast]
  constructor
  · exact_mod_cast hlo
  · rw [Nat.pow_succ] at hhi
    have hcast : (n : ℚ) < ((2 ^ Nat.log2 n * 2 : ℕ) : ℚ) := Nat.cast_lt.2 hhi
    rw [Nat.cast_mul, Nat.cast_pow, Nat.cast_ofNat, mul_comm] at hcast
    exact hcast

theorem ratio_bounds {num den : Nat} (hnum : 0 < num) (hden : 0 < den) :
    (2 : ℚ) ^ ((Nat.log2 num : ℤ) - Nat.log2 den) < 2 * (num / den) ∧
      (num / den : ℚ) < 2 * 2 ^ ((Nat.log2 num : ℤ) - Nat.log2 den) := by
  obtain ⟨hnlo, hnhi⟩ := log2_bounds hnum
  obtain ⟨hdlo, hdhi⟩ := log2_bounds hden
  have hpos : (0 : ℚ) < den := Nat.cast_pos.2 hden
  have hpower := two_zpow_pos (Nat.log2 den)
  have hnpower := two_zpow_pos (Nat.log2 num)
  rw [zpow_sub₀ (by norm_num), ← mul_div_assoc, ← mul_div_assoc]
  constructor
  · rw [div_lt_div_iff₀ hpower hpos]
    nlinarith
  · rw [div_lt_div_iff₀ hpos hpower]
    nlinarith

/-- The exponent leaves fifty-three bits before the point, unless it is the least one. -/
theorem exponentFor_bounds {num den : Nat} (hnum : 0 < num) (hden : 0 < den) :
    -1074 ≤ exponentFor num den ∧ (num / den : ℚ) < 2 ^ 53 * 2 ^ exponentFor num den ∧
      (exponentFor num den = -1074 ∨ 2 ^ 52 * 2 ^ exponentFor num den ≤ (num / den : ℚ)) := by
  obtain ⟨hlo, hhi⟩ := ratio_bounds hnum hden
  have hdpos := scale_den_pos num hden (-((Nat.log2 num : ℤ) - Nat.log2 den - 52))
  have hratio := scale_eq num den (-((Nat.log2 num : ℤ) - Nat.log2 den - 52))
  unfold exponentFor
  simp only
  generalize hguess : (Nat.log2 num : ℤ) - Nat.log2 den - 52 = guess at hdpos hratio ⊢
  generalize scale num den (-guess) = parts at hdpos hratio ⊢
  obtain ⟨n, d⟩ := parts
  simp only at hdpos hratio ⊢
  have hdiff : (Nat.log2 num : ℤ) - Nat.log2 den = 52 + guess := by omega
  have hpos := two_zpow_pos guess
  rw [hdiff, zpow_add₀ (by norm_num), zpow_ofNat] at hlo hhi
  rw [zpow_neg, ← div_eq_mul_inv] at hratio
  -- the guess is right or too great by one, and the test tells which
  have hright : ∃ e, (if n < d * Nat.pow 2 52 then guess - 1 else guess) = e ∧
      2 ^ 52 * 2 ^ e ≤ (num / den : ℚ) ∧ (num / den : ℚ) < 2 ^ 53 * 2 ^ e := by
    have htest : n < d * 2 ^ 52 ↔ (num / den : ℚ) < 2 ^ 52 * 2 ^ guess := by
      rw [← div_lt_iff₀ hpos, ← hratio, div_lt_iff₀ (Nat.cast_pos.2 hdpos), mul_comm]
      norm_cast
    have hpred := two_zpow_succ (guess - 1)
    rw [Int.sub_add_cancel] at hpred
    refine ⟨_, rfl, ?_⟩
    rw [Nat.pow_eq]
    split
    · rename_i h
      have hbelow := htest.1 h
      constructor <;> linarith
    · rename_i h
      have hnot := mt htest.2 h
      constructor <;> linarith
  obtain ⟨e, he, hle, hlt⟩ := hright
  rw [he]
  split
  · rename_i hsmall
    have hmono := two_zpow_le (show e ≤ -1074 by omega)
    refine ⟨le_rfl, ?_, .inl rfl⟩
    nlinarith
  · exact ⟨by omega, hlt, .inr hle⟩

theorem toNat_bits_ofParts (negative : Bool) {s : Nat} (h : s < 2 ^ 63) :
    (ofParts negative s).bits.toNat = (if negative then 2 ^ 63 else 0) + s := by
  rw [ofParts, UInt64.toNat_ofNat', Nat.pow_eq, Nat.mod_eq_of_lt]
  split <;> omega

theorem negative_ofParts (negative : Bool) {s : Nat} (h : s < 2 ^ 63) :
    (ofParts negative s).negative = negative := by
  rw [Binary64.negative, toNat_bits_ofParts negative h, Nat.pow_eq]
  cases negative
  · simpa using h
  · simp

theorem size_ofParts (negative : Bool) {s : Nat} (h : s < 2 ^ 63) :
    (ofParts negative s).size = s := by
  rw [size, toNat_bits_ofParts negative h]
  split <;> omega

theorem exists_sizeFor {q : Nat} {e : ℤ} (he : -1074 ≤ e) (hq : q ≤ 2 ^ 53)
    (h : e = -1074 ∨ 2 ^ 52 ≤ q) : ∃ s : Nat, sizeFor q e = s ∧ magnitude s = q * 2 ^ e := by
  unfold sizeFor
  generalize hunit : Nat.pow 2 52 = unit
  obtain rfl : 4503599627370496 = unit := hunit
  split
  · rename_i hsmall
    obtain rfl := h.resolve_right (by omega)
    exact ⟨q, rfl, magnitude_of_small (by omega)⟩
  · rename_i hlarge
    obtain ⟨b, hb⟩ := Int.eq_ofNat_of_zero_le (show 0 ≤ e + 1075 by omega)
    obtain rfl : e = (b : ℤ) - 1075 := by omega
    rcases Nat.lt_or_eq_of_le hq with hlt | rfl
    · refine ⟨b * 2 ^ 52 + (q - 2 ^ 52), by omega, ?_⟩
      have hsum : q - 2 ^ 52 + 2 ^ 52 = q := by omega
      rw [magnitude_of_normal (by omega) (by omega), hsum]
    · -- rounding up has reached the next power of two
      refine ⟨(b + 1) * 2 ^ 52 + 0, by omega, ?_⟩
      have hexponent : ((b + 1 : ℕ) : ℤ) - 1075 = (b : ℤ) - 1075 + 1 := by omega
      rw [magnitude_of_normal (by omega) (by decide), hexponent, two_zpow_succ, Nat.zero_add,
        ← mul_assoc, Nat.cast_pow, Nat.cast_pow, Nat.cast_ofNat]
      norm_num

theorem le_of_abs_sub_le_half {q n : Nat} {x : ℚ} (h : |(q : ℚ) - x| ≤ 1 / 2) (hx : x < n) :
    q ≤ n := by
  have hupper := (abs_le.1 h).2
  have hlt : (q : ℚ) < ((n + 1 : ℕ) : ℚ) := by
    push_cast
    linarith
  exact Nat.lt_succ_iff.1 (Nat.cast_lt.1 hlt)

theorem ge_of_abs_sub_le_half {q n : Nat} {x : ℚ} (h : |(q : ℚ) - x| ≤ 1 / 2) (hx : n ≤ x) :
    n ≤ q := by
  have hlower := (abs_le.1 h).1
  have hlt : (n : ℚ) < ((q + 1 : ℕ) : ℚ) := by
    push_cast
    linarith
  exact Nat.lt_succ_iff.1 (Nat.cast_lt.1 hlt)

/-- The fraction has a nearest size, and `ofRatio` gives it unless it is beyond all doubles. -/
theorem exists_nearest (negative : Bool) (num : Nat) {den : Nat} (hden : 0 < den) :
    ∃ s, Nearest s (num / den) ∧
      ofRatio negative num den = if 2047 * 2 ^ 52 ≤ s then none else some (ofParts negative s) := by
  rcases Nat.eq_zero_or_pos num with rfl | hnum
  · refine ⟨0, ?_, ?_⟩
    · rw [Nat.cast_zero, zero_div, ← magnitude_zero]
      exact nearest_magnitude 0
    · rw [ofRatio, if_pos rfl, if_neg (by norm_num)]
  obtain ⟨hleast, hlt, hle⟩ := exponentFor_bounds hnum hden
  have hdpos := scale_den_pos num hden (-exponentFor num den)
  have hratio := scale_eq num den (-exponentFor num den)
  have hround := abs_roundToEven_sub_le (scale num den (-exponentFor num den)).1 hdpos
  have hpos := two_zpow_pos (exponentFor num den)
  rw [hratio, zpow_neg, ← div_eq_mul_inv] at hround
  rw [ofRatio, if_neg (Nat.ne_of_gt hnum)]
  generalize exponentFor num den = e at hleast hlt hle hround hpos ⊢
  generalize hq : roundToEven (scale num den (-e)).1 (scale num den (-e)).2 = q at hround
  have hlast : q ≤ 2 ^ 53 := by
    refine le_of_abs_sub_le_half hround ?_
    rw [div_lt_iff₀ hpos]
    exact_mod_cast hlt
  have hnormal : e = -1074 ∨ 2 ^ 52 ≤ q := by
    refine hle.imp_right fun h => ge_of_abs_sub_le_half hround ?_
    rw [le_div_iff₀ hpos]
    exact_mod_cast h
  obtain ⟨s, hs, hmagnitude⟩ := exists_sizeFor hleast hlast hnormal
  refine ⟨s, nearest_of_rounded (q := q) hleast hle hround hmagnitude, ?_⟩
  simp only [hq, hs, Int.toNat_natCast]
  refine if_congr ?_ rfl rfl
  exact_mod_cast Iff.rfl

theorem magnitude_two_pow : magnitude (1087 * 2 ^ 52) = 2 ^ 64 := by
  have hsize : (1087 * 2 ^ 52 : ℕ) = 1087 * 2 ^ 52 + 0 := rfl
  rw [hsize, magnitude_of_normal (by decide) (by decide)]
  norm_num

theorem Nearest.le_two_pow {s : Nat} {x : ℚ} (h : Nearest s x) (hx : x < 2 ^ 64) :
    s ≤ 1087 * 2 ^ 52 :=
  h.le_of_lt (nearest_magnitude _) (hx.trans_eq magnitude_two_pow.symm)

theorem exists_ofRatio (negative : Bool) (num : Nat) {den : Nat} (hden : 0 < den)
    (h : (num / den : ℚ) < 2 ^ 64) :
    ∃ s, s < 2 ^ 63 ∧ Nearest s (num / den) ∧
      ofRatio negative num den = some (ofParts negative s) := by
  obtain ⟨s, hs, hratio⟩ := exists_nearest negative num hden
  have hle := hs.le_two_pow h
  rw [if_neg (by omega)] at hratio
  exact ⟨s, by omega, hs, hratio⟩

theorem exists_magnitude {num den m : Nat} {e : ℤ} (hnum : 0 < num) (hden : 0 < den)
    (he : -1074 ≤ e) (hm : m < 2 ^ 53) (h : (num / den : ℚ) = m * 2 ^ e) :
    ∃ t, magnitude t = num / den := by
  obtain ⟨hleast, hlt, hle⟩ := exponentFor_bounds hnum hden
  generalize exponentFor num den = d at hleast hlt hle
  have hpos := two_zpow_pos d
  rw [h] at hlt hle ⊢
  by_cases hde : d ≤ e
  · obtain ⟨k, hk⟩ := Int.eq_ofNat_of_zero_le (Int.sub_nonneg.2 hde)
    have hsplit : (m : ℚ) * 2 ^ e = ((m * 2 ^ k : ℕ) : ℚ) * 2 ^ d := by
      have hsum : e = k + d := by omega
      rw [hsum, zpow_add₀ (by norm_num), zpow_natCast, Nat.cast_mul, Nat.cast_pow, Nat.cast_ofNat,
        mul_assoc]
    rw [hsplit] at hlt hle ⊢
    have hupper : m * 2 ^ k < 2 ^ 53 := by
      exact_mod_cast lt_of_mul_lt_mul_right hlt hpos.le
    have hlower : d = -1074 ∨ 2 ^ 52 ≤ m * 2 ^ k := by
      refine hle.imp_right fun h => ?_
      exact_mod_cast le_of_mul_le_mul_right h hpos
    obtain ⟨t, -, ht⟩ := exists_sizeFor hleast hupper.le hlower
    exact ⟨t, ht⟩
  · -- a coarser exponent would need more bits
    have hdouble := two_zpow_le (show e + 1 ≤ d by omega)
    have hepos := two_zpow_pos e
    have hcast : (m : ℚ) < 2 ^ 53 := by exact_mod_cast hm
    have hnormal := hle.resolve_left (by omega)
    rw [two_zpow_succ] at hdouble
    nlinarith

/-! ## The fraction for a double -/

theorem significand_mul_exponent (x : Binary64) :
    (x.significand : ℚ) * 2 ^ x.exponent = magnitude x.size := by
  have hbiased : x.biased = x.size / 2 ^ 52 := by
    rw [biased, size, Nat.pow_eq, Nat.pow_eq]
    omega
  have hfraction : x.fraction = x.size % 2 ^ 52 := by
    rw [fraction, size, Nat.pow_eq]
    omega
  rw [significand, exponent, hbiased, hfraction]
  generalize x.size = s
  by_cases hs : s < 2 ^ 52
  · have hzero : s / 2 ^ 52 = 0 := Nat.div_eq_of_lt hs
    rw [if_pos hzero, if_pos hzero, magnitude, if_pos hs, Nat.mod_eq_of_lt hs]
  · have hnonzero : s / 2 ^ 52 ≠ 0 := by omega
    rw [if_neg hnonzero, if_neg hnonzero, magnitude, if_neg hs, Nat.pow_eq]

theorem ratio_den_pos (x : Binary64) : 0 < x.ratio.2 := scale_den_pos _ (by decide) _

theorem ratio_eq (x : Binary64) : (x.ratio.1 : ℚ) / x.ratio.2 = magnitude x.size := by
  rw [ratio, scale_eq, Nat.cast_one, div_one, significand_mul_exponent]

theorem exists_div? (x : Binary64) {y : Binary64} (hy : 0 < magnitude y.size)
    (h : magnitude x.size / magnitude y.size < 2 ^ 64) :
    ∃ s, s < 2 ^ 63 ∧ Nearest s (magnitude x.size / magnitude y.size) ∧
      x.div? y = some (ofParts (x.negative != y.negative) s) := by
  have hxden := x.ratio_den_pos
  have hyden := y.ratio_den_pos
  have hynum : 0 < y.ratio.1 := by
    rw [← ratio_eq] at hy
    by_contra hzero
    rw [Nat.eq_zero_of_not_pos hzero, Nat.cast_zero, zero_div] at hy
    exact lt_irrefl _ hy
  have hquotient : ((x.ratio.1 * y.ratio.2 : ℕ) : ℚ) / ((x.ratio.2 * y.ratio.1 : ℕ) : ℚ) =
      magnitude x.size / magnitude y.size := by
    rw [← ratio_eq, ← ratio_eq, div_div_div_eq, Nat.cast_mul, Nat.cast_mul]
  have hpos : 0 < x.ratio.2 * y.ratio.1 := Nat.mul_pos hxden hynum
  rw [← hquotient] at h ⊢
  exact exists_ofRatio _ _ hpos h

/-! ## The order of doubles -/

theorem orderKey_ofParts (negative : Bool) {s : Nat} (h : s < 2 ^ 63) :
    (ofParts negative s).orderKey = if negative then -(s : ℤ) - 1 else s := by
  have hsize := size_ofParts negative h
  have hbits := toNat_bits_ofParts negative h
  rw [size] at hsize
  rw [orderKey, negative_ofParts negative h, Nat.pow_eq, hsize, hbits]
  cases negative
  · simp
  · rfl

def value (x : Binary64) : ℚ := if x.negative then -magnitude x.size else magnitude x.size

theorem value_ofParts (negative : Bool) {s : Nat} (h : s < 2 ^ 63) :
    (ofParts negative s).value = if negative then -magnitude s else magnitude s := by
  rw [value, negative_ofParts negative h, size_ofParts negative h]

/-- Without a negative zero, doubles are in the order of the numbers that they stand for. -/
theorem orderKey_le_iff {m n : Bool} {s t : Nat} (hs : s < 2 ^ 63) (ht : t < 2 ^ 63)
    (hspos : m = true → 0 < s) (htpos : n = true → 0 < t) :
    (ofParts m s).orderKey ≤ (ofParts n t).orderKey ↔
      (ofParts m s).value ≤ (ofParts n t).value := by
  have hszero := magnitude_strictMono.monotone s.zero_le
  have htzero := magnitude_strictMono.monotone t.zero_le
  rw [magnitude_zero] at hszero htzero
  rw [orderKey_ofParts _ hs, orderKey_ofParts _ ht, value_ofParts _ hs, value_ofParts _ ht]
  cases m <;> cases n
  · simp [magnitude_strictMono.le_iff_le]
  · have hpos := magnitude_strictMono (htpos rfl)
    rw [magnitude_zero] at hpos
    simp only [Bool.false_eq_true, if_false, if_true]
    constructor
    · omega
    · intro hle
      linarith
  · simp only [Bool.false_eq_true, if_false, if_true]
    constructor
    · intro _
      linarith
    · omega
  · simp [magnitude_strictMono.le_iff_le]

end Webprint.Decimal.Binary64
