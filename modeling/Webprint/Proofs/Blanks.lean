import Mathlib.Data.List.DropRight
import Webprint.Text.Blank

set_option autoImplicit false

/-!
# Dropped blanks

What dropping characters from the end of a text leaves, and what it leaves of a text with blanks
around it.
-/

namespace Webprint.Text

variable {p : Char → Bool} {s t : List Char}

/-! ## Ends of texts -/

theorem dropEndWhile_append_of_all (h : ∀ c ∈ t, p c = true) (s : List Char) :
    dropEndWhile p (s ++ t) = dropEndWhile p s := by
  change (s ++ t).rdropWhile p = s.rdropWhile p
  induction t using List.reverseRecOn with
  | nil => rw [List.append_nil]
  | append_singleton t c ih =>
    rw [← List.append_assoc, List.rdropWhile_concat_pos _ _ _ (h c (by simp))]
    exact ih fun d hd => h d (by simp [hd])

/-- What a text begins with is kept if nothing of it is dropped alone. -/
theorem dropEndWhile_append_of_kept (h : dropEndWhile p s = s) (t : List Char) :
    dropEndWhile p (s ++ t) = s ++ dropEndWhile p t := by
  change s.rdropWhile p = s at h
  change (s ++ t).rdropWhile p = s ++ t.rdropWhile p
  induction t using List.reverseRecOn with
  | nil => rw [List.append_nil, h, List.rdropWhile_nil, List.append_nil]
  | append_singleton t c ih =>
    rw [← List.append_assoc]
    by_cases hc : p c = true
    · rw [List.rdropWhile_concat_pos _ _ _ hc, List.rdropWhile_concat_pos _ _ _ hc, ih]
    · rw [List.rdropWhile_concat_neg _ _ _ hc, List.rdropWhile_concat_neg _ _ _ hc,
        List.append_assoc]

theorem dropEndWhile_concat {c : Char} (h : p c = false) (s : List Char) :
    dropEndWhile p (s ++ [c]) = s ++ [c] :=
  List.rdropWhile_concat_neg _ _ _ (by simp [h])

theorem exists_dropped (p : Char → Bool) (s : List Char) :
    ∃ t, s = dropEndWhile p s ++ t ∧ ∀ c ∈ t, p c = true :=
  ⟨s.rtakeWhile p, List.rdropWhile_append_rtakeWhile.symm, fun _ => List.mem_rtakeWhile_imp⟩

/-! ## Blanks around a text -/

theorem trim_append_blank (h : ∀ c ∈ t, isBlank c = true) (s : List Char) :
    trim (s ++ t) = trim s := by
  by_cases hs : ∀ c ∈ s, isBlank c = true
  · have hall : ∀ c ∈ s ++ t, isBlank c = true := by
      intro c hc
      exact (List.mem_append.1 hc).elim (hs c) (h c)
    rw [trim, trim, trimStart, trimStart, List.dropWhile_eq_nil_iff.2 hall,
      List.dropWhile_eq_nil_iff.2 hs]
  · have hne : (s.dropWhile isBlank).isEmpty = false := by
      rw [Bool.eq_false_iff, ne_eq, List.isEmpty_iff, List.dropWhile_eq_nil_iff]
      exact hs
    rw [trim, trim, trimStart, trimStart, List.dropWhile_append, hne]
    exact dropEndWhile_append_of_all h _

theorem trim_blank_append (h : ∀ c ∈ t, isBlank c = true) (s : List Char) :
    trim (t ++ s) = trim s := by
  rw [trim, trim, trimStart, trimStart, List.dropWhile_append_of_pos h]

theorem trim_trimEnd (s : List Char) : trim (trimEnd s) = trim s := by
  obtain ⟨t, hs, ht⟩ := exists_dropped isBlank s
  have htrim := trim_append_blank ht (trimEnd s)
  rw [← htrim, trimEnd, ← hs]

theorem mem_of_mem_trim {c : Char} (h : c ∈ trim s) : c ∈ s :=
  (List.dropWhile_suffix isBlank).mem ((List.rdropWhile_prefix isBlank _).mem h)

theorem trimStart_trim (s : List Char) : trimStart (trim s) = trim s := by
  have hkept : trim s <+: trimStart s := List.rdropWhile_prefix isBlank (trimStart s)
  have hstart : trimStart (trimStart s) = trimStart s := List.dropWhile_idempotent isBlank s
  rw [trimStart, List.dropWhile_eq_self_iff] at hstart ⊢
  intro hpos
  rw [hkept.getElem hpos]
  exact hstart (hpos.trans_le hkept.length_le)

theorem trim_trim (s : List Char) : trim (trim s) = trim s := by
  rw [trim, trimStart_trim]
  exact List.rdropWhile_idempotent isBlank (trimStart s)

theorem trim_of_ends (hhead : ∀ c ∈ s.head?, isBlank c = false)
    (hlast : ∀ c ∈ s.getLast?, isBlank c = false) : trim s = s := by
  have hstart : trimStart s = s := by
    cases s with
    | nil => rfl
    | cons c s => exact List.dropWhile_cons_of_neg (by simp [hhead c rfl])
  rw [trim, hstart]
  cases s using List.reverseRecOn with
  | nil => rfl
  | append_singleton s c => exact dropEndWhile_concat (hlast c (by simp)) s

end Webprint.Text
