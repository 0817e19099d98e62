import Mathlib.Data.List.TakeWhile
import Webprint.Text.Search

set_option autoImplicit false

/-!
# Words of a text

The longest runs of characters of one kind, with the characters between them left out.
-/

namespace Webprint.Text

variable {p : Char → Bool} {s t : List Char} {c : Char}

theorem splitWhere_eq_splitOnP (p : Char → Bool) (s : List Char) :
    splitWhere p s = s.splitOnP p := by
  induction s with
  | nil => rfl
  | cons c s ih =>
    rw [splitWhere, ih, List.splitOnP_cons_eq_if_modifyHead]
    cases h : s.splitOnP p with
    | nil => exact absurd h (List.splitOnP_ne_nil p s)
    | cons piece pieces => rfl

theorem not_of_mem_splitOnP {piece : List Char} (hpiece : piece ∈ s.splitOnP p) (hc : c ∈ piece) :
    p c = false := by
  induction s generalizing piece with
  | nil =>
    rw [List.splitOnP_nil, List.mem_singleton] at hpiece
    rw [hpiece] at hc
    cases hc
  | cons d s ih =>
    obtain ⟨first, rest, hparts⟩ := List.exists_cons_of_ne_nil (List.splitOnP_ne_nil p s)
    rw [List.splitOnP_cons_eq_if_modifyHead, hparts] at hpiece
    rw [hparts] at ih
    split_ifs at hpiece with hd
    · rcases List.mem_cons.1 hpiece with rfl | hpiece
      · cases hc
      · exact ih hpiece hc
    · rcases List.mem_cons.1 hpiece with rfl | hpiece
      · rcases List.mem_cons.1 hc with rfl | hc
        · simpa using hd
        · exact ih (List.mem_cons_self ..) hc
      · exact ih (List.mem_cons_of_mem _ hpiece) hc

def words (p : Char → Bool) (s : List Char) : List (List Char) :=
  (s.splitOnP fun c => !p c).filter fun w => !w.isEmpty

theorem ne_nil_of_mem_words {w : List Char} (h : w ∈ words p s) : w ≠ [] := by
  simpa using (List.mem_filter.1 h).2

theorem of_mem_words {w : List Char} (hw : w ∈ words p s) (hc : c ∈ w) : p c = true := by
  simpa using not_of_mem_splitOnP (List.mem_filter.1 hw).1 hc

@[simp] theorem words_nil (p : Char → Bool) : words p [] = [] := by
  rw [words, List.splitOnP_nil]
  rfl

/-- A character between words parts a text in two. -/
theorem words_append_cons (hc : p c = false) (s t : List Char) :
    words p (s ++ c :: t) = words p s ++ words p t := by
  have hparts : (s ++ c :: t).splitOnP (fun c => !p c) =
      s.splitOnP (fun c => !p c) ++ t.splitOnP fun c => !p c :=
    List.splitOnP_append_cons s t (by simp [hc])
  rw [words, hparts, List.filter_append]
  rfl

@[simp] theorem words_cons_of_neg (hc : p c = false) (s : List Char) : words p (c :: s) = words p s := by
  have hparted := words_append_cons hc [] s
  rwa [words_nil, List.nil_append, List.nil_append] at hparted

theorem words_of_forall (hne : s ≠ []) (h : ∀ c ∈ s, p c = true) : words p s = [s] := by
  have hwhole : s.splitOnP (fun c => !p c) = [s] :=
    List.splitOnP_eq_singleton fun c hc => by simp [h c hc]
  rw [words, hwhole, List.filter_eq_self]
  simpa using hne

theorem words_cons_of_pos (hc : p c = true) (s : List Char) :
    words p (c :: s) = (c :: s.takeWhile p) :: words p (s.dropWhile p) := by
  have hword : words p (c :: s.takeWhile p) = [c :: s.takeWhile p] := by
    refine words_of_forall (by simp) fun d hd => ?_
    rcases List.mem_cons.1 hd with rfl | hd
    · exact hc
    · exact List.mem_takeWhile_imp hd
  have hs : c :: s = (c :: s.takeWhile p) ++ s.dropWhile p := by
    rw [List.cons_append, List.takeWhile_append_dropWhile]
  rw [hs]
  cases hrest : s.dropWhile p with
  | nil => simp [hword]
  | cons d rest =>
    have hd : p d = false := by
      simpa [hrest] using List.head?_dropWhile_not p s
    rw [words_append_cons hd, hword, words_cons_of_neg hd]
    rfl

theorem words_eq_nil_iff : words p s = [] ↔ ∀ c ∈ s, p c = false := by
  induction s with
  | nil => simp
  | cons c s ih =>
    rw [List.forall_mem_cons]
    cases hc : p c with
    | true => simp [words_cons_of_pos hc]
    | false => simp [words_cons_of_neg hc, ih]

theorem words_append_of_forall_neg (h : ∀ c ∈ s, p c = false) (t : List Char) :
    words p (s ++ t) = words p t := by
  induction s with
  | nil => rfl
  | cons c s ih =>
    rw [List.cons_append, words_cons_of_neg (h c (by simp)), ih fun d hd => h d (by simp [hd])]

theorem words_append_append (hne : t ≠ []) (h : ∀ c ∈ t, p c = false) (a b : List Char) :
    words p (a ++ t ++ b) = words p a ++ words p b := by
  obtain ⟨c, t, rfl⟩ := List.exists_cons_of_ne_nil hne
  have hrest : ∀ d ∈ t, p d = false := fun d hd => h d (by simp [hd])
  rw [List.append_assoc, List.cons_append, words_append_cons (h c (by simp)),
    words_append_of_forall_neg hrest]

theorem words_append_of_forall_neg' (h : ∀ c ∈ t, p c = false) (s : List Char) :
    words p (s ++ t) = words p s := by
  by_cases hne : t = []
  · rw [hne, List.append_nil]
  · have hparted := words_append_append hne h s []
    rwa [words_nil, List.append_nil, List.append_nil] at hparted

/-- Words put together again: each but the first brings what stands between them. -/
theorem intercalate_cons (sep w : List Char) (ws : List (List Char)) :
    sep.intercalate (w :: ws) = w ++ ws.flatMap fun v => sep ++ v := by
  induction ws generalizing w with
  | nil => simp
  | cons v ws ih =>
    rw [List.intercalate_cons_cons, ih, List.flatMap_cons, List.append_assoc, List.append_assoc]

end Webprint.Text
