import Webprint.Log
import Webprint.Proofs.Blanks
import Webprint.Proofs.Words

set_option autoImplicit false

/-!
# Previews

A preview is written in one pass that counts what it has written and stops at the limit before it
looks at the next character. Since no blank stands at the end of what it reads, there is more to
write whenever it stops, so the ellipsis tells exactly that something was left out.
-/

namespace Webprint

open Text (isBlank words)

def spaced : List Char → List Char
  | [] => []
  | c :: s =>
    if isBlank c then if s.head?.any isBlank then spaced s else ' ' :: spaced s
    else c :: spaced s

def cut (room : Nat) (s : List Char) : List Char :=
  if s.length ≤ room then s else s.take room ++ ['…']

def isWordChar (c : Char) : Bool := !isBlank c

/-- No blank stands at the end. -/
def EndsPlain (s : List Char) : Prop := ∀ c ∈ s.getLast?, isBlank c = false

/-! ## Plain ends -/

theorem EndsPlain.tail {c : Char} {s : List Char} (h : EndsPlain (c :: s)) : EndsPlain s := by
  intro d hd
  refine h d ?_
  rw [List.getLast?_cons, hd]
  rfl

theorem EndsPlain.dropWhile_ne_nil {s : List Char} (h : EndsPlain s) (hne : s ≠ []) :
    s.dropWhile isBlank ≠ [] := by
  intro hnil
  have hblank := List.dropWhile_eq_nil_iff.1 hnil _ (List.getLast_mem hne)
  rw [h _ (List.getLast?_eq_some_getLast hne)] at hblank
  cases hblank

theorem EndsPlain.words_ne_nil {s : List Char} (h : EndsPlain s) (hne : s ≠ []) :
    words isWordChar s ≠ [] := by
  intro hnil
  have hblank := Text.words_eq_nil_iff.1 hnil _ (List.getLast_mem hne)
  rw [isWordChar, h _ (List.getLast?_eq_some_getLast hne)] at hblank
  cases hblank

theorem endsPlain_trim (s : List Char) : EndsPlain (Text.trim s) := by
  intro c hc
  obtain ⟨hne, rfl⟩ := List.mem_getLast?_eq_getLast hc
  exact Bool.eq_false_iff.2 (List.rdropWhile_last_not isBlank (Text.trimStart s) hne)

/-! ## Runs of blanks -/

theorem spaced_cons_blank {c : Char} (hc : isBlank c = true) (s : List Char) :
    spaced (c :: s) = ' ' :: spaced (s.dropWhile isBlank) := by
  induction s generalizing c with
  | nil => simp [spaced, hc]
  | cons d s ih =>
    rw [spaced, if_pos hc, List.head?_cons, Option.any_some]
    by_cases hd : isBlank d = true
    · rw [if_pos hd, ih hd, List.dropWhile_cons_of_pos hd]
    · rw [if_neg hd, List.dropWhile_cons_of_neg hd]

theorem spaced_cons_plain {c : Char} (hc : isBlank c = false) (s : List Char) :
    spaced (c :: s) = c :: spaced s := by
  rw [spaced, hc]
  rfl

theorem spaced_ne_nil {s : List Char} (hne : s ≠ []) : spaced s ≠ [] := by
  obtain ⟨c, s, rfl⟩ := List.exists_cons_of_ne_nil hne
  cases hc : isBlank c with
  | true => simp [spaced_cons_blank hc]
  | false => simp [spaced_cons_plain hc]

/-- Before a plain end, the words of a text stand with single spaces between them. What goes on inside
a word is its end and the words behind it. -/
theorem spaced_eq_words {s : List Char} (h : EndsPlain s) :
    spaced (s.dropWhile isBlank) = [' '].intercalate (words isWordChar s) ∧
      spaced s = s.takeWhile isWordChar ++
        (words isWordChar (s.dropWhile isWordChar)).flatMap fun w => [' '] ++ w := by
  induction s with
  | nil => exact ⟨rfl, rfl⟩
  | cons c s ih =>
    obtain ⟨hbetween, hinside⟩ := ih h.tail
    cases hc : isBlank c with
    | true =>
      have hword : isWordChar c = false := by rw [isWordChar, hc]; rfl
      have hneg : ¬ isWordChar c = true := by simp [hword]
      have hne : s ≠ [] := by
        rintro rfl
        simp [h c rfl] at hc
      obtain ⟨w, ws, hws⟩ := List.exists_cons_of_ne_nil (h.tail.words_ne_nil hne)
      rw [List.dropWhile_cons_of_pos hc, List.takeWhile_cons_of_neg hneg,
        List.dropWhile_cons_of_neg hneg, Text.words_cons_of_neg hword, spaced_cons_blank hc, hbetween]
      refine ⟨rfl, ?_⟩
      rw [hws, Text.intercalate_cons]
      rfl
    | false =>
      have hword : isWordChar c = true := by rw [isWordChar, hc]; rfl
      have hneg : ¬ isBlank c = true := by simp [hc]
      rw [List.dropWhile_cons_of_neg hneg, List.takeWhile_cons_of_pos hword,
        List.dropWhile_cons_of_pos hword, Text.words_cons_of_pos hword, spaced_cons_plain hc, hinside,
        Text.intercalate_cons]
      exact ⟨rfl, rfl⟩

theorem words_trim (s : List Char) : words isWordChar (Text.trim s) = words isWordChar s := by
  have hblank {t : List Char} (ht : ∀ c ∈ t, isBlank c = true) : ∀ c ∈ t, isWordChar c = false :=
    fun c hc => by rw [isWordChar, ht c hc]; rfl
  have hstart : words isWordChar (Text.trimStart s) = words isWordChar s := by
    conv_rhs => rw [← List.takeWhile_append_dropWhile (p := isBlank) (l := s)]
    exact (Text.words_append_of_forall_neg (hblank fun _ => List.mem_takeWhile_imp) _).symm
  obtain ⟨t, hs, ht⟩ := Text.exists_dropped isBlank (Text.trimStart s)
  rw [← hstart, hs, Text.words_append_of_forall_neg' (hblank ht)]
  rfl

theorem spaced_trim (s : List Char) :
    spaced (Text.trim s) = [' '].intercalate (words isWordChar s) := by
  have hkept : (Text.trim s).dropWhile isBlank = Text.trim s := Text.trimStart_trim s
  rw [← words_trim, ← (spaced_eq_words (endsPlain_trim s)).1, hkept]

/-! ## One pass -/

theorem cut_zero {s : List Char} (h : s ≠ []) : cut 0 s = ['…'] := by
  obtain ⟨c, s, rfl⟩ := List.exists_cons_of_ne_nil h
  rfl

theorem cut_succ (room : Nat) (c : Char) (s : List Char) :
    cut (room + 1) (c :: s) = c :: cut room s := by
  simp only [cut, List.length_cons, Nat.add_le_add_iff_right, List.take_succ_cons, List.cons_append]
  split_ifs <;> rfl

/-- Behind a blank the pass has written the space for the blanks to come. -/
theorem previewFrom_eq (room : Nat) {s : List Char} (h : EndsPlain s) :
    previewFrom false room s = cut room (spaced s) ∧
      previewFrom true room s = cut room (spaced (s.dropWhile isBlank)) := by
  induction s generalizing room with
  | nil => exact ⟨by simp [previewFrom, spaced, cut], by simp [previewFrom, spaced, cut]⟩
  | cons c s ih =>
    cases room with
    | zero =>
      have hne : c :: s ≠ [] := List.cons_ne_nil c s
      rw [cut_zero (spaced_ne_nil hne), cut_zero (spaced_ne_nil (h.dropWhile_ne_nil hne))]
      exact ⟨rfl, rfl⟩
    | succ room =>
      cases hc : isBlank c with
      | true =>
        rw [spaced_cons_blank hc, List.dropWhile_cons_of_pos hc, cut_succ, ← (ih room h.tail).2,
          ← (ih (room + 1) h.tail).2]
        simp [previewFrom, hc]
      | false =>
        rw [List.dropWhile_cons_of_neg (by simp [hc]), spaced_cons_plain hc, cut_succ,
          ← (ih room h.tail).1]
        simp [previewFrom, hc]

theorem preview_eq_cut (room : Nat) (s : List Char) :
    preview room s = cut room (spaced (Text.trim s)) :=
  (previewFrom_eq room (endsPlain_trim s)).1

theorem mem_of_mem_spaced {c : Char} {s : List Char} (h : c ∈ spaced s) : c = ' ' ∨ c ∈ s := by
  induction s with
  | nil => cases h
  | cons d s ih =>
    rw [spaced] at h
    split_ifs at h
    · exact (ih h).imp_right (List.mem_cons_of_mem _)
    · rcases List.mem_cons.1 h with rfl | h
      · exact .inl rfl
      · exact (ih h).imp_right (List.mem_cons_of_mem _)
    · rcases List.mem_cons.1 h with rfl | h
      · exact .inr (List.mem_cons_self ..)
      · exact (ih h).imp_right (List.mem_cons_of_mem _)

theorem mem_cut_iff {room : Nat} {s : List Char} (h : '…' ∉ s) : '…' ∈ cut room s ↔ room < s.length := by
  unfold cut
  split_ifs with hfits
  · exact ⟨fun hin => absurd hin h, fun hlong => absurd hfits (by omega)⟩
  · exact ⟨fun _ => by omega, fun _ => by simp⟩

/-- The preview of a text is cut from its words with single spaces between them: the trimmed text in
which each run of blanks is one space. If it fits it is shown as it is, and otherwise as many
characters of it as there is room for, and an ellipsis. So an ellipsis that is not of the text says
that something was cut off, and nothing is cut off without it. -/
theorem preview_of_spaced (room : Nat) (s : List Char) :
    preview room s =
        (if (spaced (Text.trim s)).length ≤ room then spaced (Text.trim s)
          else (spaced (Text.trim s)).take room ++ ['…']) ∧
      spaced (Text.trim s) = [' '].intercalate (words isWordChar s) ∧
      ('…' ∉ s → ('…' ∈ preview room s ↔ room < (spaced (Text.trim s)).length)) := by
  refine ⟨preview_eq_cut room s, spaced_trim s, fun hs => ?_⟩
  have hc : '…' ∉ spaced (Text.trim s) := by
    intro hin
    rcases mem_of_mem_spaced hin with hspace | hin
    · exact absurd hspace (by decide)
    · exact hs (Text.mem_of_mem_trim hin)
  rw [preview_eq_cut]
  exact mem_cut_iff hc

/-- A limit behind a blank that stands for several, and behind the last character. -/
theorem preview_of_spaced_limits :
    '…' ∉ "  a \n\t b  ".toList ∧ preview 2 "  a \n\t b  ".toList = "a …".toList ∧
      preview 3 "  a \n\t b  ".toList = "a b".toList ∧
      '…' ∉ preview 3 "  a \n\t b  ".toList := by
  have hs : '…' ∉ "  a \n\t b  ".toList := by decide
  have hc : spaced (Text.trim "  a \n\t b  ".toList) = "a b".toList := by decide
  obtain ⟨hshort, -, -⟩ := preview_of_spaced 2 "  a \n\t b  ".toList
  obtain ⟨hlong, -, hwhole⟩ := preview_of_spaced 3 "  a \n\t b  ".toList
  rw [hc] at hshort hlong hwhole
  exact ⟨hs, hshort, hlong, fun hin => absurd ((hwhole hs).1 hin) (by decide)⟩

end Webprint
