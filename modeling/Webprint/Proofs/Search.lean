import Webprint.Text.Search

set_option autoImplicit false

/-!
# Occurrences of words

Where a word is found and replaced: nowhere in a text that does not hold it, and otherwise behind
the part in which no occurrence of it begins.
-/

namespace Webprint

namespace Text

theorem after?_eq_some_iff {word s rest : List Char} :
    after? word s = some rest ↔ s = word ++ rest := by
  induction word generalizing s with
  | nil => simp [after?, eq_comm]
  | cons w word ih =>
    cases s with
    | nil => simp [after?]
    | cons c s =>
      by_cases h : w = c
      · simp [after?, h, ih]
      · simp [after?, h, Ne.symm h]

theorem after?_eq_none_iff {word s : List Char} : after? word s = none ↔ ¬ word <+: s := by
  rw [Option.eq_none_iff_forall_ne_some]
  constructor
  · rintro h ⟨rest, hrest⟩
    exact h rest (after?_eq_some_iff.2 hrest.symm)
  · intro h rest hrest
    exact h ⟨rest, (after?_eq_some_iff.1 hrest).symm⟩

theorem partAt?_of_not_infix {word s : List Char} (h : ¬ word <:+: s) : partAt? word s = none := by
  induction s with
  | nil =>
    cases word with
    | nil => exact absurd List.nil_infix h
    | cons w word => rfl
  | cons c s ih =>
    have hnone : after? word (c :: s) = none :=
      after?_eq_none_iff.2 fun hbegins => h hbegins.isInfix
    rw [partAt?, hnone, ih fun hin => h (List.infix_cons hin)]
    rfl

theorem isSome_partAt?_iff {word s : List Char} (hword : word ≠ []) :
    (partAt? word s).isSome = true ↔ word <:+: s := by
  constructor
  · intro h
    refine Decidable.byContradiction fun hnot => ?_
    have hnone := partAt?_of_not_infix hnot
    rw [hnone] at h
    cases h
  · intro h
    induction s with
    | nil => exact absurd (List.infix_nil.1 h) hword
    | cons c s ih =>
      rw [partAt?]
      cases hafter : after? word (c :: s) with
      | some rest => rfl
      | none =>
        have hin : word <:+: s :=
          (List.infix_cons_iff.1 h).resolve_left (after?_eq_none_iff.1 hafter)
        simpa using ih hin

theorem replaceFirst_of_not_infix {word s : List Char} (new : List Char) (h : ¬ word <:+: s) :
    replaceFirst word new s = s := by
  rw [replaceFirst, partAt?_of_not_infix h]

theorem replaceFirst_of_not_mem {word s : List Char} {c : Char} (new : List Char)
    (hword : c ∈ word) (hs : c ∉ s) : replaceFirst word new s = s :=
  replaceFirst_of_not_infix new fun hin => hs (hin.subset hword)

theorem infix_append_cons {word u v : List Char} {c : Char} (hc : c ∉ word)
    (h : word <:+: u ++ c :: v) : word <:+: u ∨ word <:+: v := by
  obtain ⟨before, after, h⟩ := h
  rw [List.append_assoc, List.append_eq_append_iff] at h
  rcases h with ⟨rest, rfl, h⟩ | ⟨skipped, rfl, h⟩
  · rcases List.append_eq_append_iff.1 h with ⟨more, rfl, -⟩ | ⟨tail, rfl, htail⟩
    · exact .inl ⟨before, more, List.append_assoc ..⟩
    · cases tail with
      | nil => exact .inl ⟨before, [], by simp⟩
      | cons x tail =>
        have hx : c = x := (List.cons.inj htail).1
        exact absurd (by simp [hx]) hc
  · cases skipped with
    | nil =>
      cases word with
      | nil => exact .inl List.nil_infix
      | cons w word =>
        obtain ⟨rfl, -⟩ := List.cons.inj h
        exact absurd (by simp) hc
    | cons x skipped =>
      obtain ⟨-, rfl⟩ := List.cons.inj h
      exact .inr ⟨skipped, after, by simp⟩

/-- No occurrence of `word` begins in the text, whatever of `rest` it would take. -/
def Free (word rest : List Char) : List Char → Prop
  | [] => True
  | c :: s => ¬ word <+: c :: (s ++ rest) ∧ Free word rest s

theorem Free.append {u rest s : List Char} (v : List Char) (h : Free u rest s) :
    Free (u ++ v) rest s := by
  induction s with
  | nil => trivial
  | cons c s ih => exact ⟨fun hbegins => h.1 ((List.prefix_append u v).trans hbegins), ih h.2⟩

theorem partAt?_append {word rest s : List Char} (h : Free word rest s) :
    partAt? word (s ++ rest) =
      (partAt? word rest).map fun (before, after) => (s ++ before, after) := by
  induction s with
  | nil => simp
  | cons c s ih =>
    have hnone := after?_eq_none_iff.2 h.1
    rw [List.cons_append, partAt?, hnone, ih h.2, Option.map_map]
    rfl

theorem replaceFirst_append {word s : List Char} (new : List Char) (hword : word ≠ [])
    (h : Free word word s) : replaceFirst word new (s ++ word) = s ++ new := by
  have hafter : after? word word = some [] := after?_eq_some_iff.2 (List.append_nil _).symm
  have hpart : partAt? word word = some ([], []) := by
    cases word with
    | nil => exact absurd rfl hword
    | cons w word => rw [partAt?, hafter]
  rw [replaceFirst, partAt?_append h, hpart]
  simp

/-! ## All occurrences -/

theorem joinWith_cons (sep : List Char) (c : Char) (piece : List Char) (pieces : List (List Char)) :
    joinWith sep ((c :: piece) :: pieces) = c :: joinWith sep (piece :: pieces) := by
  cases pieces <;> simp [joinWith]

theorem joinWith_nil_cons (sep piece : List Char) (pieces : List (List Char)) :
    joinWith sep ([] :: piece :: pieces) = sep ++ joinWith sep (piece :: pieces) := by
  simp [joinWith]

theorem piecesFrom_skip (word skipped s : List Char) :
    piecesFrom word skipped.length (skipped ++ s) = piecesFrom word 0 s := by
  induction skipped with
  | nil => rfl
  | cons c skipped ih => exact ih

@[simp] theorem replaceAll_cons {word : List Char} (new : List Char) {c : Char} {s : List Char}
    (h : ¬ word <+: c :: s) : replaceAll word new (c :: s) = c :: replaceAll word new s := by
  have hfalse : word.isPrefixOf (c :: s) = false := by
    rw [Bool.eq_false_iff]
    exact fun hbegins => h (List.isPrefixOf_iff_prefix.1 hbegins)
  simp only [replaceAll, splitAll, piecesFrom, hfalse, Bool.false_eq_true, if_false, joinWith_cons]

theorem replaceAll_of_not_infix {word s : List Char} (new : List Char) (h : ¬ word <:+: s) :
    replaceAll word new s = s := by
  induction s with
  | nil => rfl
  | cons c s ih =>
    rw [replaceAll_cons new fun hbegins => h hbegins.isInfix, ih fun hin => h (List.infix_cons hin)]

theorem replaceAll_append (w : Char) (word new s : List Char) :
    replaceAll (w :: word) new (w :: word ++ s) = new ++ replaceAll (w :: word) new s := by
  have hbegins : (w :: word).isPrefixOf (w :: (word ++ s)) = true :=
    List.isPrefixOf_iff_prefix.2 (List.prefix_append _ _)
  have hskip := piecesFrom_skip (w :: word) word s
  simp only [replaceAll, splitAll, List.cons_append, piecesFrom, hbegins, if_true,
    List.length_cons, Nat.add_sub_cancel, hskip, joinWith_nil_cons]

/-! ## The pieces between occurrences -/

theorem splitAll_ne_nil (word s : List Char) : splitAll word s ≠ [] := by
  simp [splitAll]

@[simp] theorem splitAll_cons {word s : List Char} {c : Char} (h : ¬ word <+: c :: s) :
    splitAll word (c :: s) = (splitAll word s).modifyHead (c :: ·) := by
  have hfalse : word.isPrefixOf (c :: s) = false := by
    rw [Bool.eq_false_iff]
    exact fun hbegins => h (List.isPrefixOf_iff_prefix.1 hbegins)
  simp only [splitAll, piecesFrom, hfalse, Bool.false_eq_true, if_false, List.modifyHead_cons]

theorem splitAll_word_append (w : Char) (word s : List Char) :
    splitAll (w :: word) (w :: word ++ s) = [] :: splitAll (w :: word) s := by
  have hbegins : (w :: word).isPrefixOf (w :: (word ++ s)) = true :=
    List.isPrefixOf_iff_prefix.2 (List.prefix_append _ _)
  have hskip := piecesFrom_skip (w :: word) word s
  simp only [splitAll, List.cons_append, piecesFrom, hbegins, if_true, List.length_cons,
    Nat.add_sub_cancel, hskip]

theorem splitAll_of_not_infix {word s : List Char} (h : ¬ word <:+: s) : splitAll word s = [s] := by
  induction s with
  | nil => rfl
  | cons c s ih =>
    rw [splitAll_cons fun hbegins => h hbegins.isInfix, ih fun hin => h (List.infix_cons hin),
      List.modifyHead_cons]

theorem mem_of_mem_piecesFrom {word : List Char} {skip : Nat} {s : List Char} {c : Char}
    (h : c ∈ (piecesFrom word skip s).1 ∨ ∃ piece ∈ (piecesFrom word skip s).2, c ∈ piece) :
    c ∈ s := by
  fun_induction piecesFrom word skip s with
  | case1 => simp at h
  | case2 skip d s ih => exact List.mem_cons_of_mem _ (ih h)
  | case3 d s hbegins piece pieces hpieces ih =>
    rw [hpieces] at ih
    have hin : c ∈ piece ∨ ∃ piece ∈ pieces, c ∈ piece := by simpa using h
    exact List.mem_cons_of_mem _ (ih hin)
  | case4 d s hbegins piece pieces hpieces ih =>
    rw [hpieces] at ih
    simp only [List.mem_cons] at h ⊢
    rcases h with (rfl | h) | h
    · exact .inl rfl
    · exact .inr (ih (.inl h))
    · exact .inr (ih (.inr h))

theorem mem_of_mem_splitAll {word s piece : List Char} {c : Char} (hpiece : piece ∈ splitAll word s)
    (hc : c ∈ piece) : c ∈ s := by
  have hin : c ∈ (piecesFrom word 0 s).1 ∨ ∃ piece ∈ (piecesFrom word 0 s).2, c ∈ piece := by
    rcases List.mem_cons.1 hpiece with rfl | hpiece
    · exact .inl hc
    · exact .inr ⟨piece, hpiece, hc⟩
  exact mem_of_mem_piecesFrom hin

/-- A word of two different characters does not overlap itself, so a text may be cut at any of its
occurrences. -/
theorem splitAll_append {a b : Char} (hab : a ≠ b) (v : List Char) :
    ∀ u : List Char, splitAll [a, b] (u ++ a :: b :: v) = splitAll [a, b] u ++ splitAll [a, b] v
  | [] => splitAll_word_append a [b] v
  | [c] => by
    have hc : ¬ [a, b] <+: [c] := by simp [List.cons_prefix_cons]
    have hover : ¬ [a, b] <+: c :: a :: b :: v := by
      simp [List.cons_prefix_cons, hab.symm]
    rw [List.singleton_append, splitAll_cons hover, splitAll_cons hc,
      show a :: b :: v = [a, b] ++ v from rfl, splitAll_word_append]
    rfl
  | c :: d :: u => by
    by_cases hword : [a, b] <+: c :: d :: u
    · obtain ⟨rest, hrest⟩ := hword
      obtain ⟨rfl, htail⟩ := List.cons.inj hrest
      obtain ⟨rfl, -⟩ := List.cons.inj htail
      have hcut := splitAll_word_append a [b]
      simp only [List.cons_append, List.nil_append] at hcut ⊢
      rw [hcut, hcut, splitAll_append hab v u, List.cons_append]
    · have hover : ¬ [a, b] <+: c :: (d :: u ++ a :: b :: v) := by
        simpa [List.cons_prefix_cons] using hword
      rw [List.cons_append, splitAll_cons hover, splitAll_append hab v (d :: u), splitAll_cons hword]
      cases hsplit : splitAll [a, b] (d :: u) with
      | nil => exact absurd hsplit (splitAll_ne_nil _ _)
      | cons piece pieces => rfl

theorem splitAll_joinWith {a b : Char} (hab : a ≠ b) (piece : List Char)
    (pieces : List (List Char)) :
    splitAll [a, b] (joinWith [a, b] (piece :: pieces)) =
      (piece :: pieces).flatMap (splitAll [a, b]) := by
  induction pieces generalizing piece with
  | nil => simp [joinWith]
  | cons next pieces ih =>
    have hjoin : joinWith [a, b] (piece :: next :: pieces) =
        piece ++ a :: b :: joinWith [a, b] (next :: pieces) := by simp [joinWith]
    rw [hjoin, splitAll_append hab, ih, ← List.flatMap_cons]

end Text

end Webprint
