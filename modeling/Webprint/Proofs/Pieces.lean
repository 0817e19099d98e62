import Webprint.Proofs.Search
import Webprint.Proofs.Version

set_option autoImplicit false

/-!
# Templates as pieces

A template as a list of pieces: characters other than a backslash, and references to groups. While
groups are filled in one after the other the text stays such a list, so a reference is found where
one was written and nowhere else.
-/

namespace Webprint.Version

/-- The text of group `k`; empty if the group took no part in the match. -/
def textOf (groups : List (Option (List Char))) (k : Nat) : List Char :=
  (groups[k - 1]?).join.getD []

/-! ## Pieces -/

inductive Piece where
  | char (c : Char)
  | group (k : Nat)
deriving DecidableEq

namespace Piece

def text : Piece → List Char
  | .char c => [c]
  | .group k => reference k

/-- Only references begin with a backslash, and they have one digit. -/
def Sound : Piece → Prop
  | .char c => c ≠ '\\'
  | .group k => 1 ≤ k ∧ k ≤ 9

def OneDigit : Piece → Prop
  | .char _ => True
  | .group k => 1 ≤ k ∧ k ≤ 9

def Plain : Piece → Prop
  | .char c => c ≠ '\\' ∧ c ≠ '?' ∧ c ≠ ':' ∧ c ≠ '\n'
  | .group k => 1 ≤ k ∧ k ≤ 9

/-- A reference to group `i` or a later one, if any. -/
def From (i : Nat) : Piece → Prop
  | .char _ => True
  | .group k => i ≤ k

theorem Plain.sound {p : Piece} (h : p.Plain) : p.Sound := by
  cases p with
  | char c => exact h.1
  | group k => exact h

theorem Sound.oneDigit {p : Piece} (h : p.Sound) : p.OneDigit := by
  cases p with
  | char c => trivial
  | group k => exact h

theorem Plain.ne_question {p : Piece} (h : p.Plain) : p ≠ .char '?' := by
  rintro rfl
  exact h.2.1 rfl

theorem Plain.ne_newline {p : Piece} (h : p.Plain) : p ≠ .char '\n' := by
  rintro rfl
  exact h.2.2.2 rfl

end Piece

def written (ps : List Piece) : List Char := ps.flatMap Piece.text

@[simp] theorem written_append (ps qs : List Piece) :
    written (ps ++ qs) = written ps ++ written qs :=
  List.flatMap_append

@[simp] theorem written_cons (p : Piece) (ps : List Piece) :
    written (p :: ps) = p.text ++ written ps := rfl

theorem written_ne_nil {ps : List Piece} (h : ps ≠ []) : written ps ≠ [] := by
  cases ps with
  | nil => exact absurd rfl h
  | cons p ps => cases p <;> simp [Piece.text, reference]

theorem written_chars (s : List Char) : written (s.map .char) = s := by
  induction s with
  | nil => rfl
  | cons c s ih => rw [List.map_cons, written_cons, ih]; rfl

theorem reference_eq {k : Nat} (h : k ≤ 9) : reference k = ['\\', k.digitChar] := by
  rw [reference, Nat.toDigits_of_lt_base (by omega)]

theorem digitChar_ne :
    ∀ k ≤ 9, k.digitChar ≠ '\\' ∧ k.digitChar ≠ '?' ∧ k.digitChar ≠ ':' ∧ k.digitChar ≠ '\n' := by
  decide

theorem digitChar_inj {j k : Nat} (hj : j ≤ 9) (hk : k ≤ 9) (h : j.digitChar = k.digitChar) :
    j = k := by
  have hj' := Nat.toNat_digitChar_sub_48_of_lt_ten (by omega : j < 10)
  have hk' := Nat.toNat_digitChar_sub_48_of_lt_ten (by omega : k < 10)
  rw [h] at hj'
  omega

/-- The signs of a choice, and line ends, are never part of a reference. -/
theorem mem_written {c : Char} (hc : c = '?' ∨ c = ':' ∨ c = '\n') {ps : List Piece}
    (hps : ∀ p ∈ ps, p.Sound) (h : c ∈ written ps) : .char c ∈ ps := by
  obtain ⟨p, hp, hin⟩ := List.mem_flatMap.1 h
  cases p with
  | char d => rwa [List.mem_singleton.1 hin]
  | group k =>
    have hk : (Piece.group k).Sound := hps _ hp
    have hdigit := digitChar_ne k hk.2
    rw [Piece.text, reference_eq hk.2] at hin
    rcases hc with rfl | rfl | rfl <;>
      simp [hdigit.2.1.symm, hdigit.2.2.1.symm, hdigit.2.2.2.symm] at hin

/-! ## Where references and choices are found -/

/-- How a choice on a group begins. -/
def choiceMark (i : Nat) : List Char := reference i ++ ['?']

theorem reference_prefix_cons_iff {i : Nat} (hi : i ≤ 9) (c : Char) (s : List Char) :
    reference i <+: c :: s ↔ c = '\\' ∧ s.head? = some i.digitChar := by
  rw [reference_eq hi, List.cons_prefix_cons]
  cases s with
  | nil => simp
  | cons d s => simp [List.cons_prefix_cons, eq_comm]

theorem head?_written {c : Char} (hc : c ≠ '\\') (ps : List Piece) :
    (written ps).head? = some c ↔ ps.head? = some (.char c) := by
  cases ps with
  | nil => simp [written]
  | cons p ps =>
    cases p with
    | char d => simp [Piece.text]
    | group k => simp [Piece.text, reference, Ne.symm hc]

theorem written_eq_question {ps : List Piece} (hps : ∀ p ∈ ps, p.Sound) {s : List Char}
    (h : written ps = '?' :: s) : ∃ qs, ps = .char '?' :: qs := by
  cases ps with
  | nil => cases h
  | cons p ps =>
    cases p with
    | char c =>
      have hc : c = '?' := (List.cons.inj h).1
      exact ⟨ps, by rw [hc]⟩
    | group k =>
      have hk : (Piece.group k).Sound := hps _ (by simp)
      rw [written_cons, Piece.text, reference_eq hk.2] at h
      exact absurd (List.cons.inj h).1 (by decide)

/-- Only a question mark behind a reference makes a choice. -/
theorem free_written {i : Nat} (hi : i ≤ 9) {ps qs : List Piece}
    (hps : ∀ p ∈ ps, p.Sound ∧ p ≠ .char '?') (hqs : ∀ q ∈ qs, q.Sound)
    (hhead : ∀ rs, qs ≠ .char '?' :: rs) :
    Text.Free (choiceMark i) (written qs) (written ps) := by
  induction ps with
  | nil => trivial
  | cons p ps ih =>
    have hrest := ih fun q hq => hps q (by simp [hq])
    have hp := (hps p (by simp)).1
    have hmark : choiceMark i = ['\\', i.digitChar, '?'] := by rw [choiceMark, reference_eq hi]; rfl
    rw [hmark] at hrest ⊢
    cases p with
    | char c =>
      have hc : c ≠ '\\' := hp
      exact ⟨by simp [List.cons_prefix_cons, Ne.symm hc], hrest⟩
    | group k =>
      have hk : k ≤ 9 := hp.2
      have hdigit := (digitChar_ne k hk).1
      rw [written_cons, Piece.text, reference_eq hk]
      refine ⟨?_, by simp [List.cons_prefix_cons, Ne.symm hdigit], hrest⟩
      change ¬ ['\\', i.digitChar, '?'] <+: '\\' :: k.digitChar :: (written ps ++ written qs)
      rw [List.cons_prefix_cons, List.cons_prefix_cons]
      rintro ⟨-, -, s, hs⟩
      -- the question mark would be the first piece behind the reference
      rw [← written_append] at hs
      have hall : ∀ q ∈ ps ++ qs, q.Sound :=
        List.forall_mem_append.2 ⟨fun q hq => (hps q (by simp [hq])).1, hqs⟩
      obtain ⟨rs, hrs⟩ := written_eq_question hall hs.symm
      cases ps with
      | nil => exact hhead rs hrs
      | cons q ps => exact (hps q (by simp)).2 (List.cons.inj hrs).1

theorem choice?_append {i : Nat} {rest s : List Char} (h : Text.Free (choiceMark i) rest s) :
    choice? i (s ++ rest) = choice? i rest := by
  induction s with
  | nil => rfl
  | cons c s ih =>
    have hnone := Text.after?_eq_none_iff.2 h.1
    rw [choiceMark] at hnone
    rw [List.cons_append, choice?, choiceAt?, hnone]
    exact ih h.2

theorem choice?_of_not_infix {i : Nat} {s : List Char} (h : ¬ choiceMark i <:+: s) :
    choice? i s = none := by
  induction s with
  | nil => rfl
  | cons c s ih =>
    have hnone : Text.after? (reference i ++ ['?']) (c :: s) = none :=
      Text.after?_eq_none_iff.2 fun hbegins => h hbegins.isInfix
    rw [choice?, choiceAt?, hnone]
    exact ih fun hin => h (List.infix_cons hin)

/-- A choice is found where the text begins with it. -/
theorem choice?_self (i : Nat) {a b : List Char} (ha : a ≠ []) (hcolon : ':' ∉ a)
    (hnewline : '\n' ∉ b) :
    choice? i (choiceMark i ++ (a ++ ':' :: b)) = some ⟨choiceMark i ++ (a ++ ':' :: b), a, b⟩ := by
  have hpass : ∀ c ∈ a, (c != ':') = true :=
    fun c hc => bne_iff_ne.2 (ne_of_mem_of_not_mem hc hcolon)
  have htaken : (a ++ ':' :: b).takeWhile (· != ':') = a := by
    simp [List.takeWhile_append_of_pos hpass]
  have hrest : (a ++ ':' :: b).dropWhile (· != ':') = ':' :: b := by
    simp [List.dropWhile_append_of_pos hpass]
  have hfits : (a.isEmpty || b.contains '\n') = false := by
    simp [ha, hnewline]
  have hat : choiceAt? i (choiceMark i ++ (a ++ ':' :: b)) =
      some ⟨choiceMark i ++ (a ++ ':' :: b), a, b⟩ := by
    have hafter := Text.after?_eq_some_iff.2 (rfl : choiceMark i ++ (a ++ ':' :: b) = _)
    rw [choiceMark] at hafter ⊢
    rw [choiceAt?, hafter]
    simp only [htaken, hrest, hfits, Bool.false_eq_true, if_false]
  rw [choiceMark, reference, List.cons_append, List.cons_append] at hat ⊢
  rw [choice?, hat]

/-! ## Filling in one group -/

namespace Piece

/-- The piece with a text in the place of group `i`. -/
def put (i : Nat) (new : List Char) : Piece → List Piece
  | .char c => [.char c]
  | .group k => if k = i then new.map .char else [.group k]

/-- The piece once the groups below `i` are filled in. -/
def below (groups : List (Option (List Char))) (i : Nat) : Piece → List Piece
  | .char c => [.char c]
  | .group k => if k < i then (textOf groups k).map .char else [.group k]

end Piece

theorem flatMap_put_chars (i : Nat) (new s : List Char) :
    (s.map Piece.char).flatMap (Piece.put i new) = s.map .char := by
  induction s with
  | nil => rfl
  | cons c s ih => rw [List.map_cons, List.flatMap_cons, ih]; rfl

/-- Filling in a group goes piece by piece, unless a backslash and the digit behind it make up a
reference. -/
theorem replaceAll_piece {i : Nat} (hi : i ≤ 9) (new : List Char) {p : Piece} (hp : p.OneDigit)
    {s : List Char} (h : p = .char '\\' → s.head? ≠ some i.digitChar) :
    Text.replaceAll (reference i) new (p.text ++ s) =
      written (p.put i new) ++ Text.replaceAll (reference i) new s := by
  cases p with
  | char c =>
    refine Text.replaceAll_cons new fun hbegins => ?_
    obtain ⟨rfl, hhead⟩ := (reference_prefix_cons_iff hi c s).1 hbegins
    exact h rfl hhead
  | group k =>
    have hk : k ≤ 9 := hp.2
    by_cases hki : k = i
    · subst hki
      rw [Piece.put, if_pos rfl, written_chars]
      exact Text.replaceAll_append ..
    · have hself : written (Piece.put i new (.group k)) = ['\\', k.digitChar] := by
        rw [Piece.put, if_neg hki, written_cons, Piece.text, reference_eq hk]
        rfl
      rw [hself, Piece.text, reference_eq hk]
      refine (Text.replaceAll_cons new fun hbegins => ?_).trans
        (congrArg _ (Text.replaceAll_cons new fun hbegins => ?_))
      · have hhead := ((reference_prefix_cons_iff hi _ _).1 hbegins).2
        exact hki (digitChar_inj hk hi (Option.some.inj hhead))
      · exact (digitChar_ne k hk).1 ((reference_prefix_cons_iff hi _ _).1 hbegins).1

theorem replaceAll_written {i : Nat} (hi : i ≤ 9) (new : List Char) {ps : List Piece}
    (hps : ∀ p ∈ ps, p.Sound) :
    Text.replaceAll (reference i) new (written ps) = written (ps.flatMap (Piece.put i new)) := by
  induction ps with
  | nil => rfl
  | cons p ps ih =>
    have hp := hps p (by simp)
    have hslash : p = .char '\\' → (written ps).head? ≠ some i.digitChar := by
      rintro rfl
      exact absurd rfl hp
    rw [written_cons, replaceAll_piece hi new hp.oneDigit hslash, List.flatMap_cons, written_append,
      ih fun q hq => hps q (by simp [hq])]

theorem put_below (groups : List (Option (List Char))) (i : Nat) (p : Piece) :
    (p.below groups i).flatMap (Piece.put i (textOf groups i)) = p.below groups (i + 1) := by
  cases p with
  | char c => rfl
  | group k =>
    rcases Nat.lt_trichotomy k i with h | rfl | h
    · rw [Piece.below, if_pos h, Piece.below, if_pos (by omega), flatMap_put_chars]
    · rw [Piece.below, if_neg (by omega), Piece.below, if_pos (by omega)]
      simp [Piece.put]
    · rw [Piece.below, if_neg (by omega), Piece.below, if_neg (by omega)]
      simp [Piece.put, show k ≠ i by omega]

theorem flatMap_put_below (groups : List (Option (List Char))) (i : Nat) (ps : List Piece) :
    (ps.flatMap (Piece.below groups i)).flatMap (Piece.put i (textOf groups i))
      = ps.flatMap (Piece.below groups (i + 1)) := by
  rw [List.flatMap_assoc]
  simp only [put_below]

/-- Pieces that refer to later groups only are as they were. -/
theorem flatMap_below_of_from {groups : List (Option (List Char))} {i : Nat} {ps : List Piece}
    (h : ∀ p ∈ ps, p.From i) : ps.flatMap (Piece.below groups i) = ps := by
  induction ps with
  | nil => rfl
  | cons p ps ih =>
    have hp : p.below groups i = [p] := by
      cases p with
      | char c => rfl
      | group k =>
        have hk : Piece.From i (.group k) := h _ (by simp)
        exact if_neg (Nat.not_lt.2 hk)
    rw [List.flatMap_cons, hp, ih fun q hq => h q (by simp [hq]), List.singleton_append]

theorem forall_mem_below {q : Piece → Prop} {groups : List (Option (List Char))}
    (htext : ∀ k, ∀ c ∈ textOf groups k, q (.char c)) (i : Nat) {ps : List Piece}
    (hps : ∀ p ∈ ps, q p) : ∀ p ∈ ps.flatMap (Piece.below groups i), q p := by
  intro r hr
  obtain ⟨p, hp, hin⟩ := List.mem_flatMap.1 hr
  cases p with
  | char c =>
    rw [List.mem_singleton.1 hin]
    exact hps _ hp
  | group k =>
    rw [Piece.below] at hin
    split_ifs at hin
    · obtain ⟨c, hc, rfl⟩ := List.mem_map.1 hin
      exact htext k c hc
    · rw [List.mem_singleton.1 hin]
      exact hps _ hp

theorem mem_textOf {groups : List (Option (List Char))} {k : Nat} {c : Char}
    (h : c ∈ textOf groups k) : ∃ s, some s ∈ groups ∧ c ∈ s := by
  cases hcapture : (groups[k - 1]?).join with
  | none => simp [textOf, hcapture] at h
  | some s =>
    rw [textOf, hcapture] at h
    exact ⟨s, List.mem_of_getElem? (Option.join_eq_some_iff.1 hcapture), h⟩

end Webprint.Version
