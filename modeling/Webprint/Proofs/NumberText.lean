import Webprint.Proofs.JsonText
import Webprint.Proofs.Steps

set_option autoImplicit false

/-!
# The text of numbers

What numbers are written with, and what a number says that is read back alone: it is read back
wherever it is written.
-/

namespace Webprint.Json

/-! ## What numbers are written with -/

def NumberSign (c : Char) : Prop := c.isDigit ∨ c = '.' ∨ c = 'e' ∨ c = '-' ∨ c = '+'

def NumberText (s : List Char) : Prop := ∀ c ∈ s, NumberSign c

theorem numberText_append {s t : List Char} :
    NumberText (s ++ t) ↔ NumberText s ∧ NumberText t :=
  List.forall_mem_append

theorem numberText_cons {c : Char} {s : List Char} :
    NumberText (c :: s) ↔ NumberSign c ∧ NumberText s :=
  List.forall_mem_cons

theorem NumberText.take {s : List Char} (h : NumberText s) (n : Nat) : NumberText (s.take n) :=
  fun c hc => h c (List.mem_of_mem_take hc)

theorem NumberText.drop {s : List Char} (h : NumberText s) (n : Nat) : NumberText (s.drop n) :=
  fun c hc => h c (List.mem_of_mem_drop hc)

theorem numberText_toDigits (n : Nat) : NumberText (Nat.toDigits 10 n) :=
  fun _ hc => .inl (isDigit_toDigits hc)

theorem numberText_zeros (n : Nat) : NumberText (List.replicate n '0') := by
  intro c hc
  rw [List.eq_of_mem_replicate hc]
  exact .inl (by decide)

theorem numberText_integer (i : Int) : NumberText (toString i).toList := by
  have htext := text_integer i
  rw [Number.text] at htext
  rw [htext]
  split
  · exact numberText_toDigits _
  · exact numberText_cons.2 ⟨by simp [NumberSign], numberText_toDigits _⟩

theorem numberText_pointed (ds : List Char) :
    NumberText ds → NumberText (match ds with
      | [] => []
      | [d] => [d]
      | d :: rest => d :: '.' :: rest) := by
  intro h
  split
  · exact h
  · exact h
  · obtain ⟨hd, hrest⟩ := numberText_cons.1 h
    exact numberText_cons.2 ⟨hd, numberText_cons.2 ⟨by simp [NumberSign], hrest⟩⟩

theorem numberText_layout (x : Decimal.Scientific) : NumberText (doubleFormat.layout x).toList := by
  have hds : NumberText (Nat.toDigits 10 x.digits) := numberText_toDigits _
  have hpoint : NumberSign '.' := by simp [NumberSign]
  have hzero : NumberSign '0' := .inl (by decide)
  unfold Decimal.NumberFormat.layout
  dsimp only
  -- the branches only need to know that these are digits
  generalize Nat.toDigits 10 x.digits = ds at hds
  split_ifs
  · simp [NumberText, hpoint, hzero]
  · rw [String.toList_ofList]
    exact numberText_append.2
      ⟨numberText_append.2 ⟨hds, numberText_zeros _⟩, by simp [NumberText, hpoint, hzero]⟩
  · rw [String.toList_ofList]
    exact numberText_append.2 ⟨hds.take _, numberText_cons.2 ⟨hpoint, hds.drop _⟩⟩
  · rw [String.toList_ofList]
    exact numberText_append.2
      ⟨numberText_cons.2 ⟨hzero, numberText_cons.2 ⟨hpoint, numberText_zeros _⟩⟩, hds⟩
  all_goals
    simp only [String.toList_append, String.toList_ofList, numberText_append]
    exact ⟨⟨⟨numberText_pointed ds hds, by simp [NumberText, NumberSign]⟩,
      by simp [NumberText, NumberSign, doubleFormat]⟩, numberText_integer _⟩

theorem numberText_number (n : Number) : NumberText n.text.toList := by
  cases n with
  | integer i => exact numberText_integer i
  | double x =>
    rw [Number.text, Decimal.NumberFormat.text, String.toList_append, numberText_append]
    refine ⟨?_, numberText_layout _⟩
    split <;> simp [NumberText, NumberSign]

theorem isSpace_of_numberSign {c : Char} (h : NumberSign c) : isSpace c = false := by
  rcases h with h | rfl | rfl | rfl | rfl
  · exact isSpace_of_isDigit h
  all_goals decide

/-! ## Numbers with something behind them -/

theorem digitsOf_append {s rest : List Char} (hr : EndsNumber rest) :
    digitsOf (s ++ rest) = digitsOf s := by
  have htake : (s ++ rest).takeWhile Char.isDigit = s.takeWhile Char.isDigit := by
    induction s with
    | nil =>
      cases rest with
      | nil => rfl
      | cons c rest => simp [(hr c rfl).1]
    | cons c s ih => simp [List.takeWhile_cons, ih]
  rw [digitsOf, digitsOf, htake]

theorem afterDigits_append {s rest : List Char} (hr : EndsNumber rest) :
    afterDigits (s ++ rest) = afterDigits s ++ rest := by
  induction s with
  | nil =>
    cases rest with
    | nil => rfl
    | cons c rest => simp [afterDigits, (hr c rfl).1]
  | cons c s ih =>
    rw [afterDigits] at ih ⊢
    rw [List.cons_append, List.dropWhile_cons, ih, afterDigits, afterDigits, List.dropWhile_cons]
    split_ifs <;> rfl

theorem readFraction_append {s s' rest : List Char} {f : Option (List Nat)} (hr : EndsNumber rest)
    (h : readFraction s = some (f, s')) : readFraction (s ++ rest) = some (f, s' ++ rest) := by
  cases s with
  | nil =>
    cases h
    exact readFraction_of_ends hr
  | cons c s =>
    by_cases hc : c = '.'
    · subst hc
      rw [readFraction] at h
      rw [List.cons_append, readFraction, digitsOf_append hr, afterDigits_append hr]
      split_ifs at h ⊢
      cases h
      rfl
    · have hkept (t : List Char) : readFraction (c :: t) = some (none, c :: t) := by
        rw [readFraction]
        exact fun s hs => hc (List.cons.inj hs).1
      rw [hkept] at h
      cases h
      exact hkept (s ++ rest)

def exponentSign : List Char → Bool × List Char
  | '+' :: s => (false, s)
  | '-' :: s => (true, s)
  | s => (false, s)

theorem exponentSign_append {s : List Char} (hs : s ≠ []) (rest : List Char) :
    exponentSign (s ++ rest) = ((exponentSign s).1, (exponentSign s).2 ++ rest) := by
  cases s with
  | nil => exact absurd rfl hs
  | cons c s =>
    rw [List.cons_append]
    by_cases hplus : c = '+'
    · subst hplus
      rfl
    · by_cases hminus : c = '-'
      · subst hminus
        rfl
      · have hnone (t : List Char) : exponentSign (c :: t) = (false, c :: t) := by
          rw [exponentSign]
          · exact fun u hu => hplus (List.cons.inj hu).1
          · exact fun u hu => hminus (List.cons.inj hu).1
        rw [hnone, hnone]
        rfl

theorem readExponent_cons (c : Char) (s : List Char) : readExponent (c :: s) =
    if c = 'e' || c = 'E' then
      if (digitsOf (exponentSign s).2).isEmpty then none
      else some (some ((exponentSign s).1, digitsOf (exponentSign s).2),
        afterDigits (exponentSign s).2)
    else some (none, c :: s) := rfl

theorem readExponent_append {s s' rest : List Char} {e : Option (Bool × List Nat)}
    (hr : EndsNumber rest) (h : readExponent s = some (e, s')) :
    readExponent (s ++ rest) = some (e, s' ++ rest) := by
  cases s with
  | nil =>
    cases h
    exact readExponent_of_ends hr
  | cons c s =>
    rw [readExponent_cons] at h
    rw [List.cons_append, readExponent_cons]
    split_ifs at h with hletter hdigits
    · have hs : s ≠ [] := by
        rintro rfl
        exact hdigits rfl
      cases h
      rw [if_pos hletter, exponentSign_append hs, digitsOf_append hr, afterDigits_append hr,
        if_neg hdigits]
    · cases h
      rw [if_neg hletter]
      rfl

theorem readNumber_eq_number {negative : Bool} {s rest : List Char} {n : Number} :
    readNumber negative s = (.number n, some rest) ↔
      ((digitsOf s).isEmpty || ((digitsOf s).head? = some 0 && (digitsOf s).length ≠ 1)) = false ∧
        ∃ f s' e, readFraction (afterDigits s) = some (f, s') ∧
          readExponent s' = some (e, rest) ∧ numberOf negative (digitsOf s) f e = some n := by
  simp only [readNumber]
  split_ifs with hwhole
  · constructor
    · intro h
      cases h
    · rintro ⟨hnot, -⟩
      rw [hwhole] at hnot
      cases hnot
  · rw [Bool.not_eq_true] at hwhole
    simp only [hwhole, true_and]
    cases hfraction : readFraction (afterDigits s) with
    | none => simp
    | some fs =>
      obtain ⟨f, s'⟩ := fs
      cases hexponent : readExponent s' with
      | none => simp [hexponent]
      | some es =>
        obtain ⟨e, s''⟩ := es
        cases hnumber : numberOf negative (digitsOf s) f e <;> simp [hexponent, hnumber, and_comm]

theorem readNumber_append {negative : Bool} {s rest : List Char} {n : Number} (hr : EndsNumber rest)
    (h : readNumber negative s = (.number n, some [])) :
    readNumber negative (s ++ rest) = (.number n, some rest) := by
  obtain ⟨hwhole, f, s', e, hfraction, hexponent, hnumber⟩ := readNumber_eq_number.1 h
  rw [readNumber_eq_number, digitsOf_append hr, afterDigits_append hr]
  exact ⟨hwhole, f, _, e, readFraction_append hr hfraction, readExponent_append hr hexponent,
    hnumber⟩

theorem readFraction_suffix {s s' : List Char} {f : Option (List Nat)}
    (h : readFraction s = some (f, s')) : s' <:+ s := by
  unfold readFraction at h
  split at h
  · split_ifs at h
    cases h
    exact (List.dropWhile_suffix _).trans (List.suffix_cons _ _)
  · cases h
    exact List.suffix_rfl

theorem exponentSign_suffix (s : List Char) : (exponentSign s).2 <:+ s := by
  unfold exponentSign
  split
  · exact List.suffix_cons _ _
  · exact List.suffix_cons _ _
  · exact List.suffix_rfl

theorem readExponent_suffix {s s' : List Char} {e : Option (Bool × List Nat)}
    (h : readExponent s = some (e, s')) : s' <:+ s := by
  cases s with
  | nil =>
    cases h
    exact List.suffix_rfl
  | cons c s =>
    rw [readExponent_cons] at h
    split_ifs at h
    · cases h
      exact ((List.dropWhile_suffix _).trans (exponentSign_suffix s)).trans (List.suffix_cons _ _)
    · cases h
      exact List.suffix_rfl

theorem readNumber_suffix {negative : Bool} {s rest : List Char} {n : Number}
    (h : readNumber negative s = (.number n, some rest)) : rest <:+ s := by
  obtain ⟨-, f, s', e, hfraction, hexponent, -⟩ := readNumber_eq_number.1 h
  exact ((readExponent_suffix hexponent).trans (readFraction_suffix hfraction)).trans
    (List.dropWhile_suffix _)

theorem starts_of_readValue {strays : Bool} {fuel : Nat} {s rest : List Char} {n : Number}
    {c : Char} (hspace : isSpace c = false)
    (h : readValue strays (fuel + 1) (c :: s) = (.number n, some rest)) : c = '-' ∨ c.isDigit := by
  rw [readValue, skipSpace_cons s hspace] at h
  split at h
  case h_1 => cases h
  case h_2 | h_3 | h_4 => split at h <;> cases h
  case h_5 heq => exact .inl (List.cons.inj heq).1
  case h_6 | h_7 | h_8 =>
    rw [readWord] at h
    split at h <;> cases h
  case h_9 =>
    refine .inr (by_contra fun hdigit => ?_)
    have hnone : digitsOf (c :: s) = [] := by simp [digitsOf, hdigit]
    rw [readNumber, hnone] at h
    cases h

/-- What is neither an array nor an object was read as it is. -/
theorem eq_ofValue_of_value {depth : Nat} {r : Reading} {v : Value} (harray : ∀ vs, v ≠ .array vs)
    (hobject : ∀ ms, v ≠ .object ms) (h : Decode.value depth r = .ok v) : r = .ofValue v := by
  cases r with
  | array rs closed =>
    cases depth with
    | zero => cases h
    | succ depth =>
      obtain ⟨vs, -, hdone⟩ := ok_of_bind h
      cases closed <;> cases hdone
      exact absurd rfl (harray vs)
  | object ms closed =>
    cases depth with
    | zero => cases h
    | succ depth =>
      obtain ⟨kvs, -, hdone⟩ := ok_of_bind h
      cases closed <;> cases hdone
      exact absurd rfl (hobject kvs)
  | _ => cases depth <;> cases h <;> rfl

theorem readDocument_eq {strays : Bool} {s : List Char} {r : Reading}
    (h : readDocument strays s = ⟨r, true⟩) :
    ∃ rest, readValue strays (2 * s.length + 2) s = (r, some rest) ∧ skipSpace rest = [] := by
  rw [readDocument] at h
  split at h
  · rename_i value rest heq
    obtain ⟨rfl, hrest⟩ := Reading.Document.mk.inj h
    exact ⟨rest, heq, List.isEmpty_iff.1 hrest⟩
  · cases h

theorem Number.readsBack {n : Number} (h : decodeText Decode.value n.text = .ok (.number n)) :
    n.ReadsBack := by
  have hdocument : readDocument false n.text.toList = ⟨.number n, true⟩ := by
    obtain ⟨v, hv, hdone⟩ := ok_of_bind h
    rw [readText] at hv hdone
    cases hread : readDocument false n.text.toList with
    | mk r ended =>
      rw [hread] at hv hdone
      cases ended <;> cases hdone
      rw [show r = .number n from eq_ofValue_of_value (by simp) (by simp) hv]
  obtain ⟨rest, hread, hrest⟩ := readDocument_eq hdocument
  have hsigns := numberText_number n
  cases htext : n.text.toList with
  | nil =>
    rw [htext] at hread
    cases hread
  | cons c s =>
    rw [htext] at hread hsigns
    obtain ⟨hc, hs⟩ := numberText_cons.1 hsigns
    have hstart := starts_of_readValue (isSpace_of_numberSign hc) hread
    -- nothing is left of the text, as it has no blanks
    have hnil {negative : Bool} {t : List Char} (ht : t <:+ c :: s)
        (h : readNumber negative t = (.number n, some rest)) : rest = [] := by
      cases rest with
      | nil => rfl
      | cons d rest =>
        have hd : NumberSign d :=
          hsigns d (((readNumber_suffix h).trans ht).subset (List.mem_cons_self ..))
        rw [skipSpace_cons _ (isSpace_of_numberSign hd)] at hrest
        cases hrest
    refine ⟨⟨c, s, htext, hstart⟩, fun strays fuel rest' hr => ?_⟩
    rw [htext]
    rcases hstart with rfl | hdigit
    · rw [readValue_minus] at hread
      rw [List.cons_append, readValue_minus]
      rw [hnil (List.suffix_cons _ _) hread] at hread
      exact readNumber_append hr hread
    · rw [readValue_digit _ _ _ hdigit] at hread
      rw [List.cons_append, readValue_digit _ _ _ hdigit, ← List.cons_append]
      rw [hnil List.suffix_rfl hread] at hread
      exact readNumber_append hr hread

end Webprint.Json
