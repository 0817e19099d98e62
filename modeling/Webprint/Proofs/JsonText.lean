import Mathlib.Tactic.SplitIfs
import Webprint.Json.Decode

set_option autoImplicit false

/-!
# Reading back what was printed

The compact text of a value is read as the value's own reading. Integers of 64 bits are shown to
come back from their text; a value that holds other numbers is `Readable` if they do.
-/

namespace Webprint.Json

/-! ## Blanks -/

theorem isSpace_of_isDigit {c : Char} (h : c.isDigit) : isSpace c = false := by
  rw [Bool.eq_false_iff]
  intro hs
  simp only [isSpace, Bool.or_eq_true, beq_iff_eq] at hs
  rcases hs with ((rfl | rfl) | rfl) | rfl <;> revert h <;> decide

@[simp] theorem skipSpace_cons {c : Char} (s : List Char) (h : isSpace c = false) :
    skipSpace (c :: s) = c :: s := by
  simp [skipSpace, h]

/-! ## Integers -/

def EndsNumber (rest : List Char) : Prop :=
  ∀ c ∈ rest.head?, c.isDigit = false ∧ c ≠ '.' ∧ c ≠ 'e' ∧ c ≠ 'E'

theorem endsNumber_nil : EndsNumber [] := by
  intro c hc
  cases hc

theorem endsNumber_cons {c : Char} (rest : List Char)
    (h : c.isDigit = false ∧ c ≠ '.' ∧ c ≠ 'e' ∧ c ≠ 'E') : EndsNumber (c :: rest) := by
  intro d hd
  cases hd
  exact h

theorem digit?_of_isDigit {c : Char} (h : c.isDigit) : digit? c = some (c.toNat - 48) := by
  have hc : '0' ≤ c ∧ c ≤ '9' := by simpa [Char.isDigit, Char.le_def] using h
  simp [digit?, hc.1, hc.2]

theorem isDigit_toDigits {n : Nat} {c : Char} (h : c ∈ Nat.toDigits 10 n) : c.isDigit :=
  Nat.isDigit_of_mem_toDigits (by decide) (by decide) h

theorem EndsNumber.head {rest : List Char} (h : EndsNumber rest) :
    ∀ c ∈ rest.head?, c.isDigit = false := fun c hc => (h c hc).1

theorem takeWhile_isDigit {ds rest : List Char} (hd : ∀ c ∈ ds, c.isDigit)
    (hr : ∀ c ∈ rest.head?, c.isDigit = false) :
    (ds ++ rest).takeWhile Char.isDigit = ds ∧ (ds ++ rest).dropWhile Char.isDigit = rest := by
  rw [List.takeWhile_append_of_pos hd, List.dropWhile_append_of_pos hd]
  cases rest with
  | nil => simp
  | cons c rest =>
    have hc := hr c rfl
    simp [hc]

def digitsOfNat (n : Nat) : List Nat := (Nat.toDigits 10 n).map fun c => c.toNat - 48

theorem digitsOf_toDigits (n : Nat) {rest : List Char} (hr : EndsNumber rest) :
    digitsOf (Nat.toDigits 10 n ++ rest) = digitsOfNat n := by
  unfold digitsOf
  rw [(takeWhile_isDigit (fun _ => isDigit_toDigits) hr.head).1]
  have hall : ∀ ds : List Char, (∀ c ∈ ds, c.isDigit) →
      ds.filterMap digit? = ds.map fun c => c.toNat - 48 := by
    intro ds hds
    induction ds with
    | nil => rfl
    | cons c ds ih =>
      have hc := digit?_of_isDigit (hds c (by simp))
      have hrest := ih fun d hd => hds d (by simp [hd])
      simp [hc, hrest]
  exact hall _ fun _ => isDigit_toDigits

theorem afterDigits_toDigits (n : Nat) {rest : List Char} (hr : EndsNumber rest) :
    afterDigits (Nat.toDigits 10 n ++ rest) = rest :=
  (takeWhile_isDigit (fun _ => isDigit_toDigits) hr.head).2

theorem digitsOfNat_ne_nil (n : Nat) : digitsOfNat n ≠ [] := by
  simp [digitsOfNat, Nat.toDigits_ne_nil]

theorem foldl_digitsOfNat (n : Nat) : (digitsOfNat n).foldl (fun m d => m * 10 + d) 0 = n := by
  have h := Nat.ofDigitChars_toDigits (b := 10) (n := n) (by decide) (by decide)
  rw [Nat.ofDigitChars_eq_foldl] at h
  simpa [digitsOfNat, List.foldl_map, Nat.mul_comm] using h

theorem head_digitsOfNat {n : Nat} (hn : 0 < n) : (digitsOfNat n).head? ≠ some 0 := by
  induction n using Nat.strongRecOn with
  | ind n ih =>
    by_cases h : n < 10
    · simp [digitsOfNat, Nat.toDigits_of_lt_base h, Nat.toNat_digitChar_sub_48_of_lt_ten h]
      omega
    · have hq := ih (n / 10) (by omega) (by omega)
      have hne := digitsOfNat_ne_nil (n / 10)
      have hsplit : digitsOfNat n = digitsOfNat (n / 10) ++ [(n % 10).digitChar.toNat - 48] := by
        simp [digitsOfNat, Nat.toDigits_of_base_le (by decide) (Nat.not_lt.1 h)]
      rw [hsplit]
      cases hds : digitsOfNat (n / 10) with
      | nil => exact absurd hds hne
      | cons d ds => simpa [hds] using hq

theorem le_foldl_digits (m : Nat) (ds : List Nat) :
    m ≤ ds.foldl (fun m d => m * 10 + d) m := by
  induction ds generalizing m with
  | nil => exact Nat.le_refl m
  | cons d ds ih =>
    have h := ih (m * 10 + d)
    simp only [List.foldl_cons]
    omega

/-- Digits are all taken if the number that they make fits. -/
theorem takeDigits_eq (m : Nat) (ds : List Nat)
    (h : ds.foldl (fun m d => m * 10 + d) m < Nat.pow 2 64) :
    takeDigits m ds = (ds.foldl (fun m d => m * 10 + d) m, ds.length) := by
  induction ds generalizing m with
  | nil => rfl
  | cons d ds ih =>
    simp only [List.foldl_cons] at h ⊢
    have hfit : m * 10 + d < Nat.pow 2 64 := Nat.lt_of_le_of_lt (le_foldl_digits _ ds) h
    rw [takeDigits, if_pos hfit, ih _ h]
    rfl

theorem takeDigits_digitsOfNat {n : Nat} (h : n < Nat.pow 2 64) :
    takeDigits 0 (digitsOfNat n) = (n, (digitsOfNat n).length) := by
  have hn := foldl_digitsOfNat n
  rw [takeDigits_eq 0 (digitsOfNat n) (by rw [hn]; exact h), hn]

theorem readFraction_of_ends {rest : List Char} (h : EndsNumber rest) :
    readFraction rest = some (none, rest) := by
  cases rest with
  | nil => rfl
  | cons c rest =>
    have hc := (h c rfl).2.1
    rw [readFraction]
    intro s hs
    exact hc (List.cons.inj hs).1

theorem readExponent_of_ends {rest : List Char} (h : EndsNumber rest) :
    readExponent rest = some (none, rest) := by
  cases rest with
  | nil => rfl
  | cons c rest =>
    obtain ⟨-, -, he, hE⟩ := h c rfl
    simp [readExponent, he, hE]

theorem readNumber_toDigits (negative : Bool) (n : Nat) {rest : List Char} (hr : EndsNumber rest) :
    readNumber negative (Nat.toDigits 10 n ++ rest) =
      match numberOf negative (digitsOfNat n) none none with
      | some x => (.number x, some rest)
      | none => (.senseless, some rest) := by
  have hne := digitsOfNat_ne_nil n
  have hzero : ((digitsOfNat n).isEmpty ||
      ((digitsOfNat n).head? = some 0 && (digitsOfNat n).length ≠ 1)) = false := by
    rcases Nat.eq_zero_or_pos n with rfl | hn
    · decide
    · simp [hne, head_digitsOfNat hn]
  cases hnumber : numberOf negative (digitsOfNat n) none none <;>
    simp only [readNumber, digitsOf_toDigits n hr, afterDigits_toDigits n hr, hzero,
      readFraction_of_ends hr, readExponent_of_ends hr, Bool.false_eq_true, ↓reduceIte, hnumber]

theorem numberOf_natural {n : Nat} (h : n < Nat.pow 2 64) :
    numberOf false (digitsOfNat n) none none = some (.integer n) := by
  simp [numberOf, takeDigits_digitsOfNat h]

theorem numberOf_negative {n : Nat} (hn : 0 < n) (h : n ≤ Nat.pow 2 63) :
    numberOf true (digitsOfNat n) none none = some (.integer (-n)) := by
  have hfit : n < Nat.pow 2 64 := Nat.lt_of_le_of_lt h (by decide)
  have hlarge : ¬ Nat.pow 2 63 < n := Nat.not_lt.2 h
  have hzero : n ≠ 0 := Nat.ne_of_gt hn
  simp [numberOf, takeDigits_digitsOfNat hfit, hlarge, hzero]

/-! ## Strings -/

theorem hexDigit?_digitChar : ∀ n < 16, hexDigit? (Nat.digitChar n) = some n := by decide

theorem hexFour?_control {n : Nat} (h : n < 0x20) (rest : List Char) :
    hexFour? ('0' :: '0' :: Nat.digitChar (n / 16) :: Nat.digitChar (n % 16) :: rest)
      = some (n, rest) := by
  have hz : hexDigit? '0' = some 0 := by decide
  have hq := hexDigit?_digitChar (n / 16) (by omega)
  have hr := hexDigit?_digitChar (n % 16) (by omega)
  have hn : n / 16 * 16 + n % 16 = n := by omega
  simp [hexFour?, hz, hq, hr, hn]

def consUnit (c : Char) (u : List StringUnit × List Char) : List StringUnit × List Char :=
  (.char c :: u.1, u.2)

theorem readUnits_simpleEscape (strays : Bool) (fuel : Nat) {e c : Char} (rest : List Char)
    (hu : e ≠ 'u') (h : simpleEscape? e = some c) :
    readUnits strays (fuel + 1) ('\\' :: e :: rest) =
      (readUnits strays fuel rest).map (consUnit c) := by
  rw [readUnits]
  · simp only [h]
    cases readUnits strays fuel rest <;> rfl
  · exact hu

theorem readUnits_control (strays : Bool) (fuel : Nat) {c : Char} (rest : List Char)
    (h : c.toNat < 0x20) :
    readUnits strays (fuel + 1) ('\\' :: 'u' :: '0' :: '0' :: Nat.digitChar (c.toNat / 16)
        :: Nat.digitChar (c.toNat % 16) :: rest) =
      (readUnits strays fuel rest).map (consUnit c) := by
  have hhigh : ¬ 0xd800 ≤ c.toNat := by omega
  have hlow : ¬ 0xdc00 ≤ c.toNat := by omega
  rw [readUnits, hexFour?_control h]
  cases hu : readUnits strays fuel rest with
  | none => simp [hu]
  | some u => simp [hu, consUnit, hhigh, hlow]

theorem readUnits_plain (strays : Bool) (fuel : Nat) {c : Char} (rest : List Char)
    (hquote : c ≠ '"') (hback : c ≠ '\\') (h : ¬ c.toNat < 0x20) :
    readUnits strays (fuel + 1) (c :: rest) = (readUnits strays fuel rest).map (consUnit c) := by
  have hstray : c ≠ stray := by
    rintro rfl
    exact h (by decide)
  rw [readUnits]
  · simp only [h, hback, hstray]
    cases readUnits strays fuel rest <;> rfl
  · exact fun hc => hquote hc
  · exact fun s hc => absurd hc hback
  · exact fun d s hc => absurd hc hback

theorem readUnits_escapeChar (strays : Bool) (fuel : Nat) (c : Char) (rest : List Char) :
    readUnits strays (fuel + 1) (escapeChar c ++ rest) =
      (readUnits strays fuel rest).map (consUnit c) := by
  have hof (n : Nat) (h : c.toNat = n) : c = Char.ofNat n := by rw [← h, Char.ofNat_toNat]
  unfold escapeChar
  split_ifs with hquote hback hn hr ht hb hf hcontrol
  · exact readUnits_simpleEscape strays fuel rest (by decide) (by subst c; rfl)
  · exact readUnits_simpleEscape strays fuel rest (by decide) (by subst c; rfl)
  · exact readUnits_simpleEscape strays fuel rest (by decide) (by subst c; rfl)
  · exact readUnits_simpleEscape strays fuel rest (by decide) (by subst c; rfl)
  · exact readUnits_simpleEscape strays fuel rest (by decide) (by subst c; rfl)
  · exact readUnits_simpleEscape strays fuel rest (by decide) (by rw [hof 8 hb]; rfl)
  · exact readUnits_simpleEscape strays fuel rest (by decide) (by rw [hof 12 hf]; rfl)
  · exact readUnits_control strays fuel rest hcontrol
  · exact readUnits_plain strays fuel rest hquote hback hcontrol

theorem readUnits_escaped (strays : Bool) (s rest : List Char) (fuel : Nat)
    (hfuel : s.length < fuel) :
    readUnits strays fuel (s.flatMap escapeChar ++ '"' :: rest) = some (s.map .char, rest) := by
  induction s generalizing fuel with
  | nil =>
    obtain ⟨fuel, rfl⟩ := Nat.exists_eq_succ_of_ne_zero (Nat.ne_of_gt hfuel)
    simp [readUnits]
  | cons c s ih =>
    obtain ⟨fuel, rfl⟩ := Nat.exists_eq_succ_of_ne_zero (Nat.ne_of_gt (Nat.zero_lt_of_lt hfuel))
    have hs := ih fuel (by simpa using hfuel)
    rw [List.flatMap_cons, List.append_assoc, Nat.succ_eq_add_one, readUnits_escapeChar, hs]
    rfl

theorem charsOfUnits_map (s : List Char) : charsOfUnits (s.map .char) = some s := by
  induction s with
  | nil => rfl
  | cons c s ih => simp [charsOfUnits, ih]

theorem length_le_escaped (s : List Char) : s.length ≤ (s.flatMap escapeChar).length := by
  induction s with
  | nil => exact Nat.le_refl _
  | cons c s ih =>
    have hc : 0 < (escapeChar c).length := by
      unfold escapeChar
      split_ifs <;> simp
    simp only [List.flatMap_cons, List.length_append, List.length_cons]
    omega

theorem readString_escaped (strays : Bool) (s : String) (rest : List Char) :
    readString strays (s.toList.flatMap escapeChar ++ '"' :: rest) = some (some s, rest) := by
  have hlen := length_le_escaped s.toList
  unfold readString
  rw [readUnits_escaped strays s.toList rest _ (by simp only [List.length_append]; omega)]
  simp [charsOfUnits_map]

@[simp] theorem toList_quote (s : String) :
    (quote s).toList = '"' :: (s.toList.flatMap escapeChar ++ ['"']) := by
  simp [quote]

/-! ## Values -/

theorem readValue_digit (strays : Bool) (fuel : Nat) {c : Char} (s : List Char)
    (h : c.isDigit) : readValue strays (fuel + 1) (c :: s) = readNumber false (c :: s) := by
  rw [readValue, skipSpace_cons s (isSpace_of_isDigit h)]
  split <;> simp_all

theorem readValue_minus (strays : Bool) (fuel : Nat) (s : List Char) :
    readValue strays (fuel + 1) ('-' :: s) = readNumber true s := by
  rw [readValue, skipSpace_cons s (by decide)]
  rfl

structure Number.ReadsBack (n : Number) : Prop where
  starts : ∃ c s, n.text.toList = c :: s ∧ (c = '-' ∨ c.isDigit)
  reads : ∀ (strays : Bool) (fuel : Nat) (rest : List Char), EndsNumber rest →
    readValue strays (fuel + 1) (n.text.toList ++ rest) = (.number n, some rest)

theorem text_integer (i : Int) :
    (Number.integer i).text.toList =
      if 0 ≤ i then Nat.toDigits 10 i.toNat else '-' :: Nat.toDigits 10 (-i).toNat := by
  simp only [Number.text, Int.toString_eq_repr, Int.repr_eq_if]
  split_ifs <;> simp

theorem toDigits_cons (n : Nat) : ∃ c s, Nat.toDigits 10 n = c :: s ∧ c.isDigit := by
  cases h : Nat.toDigits 10 n with
  | nil => exact absurd h Nat.toDigits_ne_nil
  | cons c s => exact ⟨c, s, rfl, isDigit_toDigits (n := n) (by simp [h])⟩

/-- Integers that fit 64 bits, signed or not, are read back. -/
theorem readsBack_integer {i : Int} (hlo : -(Nat.pow 2 63 : Int) ≤ i) (hhi : i < Nat.pow 2 64) :
    (Number.integer i).ReadsBack := by
  by_cases h : 0 ≤ i
  · obtain ⟨n, rfl⟩ := Int.eq_ofNat_of_zero_le h
    obtain ⟨c, s, hcs, hc⟩ := toDigits_cons n
    have htext : (Number.integer n).text.toList = c :: s := by
      rw [text_integer, if_pos h]
      exact hcs
    refine ⟨⟨c, s, htext, .inr hc⟩, fun strays fuel rest hr => ?_⟩
    rw [htext, List.cons_append, readValue_digit strays fuel _ hc, ← List.cons_append, ← hcs,
      readNumber_toDigits false n hr, numberOf_natural (by omega)]
  · obtain ⟨n, hn⟩ := Int.eq_ofNat_of_zero_le (a := -i) (by omega)
    obtain rfl : i = -(n : Int) := by omega
    have htext : (Number.integer (-(n : Int))).text.toList = '-' :: Nat.toDigits 10 n := by
      rw [text_integer, if_neg h, Int.neg_neg, Int.toNat_natCast]
    refine ⟨⟨'-', _, htext, .inl rfl⟩, fun strays fuel rest hr => ?_⟩
    rw [htext, List.cons_append, readValue_minus, readNumber_toDigits true n hr,
      numberOf_negative (by omega) (by omega)]

inductive Value.Readable : Value → Prop
  | null : Readable .null
  | bool (b : Bool) : Readable (.bool b)
  | number {n : Number} (h : n.ReadsBack) : Readable (.number n)
  | string (s : String) : Readable (.string s)
  | array {items : List Value} (h : ∀ v ∈ items, Readable v) : Readable (.array items)
  | object {members : List (String × Value)} (h : ∀ m ∈ members, Readable m.2) :
      Readable (.object members)

theorem ofValue_ne_broken (v : Value) : Reading.ofValue v ≠ .broken := by
  cases v <;> simp [Reading.ofValue]

def itemsText (vs : List Value) : List Char := (",".intercalate (compactItems vs)).toList

def membersText (ms : List (String × Value)) : List Char :=
  (",".intercalate (compactMembers ms)).toList

@[simp] theorem itemsText_singleton (v : Value) : itemsText [v] = v.compact.toList := by
  simp [itemsText, compactItems]

@[simp] theorem itemsText_cons (v w : Value) (vs : List Value) :
    itemsText (v :: w :: vs) = v.compact.toList ++ ',' :: itemsText (w :: vs) := by
  simp [itemsText, compactItems]

@[simp] theorem membersText_singleton (k : String) (v : Value) :
    membersText [(k, v)] = (quote k).toList ++ ':' :: v.compact.toList := by
  simp [membersText, compactMembers]

@[simp] theorem membersText_cons (k : String) (v : Value) (m : String × Value)
    (ms : List (String × Value)) :
    membersText ((k, v) :: m :: ms) =
      (quote k).toList ++ ':' :: (v.compact.toList ++ ',' :: membersText (m :: ms)) := by
  obtain ⟨l, w⟩ := m
  simp [membersText, compactMembers]

@[simp] theorem toList_compact_array (vs : List Value) :
    (Value.array vs).compact.toList = '[' :: (itemsText vs ++ [']']) := by
  simp [Value.compact, itemsText]

@[simp] theorem toList_compact_object (ms : List (String × Value)) :
    (Value.object ms).compact.toList = '\x7b' :: (membersText ms ++ ['\x7d']) := by
  simp [Value.compact, membersText]

/-- No value's text begins with a blank or like the end of an array. -/
theorem Value.Readable.starts {v : Value} (h : v.Readable) :
    ∃ c s, v.compact.toList = c :: s ∧ isSpace c = false ∧ c ≠ ']' := by
  cases h with
  | null => exact ⟨'n', _, rfl, by decide, by decide⟩
  | bool b => cases b <;> exact ⟨_, _, rfl, by decide, by decide⟩
  | number h =>
    obtain ⟨c, s, hcs, hc⟩ := h.starts
    refine ⟨c, s, hcs, ?_, ?_⟩
    · rcases hc with rfl | hc
      · decide
      · exact isSpace_of_isDigit hc
    · rintro rfl
      rcases hc with hc | hc <;> revert hc <;> decide
  | string s => exact ⟨'"', _, toList_quote s, by decide, by decide⟩
  | array h => exact ⟨'[', _, toList_compact_array _, by decide, by decide⟩
  | object h => exact ⟨'\x7b', _, toList_compact_object _, by decide, by decide⟩

theorem endsNumber_separator {c : Char} (rest : List Char) (h : c = ',' ∨ c = ']' ∨ c = '\x7d') :
    EndsNumber (c :: rest) := by
  apply endsNumber_cons
  rcases h with rfl | rfl | rfl <;> decide

theorem readItems_next {strays : Bool} {fuel : Nat} {s rest : List Char} {item : Reading}
    (h : readValue strays fuel s = (item, some (',' :: rest))) (hb : item ≠ .broken) :
    readItems strays (fuel + 1) s =
      (item :: (readItems strays fuel rest).1, (readItems strays fuel rest).2) := by
  rw [readItems, h]
  cases item <;> first | exact absurd rfl hb | rfl

theorem readItems_last {strays : Bool} {fuel : Nat} {s rest : List Char} {item : Reading}
    (h : readValue strays fuel s = (item, some (']' :: rest))) (hb : item ≠ .broken) :
    readItems strays (fuel + 1) s = ([item], some rest) := by
  rw [readItems, h]
  cases item <;> first | exact absurd rfl hb | rfl

theorem readMembers_next {strays : Bool} {fuel : Nat} {k : String} {s rest : List Char}
    {item : Reading} (h : readValue strays fuel s = (item, some (',' :: rest))) :
    readMembers strays (fuel + 1) ((quote k).toList ++ ':' :: s) =
      ((some k, item) :: (readMembers strays fuel rest).1, (readMembers strays fuel rest).2) := by
  have hcolon : isSpace ':' = false := by decide
  rw [toList_quote, readMembers, List.cons_append, List.append_assoc, skipSpace_cons _ (by decide)]
  simp only [List.singleton_append, readString_escaped, skipSpace_cons _ hcolon, h]
  rfl

theorem readMembers_last {strays : Bool} {fuel : Nat} {k : String} {s rest : List Char}
    {item : Reading} (h : readValue strays fuel s = (item, some ('\x7d' :: rest))) :
    readMembers strays (fuel + 1) ((quote k).toList ++ ':' :: s) =
      ([(some k, item)], some rest) := by
  have hcolon : isSpace ':' = false := by decide
  rw [toList_quote, readMembers, List.cons_append, List.append_assoc, skipSpace_cons _ (by decide)]
  simp only [List.singleton_append, readString_escaped, skipSpace_cons _ hcolon, h]
  rfl

theorem starts_itemsText {v : Value} (vs : List Value) (h : v.Readable) :
    ∃ c s, itemsText (v :: vs) = c :: s ∧ isSpace c = false ∧ c ≠ ']' := by
  obtain ⟨c, s, hcs, hc⟩ := h.starts
  cases vs with
  | nil => exact ⟨c, s, by rw [itemsText_singleton, hcs], hc⟩
  | cons w vs => exact ⟨c, _, by rw [itemsText_cons, hcs, List.cons_append], hc⟩

theorem starts_membersText (k : String) (v : Value) (ms : List (String × Value)) :
    ∃ s, membersText ((k, v) :: ms) = '"' :: s := by
  cases ms with
  | nil => exact ⟨_, by rw [membersText_singleton, toList_quote, List.cons_append]⟩
  | cons m ms => exact ⟨_, by rw [membersText_cons, toList_quote, List.cons_append]⟩

theorem readValue_array {strays : Bool} {fuel : Nat} {c : Char} {s rest : List Char}
    {items : List Reading} (hspace : isSpace c = false) (hc : c ≠ ']')
    (h : readItems strays fuel (c :: s) = (items, some rest)) :
    readValue strays (fuel + 1) ('[' :: c :: s) = (.array items true, some rest) := by
  rw [readValue, skipSpace_cons _ (by decide)]
  simp only [skipSpace_cons s hspace]
  split
  · rename_i heq
    exact absurd (List.cons.inj heq).1 hc
  · rw [h]
    rfl

theorem readValue_object {strays : Bool} {fuel : Nat} {s rest : List Char}
    {members : List (Option String × Reading)}
    (h : readMembers strays fuel ('"' :: s) = (members, some rest)) :
    readValue strays (fuel + 1) ('\x7b' :: '"' :: s) = (.object members true, some rest) := by
  rw [readValue, skipSpace_cons _ (by decide)]
  simp only [skipSpace_cons s (show isSpace '"' = false by decide)]
  split
  · rename_i heq
    exact absurd (List.cons.inj heq).1 (by decide)
  · rw [h]
    rfl

theorem readValue_string (strays : Bool) (fuel : Nat) (s : String) (rest : List Char) :
    readValue strays (fuel + 1) ((quote s).toList ++ rest) = (.string s, some rest) := by
  rw [toList_quote, List.cons_append, readValue, skipSpace_cons _ (by decide)]
  simp only [List.append_assoc, List.singleton_append, readString_escaped]

mutual

/-- The text of a value is read as the value's own reading. Twice the length of the text is fuel
enough, as each level takes a bracket and each item a step of its own. -/
theorem readValue_compact (strays : Bool) : ∀ (v : Value) (fuel : Nat) (rest : List Char),
    v.Readable → EndsNumber rest → 2 * v.compact.toList.length ≤ fuel + 1 →
      readValue strays (fuel + 1) (v.compact.toList ++ rest) = (.ofValue v, some rest)
  | .null => by
    intro fuel rest _ _ _
    simp [Value.compact, readValue, skipSpace, isSpace, readWord, Reading.ofValue]
  | .bool b => by
    intro fuel rest _ _ _
    cases b <;> simp [Value.compact, readValue, skipSpace, isSpace, readWord, Reading.ofValue]
  | .number n => by
    intro fuel rest h hr _
    cases h with
    | number h => simpa only [Value.compact, Reading.ofValue] using h.reads strays fuel rest hr
  | .string s => by
    intro fuel rest _ _ _
    simpa only [Value.compact, Reading.ofValue] using readValue_string strays fuel s rest
  | .array [] => by
    intro fuel rest _ _ _
    simp [Value.compact, compactItems, readValue, skipSpace, isSpace, Reading.ofValue,
      readingsOfValues]
  | .array (v :: vs) => by
    intro fuel rest h _ hfuel
    cases h with
    | array h =>
      have hitems := readItems_compact strays (v :: vs) fuel rest (by simp) h (by
        simp only [toList_compact_array, List.length_cons, List.length_append] at hfuel
        omega)
      obtain ⟨c, s, hcs, hspace, hc⟩ := starts_itemsText vs (h v (by simp))
      rw [hcs] at hitems
      rw [toList_compact_array, hcs]
      simp only [List.cons_append, List.append_assoc, List.nil_append] at hitems ⊢
      exact readValue_array hspace hc hitems
  | .object [] => by
    intro fuel rest _ _ _
    simp [Value.compact, compactMembers, readValue, skipSpace, isSpace, Reading.ofValue,
      readingsOfMembers]
  | .object ((k, v) :: ms) => by
    intro fuel rest h _ hfuel
    cases h with
    | object h =>
      have hmembers := readMembers_compact strays ((k, v) :: ms) fuel rest (by simp) h (by
        simp only [toList_compact_object, List.length_cons, List.length_append] at hfuel
        omega)
      obtain ⟨s, hs⟩ := starts_membersText k v ms
      rw [hs] at hmembers
      rw [toList_compact_object, hs]
      simp only [List.cons_append, List.append_assoc, List.nil_append] at hmembers ⊢
      exact readValue_object hmembers

theorem readItems_compact (strays : Bool) : ∀ (vs : List Value) (fuel : Nat) (rest : List Char),
    vs ≠ [] → (∀ v ∈ vs, v.Readable) → 2 * (itemsText vs).length < fuel →
      readItems strays fuel (itemsText vs ++ ']' :: rest) = (readingsOfValues vs, some rest)
  | [] => by
    intro fuel rest hne
    exact absurd rfl hne
  | [v] => by
    intro fuel rest _ h hfuel
    obtain ⟨c, s, hcs, -⟩ := starts_itemsText [] (h v (by simp))
    obtain ⟨fuel, rfl⟩ : ∃ n, fuel = n + 1 + 1 := ⟨fuel - 2, by simp [hcs] at hfuel; omega⟩
    rw [itemsText_singleton] at hfuel ⊢
    have hv := readValue_compact strays v fuel (']' :: rest) (h v (by simp))
      (endsNumber_separator rest (by simp)) (by omega)
    rw [readItems_last hv (ofValue_ne_broken v)]
    rfl
  | v :: w :: vs => by
    intro fuel rest _ h hfuel
    obtain ⟨c, s, hcs, -⟩ := starts_itemsText (w :: vs) (h v (by simp))
    obtain ⟨fuel, rfl⟩ : ∃ n, fuel = n + 1 + 1 := ⟨fuel - 2, by simp [hcs] at hfuel; omega⟩
    rw [itemsText_cons] at hfuel ⊢
    simp only [List.length_append, List.length_cons] at hfuel
    have hv := readValue_compact strays v fuel (',' :: (itemsText (w :: vs) ++ ']' :: rest))
      (h v (by simp)) (endsNumber_separator _ (by simp)) (by omega)
    have hvs := readItems_compact strays (w :: vs) (fuel + 1) rest (by simp)
      (fun u hu => h u (List.mem_cons_of_mem _ hu)) (by omega)
    rw [List.append_assoc, List.cons_append, readItems_next hv (ofValue_ne_broken v), hvs]
    rfl

theorem readMembers_compact (strays : Bool) : ∀ (ms : List (String × Value)) (fuel : Nat)
    (rest : List Char), ms ≠ [] → (∀ m ∈ ms, m.2.Readable) →
      2 * (membersText ms).length < fuel →
        readMembers strays fuel (membersText ms ++ '\x7d' :: rest) =
          (readingsOfMembers ms, some rest)
  | [] => by
    intro fuel rest hne
    exact absurd rfl hne
  | [(k, v)] => by
    intro fuel rest _ h hfuel
    obtain ⟨s, hs⟩ := starts_membersText k v []
    obtain ⟨fuel, rfl⟩ : ∃ n, fuel = n + 1 + 1 := ⟨fuel - 2, by simp [hs] at hfuel; omega⟩
    rw [membersText_singleton] at hfuel ⊢
    simp only [List.length_append, List.length_cons] at hfuel
    have hv := readValue_compact strays v fuel ('\x7d' :: rest) (h (k, v) (by simp))
      (endsNumber_separator rest (by simp)) (by omega)
    rw [List.append_assoc, List.cons_append, readMembers_last hv]
    rfl
  | (k, v) :: m :: ms => by
    intro fuel rest _ h hfuel
    obtain ⟨s, hs⟩ := starts_membersText k v (m :: ms)
    obtain ⟨fuel, rfl⟩ : ∃ n, fuel = n + 1 + 1 := ⟨fuel - 2, by simp [hs] at hfuel; omega⟩
    rw [membersText_cons] at hfuel ⊢
    simp only [List.length_append, List.length_cons] at hfuel
    have hv := readValue_compact strays v fuel (',' :: (membersText (m :: ms) ++ '\x7d' :: rest))
      (h (k, v) (by simp)) (endsNumber_separator _ (by simp)) (by omega)
    have hms := readMembers_compact strays (m :: ms) (fuel + 1) rest (by simp)
      (fun u hu => h u (List.mem_cons_of_mem _ hu)) (by omega)
    rw [List.append_assoc, List.cons_append, List.append_assoc, List.cons_append,
      readMembers_next hv, hms]
    rfl

end

theorem readDocument_compact (strays : Bool) {v : Value} (h : v.Readable) :
    readDocument strays v.compact.toList = ⟨.ofValue v, true⟩ := by
  have hv := readValue_compact strays v (2 * v.compact.toList.length + 1) [] h endsNumber_nil
    (by omega)
  rw [List.append_nil] at hv
  rw [readDocument, hv]
  rfl

theorem decodeText_compact {α : Type} (item : Decoder α) {v : Value} (h : v.Readable) :
    decodeText item v.compact = item maxDepth (.ofValue v) := by
  rw [decodeText, readText, readDocument_compact false h, Decode.document]
  cases item maxDepth (.ofValue v) <;> rfl

end Webprint.Json
