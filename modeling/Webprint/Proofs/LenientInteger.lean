import Webprint.Pattern.Text
import Webprint.Proofs.Blanks
import Webprint.Proofs.Confidence
import Webprint.Proofs.JsonText
import Webprint.Proofs.Utf8

set_option autoImplicit false

/-!
# Integers at the start of a text

An integer is read byte by byte, and its size is kept in range with every digit. Neither shows: the
bytes at which the text is parted begin characters, and the size is the exact one, limited once.
-/

namespace Webprint

namespace Text

/-! ## Bytes at the start of a text -/

@[simp] theorem bytes_cons (c : Char) (s : List Char) :
    bytes (c :: s) = String.utf8EncodeChar c ++ bytes s :=
  List.flatMap_cons

@[simp] theorem bytes_append (s t : List Char) : bytes (s ++ t) = bytes s ++ bytes t :=
  List.flatMap_append

theorem bytes_cons_of_ascii {c : Char} (h : c.toNat < 0x80) (s : List Char) :
    bytes (c :: s) = UInt8.ofNat c.toNat :: bytes s := by
  rw [bytes_cons, utf8EncodeChar_of_ascii h]
  rfl

/-- The first byte of a character has its value, or both are beyond the first 128. -/
theorem exists_first_byte (c : Char) (s : List Char) :
    ∃ b bs, bytes (c :: s) = b :: bs ∧
      (b.toNat = c.toNat ∨ 0x80 ≤ b.toNat ∧ 0x80 ≤ c.toNat) := by
  by_cases hc : c.toNat < 0x80
  · exact ⟨_, _, bytes_cons_of_ascii hc s, .inl (toNat_ofNat_byte (by omega))⟩
  · obtain ⟨b, bs, hbytes⟩ := List.exists_cons_of_ne_nil (encodeCode_ne_nil c.toNat)
    have hb : 0x80 ≤ b.toNat := by
      refine high_of_mem (Nat.le_of_not_lt hc) ?_
      rw [utf8EncodeChar_eq, hbytes]
      exact List.mem_cons_self ..
    refine ⟨b, bs ++ bytes s, ?_, .inr ⟨hb, Nat.le_of_not_lt hc⟩⟩
    rw [bytes_cons, utf8EncodeChar_eq, hbytes, List.cons_append]

theorem head?_bytes_eq_iff {d : Char} (hd : d.toNat < 0x80) (s : List Char) :
    (bytes s).head? = some (UInt8.ofNat d.toNat) ↔ s.head? = some d := by
  cases s with
  | nil => simp [bytes]
  | cons c s =>
    obtain ⟨b, bs, hbytes, hb⟩ := exists_first_byte c s
    have hbyte : (UInt8.ofNat d.toNat).toNat = d.toNat := toNat_ofNat_byte (by omega)
    rw [hbytes, List.head?_cons, List.head?_cons, Option.some_inj, Option.some_inj,
      ← UInt8.toNat_inj, hbyte, ← Char.toNat_inj]
    omega

theorem partAtByte?_cons {n : Nat} {c : Char} (h : c.utf8Size ≤ n) (s : List Char) :
    partAtByte? n (c :: s) =
      (partAtByte? (n - c.utf8Size) s).map fun (before, rest) => (c :: before, rest) := by
  cases n with
  | zero => exact absurd h (Nat.not_le_of_lt c.utf8Size_pos)
  | succ n => rw [partAtByte?, if_pos h]

/-- A text may be parted where a character begins. -/
theorem partAtByte?_length (s t : List Char) :
    partAtByte? (bytes s).length (s ++ t) = some (s, t) := by
  induction s with
  | nil => simp [bytes, partAtByte?]
  | cons c s ih =>
    have hlength : (bytes (c :: s)).length = c.utf8Size + (bytes s).length := by
      rw [bytes_cons, List.length_append, String.length_utf8EncodeChar]
    rw [hlength, List.cons_append, partAtByte?_cons (Nat.le_add_right ..), Nat.add_sub_cancel_left,
      ih]
    rfl

theorem digit_range {c : Char} : c.isDigit = true ↔ 48 ≤ c.toNat ∧ c.toNat ≤ 57 := by
  simp [Char.isDigit, UInt32.le_iff_toNat_le]

theorem not_isBlank_of_isDigit {c : Char} (h : c.isDigit) : isBlank c = false := by
  have hc := digit_range.1 h
  rw [Bool.eq_false_iff]
  intro hblank
  simp only [isBlank, Bool.or_eq_true, Bool.and_eq_true, decide_eq_true_eq, beq_iff_eq] at hblank
  omega

theorem trimStart_cons {c : Char} (h : isBlank c = false) (s : List Char) :
    trimStart (c :: s) = c :: s := by
  rw [trimStart, List.dropWhile_cons, h]
  rfl

end Text

namespace Pattern

/-! ## The parts of an integer -/

def isSign (c : Char) : Bool := c == '-' || c == '+'

def isNegative (s : List Char) : Bool := (Text.trimStart s).head? == some '-'

def unsigned (s : List Char) : List Char :=
  let t := Text.trimStart s
  if t.head?.any isSign then t.tail else t

/-- The longest run of digits that stands there. -/
def leadingDigits (s : List Char) : List Char := (unsigned s).takeWhile Char.isDigit

/-- The exact value of digits, limited to the greatest confidence. -/
def limitedSize (ds : List Char) : Int := min (Nat.ofDigitChars 10 ds 0 : Nat) Confidence.greatest

def limitedInteger (s : List Char) : Int :=
  if isNegative s then -limitedSize (leadingDigits s) else limitedSize (leadingDigits s)

theorem digitByte_range {b : UInt8} : isDigitByte b = true ↔ 48 ≤ b.toNat ∧ b.toNat ≤ 57 := by
  simp [isDigitByte, UInt8.le_iff_toNat_le]

theorem readSign?_eq (s : List Char) :
    readSign? (Text.trimStart s) = some (isNegative s, unsigned s) := by
  have hminus := Text.head?_bytes_eq_iff (d := '-') (by decide) (Text.trimStart s)
  have hplus := Text.head?_bytes_eq_iff (d := '+') (by decide) (Text.trimStart s)
  change _ = some 0x2d ↔ _ at hminus
  change _ = some 0x2b ↔ _ at hplus
  simp only [readSign?, hminus, hplus, isNegative, unsigned]
  cases Text.trimStart s with
  | nil => rfl
  | cons c t =>
    by_cases hc : isSign c = true
    · have hsign : c = '-' ∨ c = '+' := by simpa [isSign] using hc
      have hone : (Text.bytes [c]).length = 1 := by
        rcases hsign with rfl | rfl <;> decide
      have hparted := Text.partAtByte?_length [c] t
      rw [hone, List.singleton_append] at hparted
      rcases hsign with rfl | rfl <;> simp [hparted, isSign]
    · have hsign : ¬(c = '-' ∨ c = '+') := by simpa [isSign] using hc
      rw [not_or] at hsign
      simp [hsign.1, hsign.2, isSign]

theorem isDigitByte_of_mem {ds : List Char} (h : ∀ c ∈ ds, c.isDigit = true) {b : UInt8}
    (hb : b ∈ Text.bytes ds) : isDigitByte b = true := by
  obtain ⟨c, hc, hb⟩ := List.mem_flatMap.1 hb
  have hrange := Text.digit_range.1 (h c hc)
  rw [Text.utf8EncodeChar_of_ascii (by omega), List.mem_singleton] at hb
  rw [hb, digitByte_range, Text.toNat_ofNat_byte (by omega)]
  exact hrange

theorem findIdx_rest {rest : List Char} (h : ∀ c ∈ rest.head?, c.isDigit = false) :
    (Text.bytes rest).findIdx (fun b => !isDigitByte b) = 0 := by
  cases rest with
  | nil => rfl
  | cons c rest =>
    obtain ⟨b, bs, hbytes, hb⟩ := Text.exists_first_byte c rest
    have hstop : isDigitByte b = false := by
      have hc : ¬ c.isDigit = true := by simp [h c rfl]
      rw [Text.digit_range] at hc
      rw [Bool.eq_false_iff, ne_eq, digitByte_range]
      omega
    rw [hbytes, List.findIdx_cons, hstop]
    rfl

theorem readDigits?_append {ds rest : List Char} (hds : ∀ c ∈ ds, c.isDigit = true)
    (hrest : ∀ c ∈ rest.head?, c.isDigit = false) : readDigits? (ds ++ rest) = some ds := by
  have hnone : (Text.bytes ds).findIdx (fun b => !isDigitByte b) = (Text.bytes ds).length := by
    refine List.findIdx_eq_length_of_false fun b hb => ?_
    rw [isDigitByte_of_mem hds hb]
    rfl
  have hend : (Text.bytes (ds ++ rest)).findIdx (fun b => !isDigitByte b) =
      (Text.bytes ds).length := by
    rw [Text.bytes_append, List.findIdx_append, hnone, if_neg (Nat.lt_irrefl _), findIdx_rest hrest,
      Nat.zero_add]
  rw [readDigits?, hend, Text.partAtByte?_length]
  rfl

theorem readDigits?_eq (s : List Char) : readDigits? s = some (s.takeWhile Char.isDigit) := by
  have hs := List.takeWhile_append_dropWhile (p := Char.isDigit) (l := s)
  conv_lhs => rw [← hs]
  refine readDigits?_append (fun c hc => List.mem_takeWhile_imp hc) fun c hc => ?_
  have hhead := List.head?_dropWhile_not Char.isDigit s
  rw [hc] at hhead
  simpa using hhead

/-! ## Sizes -/

/-- Limiting the size with every digit comes to limiting it once. -/
theorem foldlM_appendDigit? {ds : List Char} (hds : ∀ c ∈ ds, c.isDigit = true) {c : Confidence}
    {n : Nat} (hc : c.value = min (n : Int) Confidence.greatest) :
    ∃ d, (Text.bytes ds).foldlM appendDigit? c = some d ∧
      d.value = min (Nat.ofDigitChars 10 ds n : Int) Confidence.greatest := by
  induction ds generalizing c n with
  | nil => exact ⟨c, rfl, hc⟩
  | cons x ds ih =>
    have hx := Text.digit_range.1 (hds x (by simp))
    have hbyte : (UInt8.ofNat x.toNat).toNat = x.toNat := Text.toNat_ofNat_byte (by omega)
    have hlow : ¬ UInt8.ofNat x.toNat < 0x30 := by
      rw [UInt8.lt_iff_toNat_lt, hbyte]
      exact Nat.not_lt.2 hx.1
    have hvalue : (c * .clamp 10 + .clamp ((x.toNat - 0x30 : Nat) : Int)).value =
        min ((10 * n + (x.toNat - 48) : Nat) : Int) Confidence.greatest := by
      have hten : Confidence.saturate 10 = 10 := by decide
      simp only [Confidence.value_add, Confidence.value_mul, Confidence.value_clamp, hc, hten]
      unfold Confidence.saturate Confidence.least Confidence.greatest
      omega
    obtain ⟨d, hd, hvalue⟩ := ih (fun y hy => hds y (by simp [hy])) hvalue
    refine ⟨d, ?_, ?_⟩
    · rw [Text.bytes_cons_of_ascii (by omega), List.foldlM_cons, appendDigit?, if_neg hlow, hbyte]
      exact hd
    · rw [hvalue, Nat.ofDigitChars_cons]
      rfl

theorem opposite?_of_nonneg {c : Confidence} (h : 0 ≤ c.value) :
    ∃ d, c.opposite? = some d ∧ d.value = -c.value := by
  have hne : c.value ≠ Confidence.least := by
    unfold Confidence.least
    omega
  exact ⟨_, dif_neg hne, rfl⟩

theorem lenientInteger?_eq (s : List Char) :
    ∃ c, lenientInteger? s = some c ∧ c.value = limitedInteger s := by
  have hds : ∀ c ∈ leadingDigits s, c.isDigit = true := fun c hc => List.mem_takeWhile_imp hc
  obtain ⟨d, hd, hvalue⟩ := foldlM_appendDigit? hds (c := .zero) (n := 0) (by decide)
  change d.value = limitedSize (leadingDigits s) at hvalue
  have hsize : lenientInteger? s = if isNegative s then d.opposite? else some d := by
    rw [lenientInteger?, readSign?_eq]
    simp only [Option.bind_eq_bind, Option.bind_some, readDigits?_eq]
    change ((Text.bytes (leadingDigits s)).foldlM appendDigit? .zero).bind _ = _
    rw [hd]
    rfl
  rw [hsize, limitedInteger, ← hvalue]
  split_ifs
  · refine opposite?_of_nonneg ?_
    rw [hvalue, limitedSize]
    unfold Confidence.greatest
    omega
  · exact ⟨d, rfl, rfl⟩

/-! ## Written integers -/

theorem limitedInteger_digit {d : Char} (hd : d.isDigit = true) (s : List Char) :
    limitedInteger (d :: s) = limitedSize ((d :: s).takeWhile Char.isDigit) := by
  have hsign : isSign d = false := by
    rw [Bool.eq_false_iff]
    intro hsign
    obtain rfl | rfl : d = '-' ∨ d = '+' := by simpa [isSign] using hsign
    · exact absurd hd (by decide)
    · exact absurd hd (by decide)
  have hne : d ≠ '-' := by
    rintro rfl
    exact absurd hd (by decide)
  have htrim := Text.trimStart_cons (Text.not_isBlank_of_isDigit hd) s
  simp [limitedInteger, leadingDigits, unsigned, isNegative, htrim, hsign, hne]

theorem limitedInteger_minus (s : List Char) :
    limitedInteger ('-' :: s) = -limitedSize (s.takeWhile Char.isDigit) := by
  have htrim := Text.trimStart_cons (c := '-') (by decide) s
  simp [limitedInteger, leadingDigits, unsigned, isNegative, htrim, isSign]

theorem limitedInteger_toString {n : Int} (hn : (n.natAbs : Int) ≤ Confidence.greatest)
    {rest : List Char} (h : ∀ c ∈ rest.head?, c.isDigit = false) :
    limitedInteger ((toString n).toList ++ rest) = n := by
  have hrun (m : Nat) : (Nat.toDigits 10 m ++ rest).takeWhile Char.isDigit = Nat.toDigits 10 m :=
    (Json.takeWhile_isDigit (fun _ => Json.isDigit_toDigits) h).1
  have htext : toString n = n.repr := rfl
  rw [htext, Int.repr_eq_if]
  by_cases hsign : 0 ≤ n
  · obtain ⟨d, ds, hds, hd⟩ := Json.toDigits_cons n.toNat
    have hdigits := hrun n.toNat
    rw [hds, List.cons_append] at hdigits
    rw [if_pos hsign, Nat.toList_repr, hds, List.cons_append, limitedInteger_digit hd, hdigits, ← hds,
      limitedSize, Nat.ofDigitChars_ten_toDigits]
    omega
  · rw [if_neg hsign, String.toList_append, Nat.toList_repr]
    change limitedInteger ('-' :: (Nat.toDigits 10 (-n).toNat ++ rest)) = n
    rw [limitedInteger_minus, hrun, limitedSize, Nat.ofDigitChars_ten_toDigits]
    omega

theorem lenientInteger_of_some {s : List Char} {c : Confidence} (h : lenientInteger? s = some c) :
    lenientInteger s = c := by
  rw [lenientInteger, h, Option.getD_some]

theorem lenientInteger_toString {c : Confidence} (h : Confidence.least < c.value) :
    lenientInteger (toString c).toList = c := by
  have hsize : (c.value.natAbs : Int) ≤ Confidence.greatest := by
    have hupper := c.upper
    unfold Confidence.least Confidence.greatest at *
    omega
  obtain ⟨d, hd, hvalue⟩ := lenientInteger?_eq (toString c).toList
  have hexact : limitedInteger ((toString c.value).toList ++ []) = c.value :=
    limitedInteger_toString hsize (by simp)
  rw [List.append_nil] at hexact
  rw [lenientInteger_of_some hd]
  exact Confidence.ext (hvalue.trans hexact)

/-- Every text has an integer at its start: behind the blanks and at most one sign stands the longest
run of digits, and the integer is the exact value of that run under the sign, with its size limited to
the greatest confidence. On the way no text is parted inside a character and nothing leaves its range.
So the decimal form of every integer whose size is in range is read back, whatever follows that is no
digit. -/
theorem lenientInteger_limited (s : List Char) :
    (∃ c, lenientInteger? s = some c ∧ lenientInteger s = c ∧ c.value = limitedInteger s) ∧
      ∀ (n : Int) (rest : List Char), (n.natAbs : Int) ≤ Confidence.greatest →
        (∀ c ∈ rest.head?, c.isDigit = false) →
        ∃ c, lenientInteger? ((toString n).toList ++ rest) = some c ∧ c.value = n := by
  obtain ⟨c, hc, hvalue⟩ := lenientInteger?_eq s
  refine ⟨⟨c, hc, lenientInteger_of_some hc, hvalue⟩, fun n rest hn hrest => ?_⟩
  obtain ⟨d, hd, hvalue⟩ := lenientInteger?_eq ((toString n).toList ++ rest)
  exact ⟨d, hd, hvalue.trans (limitedInteger_toString hn hrest)⟩

/-- The last integer whose size is in range, before a character of two bytes, and one beyond it. -/
theorem lenientInteger_limited_ends :
    (∃ c, lenientInteger? ((toString (-9223372036854775807)).toList ++ ['é']) = some c ∧
        c.value = -9223372036854775807) ∧
      ∃ c, lenientInteger? " +9223372036854775808x".toList = some c ∧
        c.value = 9223372036854775807 := by
  have hletter : ∀ c ∈ ['é'].head?, c.isDigit = false := by
    intro c hc
    cases hc
    decide
  refine ⟨(lenientInteger_limited []).2 _ _ (by decide) hletter, ?_⟩
  obtain ⟨⟨c, hc, -, hvalue⟩, -⟩ := lenientInteger_limited " +9223372036854775808x".toList
  exact ⟨c, hc, hvalue.trans (by decide +kernel)⟩

end Pattern

end Webprint
