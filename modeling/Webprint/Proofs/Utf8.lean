import Mathlib.Data.List.Basic
import Webprint.SortedMap
import Webprint.Text.Utf8

set_option autoImplicit false

/-!
# Texts and their bytes

The bytes of a text are read as its characters, and texts are ordered like their bytes.
-/

namespace Webprint.Text

theorem byteArray_toList_loop (bs : ByteArray) (i : Nat) (acc : List UInt8) :
    ByteArray.toList.loop bs i acc = acc.reverse ++ bs.data.toList.drop i := by
  fun_induction ByteArray.toList.loop bs i acc with
  | case1 i acc h ih =>
    have hi : i < bs.data.toList.length := by simpa using h
    rw [ih, List.drop_eq_getElem_cons hi]
    simp [ByteArray.get!, h]
  | case2 i acc h =>
    rw [List.drop_eq_nil_of_le (by simpa using Nat.le_of_not_lt h), List.append_nil]

theorem utf8Bytes_eq_flatMap (s : String) :
    utf8Bytes s = s.toList.flatMap String.utf8EncodeChar := by
  have hloop := byteArray_toList_loop (s.toList.flatMap String.utf8EncodeChar).toByteArray 0 []
  rw [List.reverse_nil, List.nil_append, List.drop_zero, List.toList_data_toByteArray] at hloop
  rw [utf8Bytes, String.toUTF8, ← String.utf8Encode_toList]
  exact hloop

/-! ## One character -/

theorem char_range (c : Char) : c.toNat < 0xd800 ∨ 0xdfff < c.toNat ∧ c.toNat < 0x110000 := c.valid

@[simp] theorem toNat_ofNat_byte {n : Nat} (h : n < 256) : (UInt8.ofNat n).toNat = n := by
  rw [UInt8.toNat_ofNat']
  omega

theorem decodeUtf8From_ascii {n : Nat} (h : n < 0x80) (rest : List UInt8) :
    decodeUtf8From none (UInt8.ofNat n :: rest) = some (Char.ofNat n) :: decodeUtf8From none rest := by
  rw [decodeUtf8From, leadByte, toNat_ofNat_byte (by omega)]
  simp [h]

theorem decodeUtf8From_two {n : Nat} (hlo : 2 ≤ n) (hhi : n < 32) (rest : List UInt8) :
    decodeUtf8From none (UInt8.ofNat (n + 192) :: rest) =
      decodeUtf8From (some ⟨1, 0x80, 0xbf, n⟩) rest := by
  have h1 : ¬ n + 192 < 0x80 := by omega
  have h2 : ¬ (n + 192 < 0xc2 ∨ 0xf4 < n + 192) := by omega
  have h3 : n + 192 < 0xe0 := by omega
  rw [decodeUtf8From, leadByte, toNat_ofNat_byte (by omega)]
  simp [h1, h2, h3]

theorem decodeUtf8From_three {n : Nat} (h : n < 16) (rest : List UInt8) :
    decodeUtf8From none (UInt8.ofNat (n + 224) :: rest) =
      decodeUtf8From (some ⟨2, if n = 0 then 0xa0 else 0x80, if n = 13 then 0x9f else 0xbf, n⟩)
        rest := by
  have h1 : ¬ n + 224 < 0x80 := by omega
  have h2 : ¬ (n + 224 < 0xc2 ∨ 0xf4 < n + 224) := by omega
  have h3 : ¬ n + 224 < 0xe0 := by omega
  have h4 : n + 224 < 0xf0 := by omega
  rw [decodeUtf8From, leadByte, toNat_ofNat_byte (by omega)]
  simp [h1, h2, h3, h4]

theorem decodeUtf8From_four {n : Nat} (h : n < 5) (rest : List UInt8) :
    decodeUtf8From none (UInt8.ofNat (n + 240) :: rest) =
      decodeUtf8From (some ⟨3, if n = 0 then 0x90 else 0x80, if n = 4 then 0x8f else 0xbf, n⟩)
        rest := by
  have h1 : ¬ n + 240 < 0x80 := by omega
  have h2 : ¬ (n + 240 < 0xc2 ∨ 0xf4 < n + 240) := by omega
  have h3 : ¬ n + 240 < 0xe0 := by omega
  have h4 : ¬ n + 240 < 0xf0 := by omega
  rw [decodeUtf8From, leadByte, toNat_ofNat_byte (by omega)]
  simp [h1, h2, h3, h4]

theorem decodeUtf8From_next {u : Unfinished} {n : Nat} (hn : n < 64) (hlo : u.lo ≤ n + 128)
    (hhi : n + 128 ≤ u.hi) (hmissing : 1 < u.missing) (rest : List UInt8) :
    decodeUtf8From (some u) (UInt8.ofNat (n + 128) :: rest) =
      decodeUtf8From (some ⟨u.missing - 1, 0x80, 0xbf, u.bits * 64 + n⟩) rest := by
  rw [decodeUtf8From, toNat_ofNat_byte (by omega), if_pos (by simp [hlo, hhi]),
    if_neg (by omega), Nat.add_sub_cancel]

theorem decodeUtf8From_last {u : Unfinished} {n : Nat} (hn : n < 64) (hlo : u.lo ≤ n + 128)
    (hhi : n + 128 ≤ u.hi) (hmissing : u.missing = 1) (rest : List UInt8) :
    decodeUtf8From (some u) (UInt8.ofNat (n + 128) :: rest) =
      some (Char.ofNat (u.bits * 64 + n)) :: decodeUtf8From none rest := by
  rw [decodeUtf8From, toNat_ofNat_byte (by omega), if_pos (by simp [hlo, hhi]),
    if_pos (by omega), Nat.add_sub_cancel]

def encodeCode (v : Nat) : List UInt8 :=
  if v ≤ 127 then [UInt8.ofNat v]
  else if v ≤ 2047 then [UInt8.ofNat (v / 64 % 32 + 192), UInt8.ofNat (v % 64 + 128)]
  else if v ≤ 65535 then
    [UInt8.ofNat (v / 4096 % 16 + 224), UInt8.ofNat (v / 64 % 64 + 128),
      UInt8.ofNat (v % 64 + 128)]
  else
    [UInt8.ofNat (v / 262144 % 8 + 240), UInt8.ofNat (v / 4096 % 64 + 128),
      UInt8.ofNat (v / 64 % 64 + 128), UInt8.ofNat (v % 64 + 128)]

theorem utf8EncodeChar_eq (c : Char) : String.utf8EncodeChar c = encodeCode c.toNat := rfl

/-- What is said of the first 128 characters can be checked one by one. -/
theorem of_ascii {P : Char → Prop} (h : ∀ n < 0x80, P (Char.ofNat n)) {c : Char}
    (hc : c.toNat < 0x80) : P c := by
  have hat := h c.toNat hc
  rwa [Char.ofNat_toNat] at hat

theorem utf8EncodeChar_of_ascii {c : Char} (h : c.toNat < 0x80) :
    String.utf8EncodeChar c = [UInt8.ofNat c.toNat] := by
  rw [utf8EncodeChar_eq, encodeCode, if_pos (by omega)]

theorem decodeUtf8From_encodeCode {v : Nat} (h : v < 0xd800 ∨ 0xdfff < v ∧ v < 0x110000)
    (rest : List UInt8) :
    decodeUtf8From none (encodeCode v ++ rest) = some (Char.ofNat v) :: decodeUtf8From none rest := by
  unfold encodeCode
  by_cases h1 : v ≤ 127
  · rw [if_pos h1]
    exact decodeUtf8From_ascii (by omega) rest
  rw [if_neg h1]
  by_cases h2 : v ≤ 2047
  · have hbits : v / 64 % 32 * 64 + v % 64 = v := by omega
    rw [if_pos h2, List.cons_append, List.cons_append, List.nil_append,
      decodeUtf8From_two (by omega) (by omega),
      decodeUtf8From_last (by omega) (by simp) (by simp; omega) rfl, hbits]
  rw [if_neg h2]
  by_cases h3 : v ≤ 65535
  · have hbits : (v / 4096 % 16 * 64 + v / 64 % 64) * 64 + v % 64 = v := by omega
    rw [if_pos h3, List.cons_append, List.cons_append, List.cons_append, List.nil_append,
      decodeUtf8From_three (by omega),
      decodeUtf8From_next (by omega) (by simp only; split <;> omega)
        (by simp only; split <;> omega) (by simp),
      decodeUtf8From_last (by omega) (by simp) (by simp; omega) rfl, hbits]
  · have hbits : ((v / 262144 % 8 * 64 + v / 4096 % 64) * 64 + v / 64 % 64) * 64 + v % 64 = v := by
      omega
    rw [if_neg h3, List.cons_append, List.cons_append, List.cons_append, List.cons_append,
      List.nil_append, decodeUtf8From_four (by omega),
      decodeUtf8From_next (by omega) (by simp only; split <;> omega)
        (by simp only; split <;> omega) (by simp),
      decodeUtf8From_next (by omega) (by simp) (by simp; omega) (by simp),
      decodeUtf8From_last (by omega) (by simp) (by simp; omega) rfl, hbits]

theorem decodeUtf8_utf8Bytes (s : String) : decodeUtf8 (utf8Bytes s) = s.toList.map some := by
  rw [utf8Bytes_eq_flatMap, decodeUtf8]
  induction s.toList with
  | nil => rfl
  | cons c cs ih =>
    rw [List.flatMap_cons, utf8EncodeChar_eq, decodeUtf8From_encodeCode (char_range c), ih,
      Char.ofNat_toNat, List.map_cons]

/-! ## The order of texts -/

theorem bytes_lt {m n : Nat} (hn : n < 256) (h : m < n) (xs ys : List UInt8) :
    UInt8.ofNat m :: xs < UInt8.ofNat n :: ys := by
  refine List.cons_lt_cons_iff.2 (.inl ?_)
  rw [UInt8.lt_iff_toNat_lt, toNat_ofNat_byte (by omega), toNat_ofNat_byte hn]
  exact h

theorem bytes_lt_of_le {m n : Nat} {xs ys : List UInt8} (hn : n < 256) (hle : m ≤ n)
    (h : m = n → xs < ys) : UInt8.ofNat m :: xs < UInt8.ofNat n :: ys := by
  rcases Nat.lt_or_eq_of_le hle with hlt | heq
  · exact bytes_lt hn hlt xs ys
  · exact List.cons_lt_cons_iff.2 (.inr ⟨by rw [heq], h heq⟩)

theorem twoBytes_lt {v w : Nat} (h : v < w) (hw : w ≤ 2047) (xs ys : List UInt8) :
    UInt8.ofNat (v / 64 % 32 + 192) :: UInt8.ofNat (v % 64 + 128) :: xs <
      UInt8.ofNat (w / 64 % 32 + 192) :: UInt8.ofNat (w % 64 + 128) :: ys := by
  refine bytes_lt_of_le (by omega) (by omega) fun hlead => ?_
  -- the lead bytes agree, so the last six bits decide
  exact bytes_lt (by omega) (by omega) xs ys

theorem threeBytes_lt {v w : Nat} (h : v < w) (hw : w ≤ 65535) (xs ys : List UInt8) :
    UInt8.ofNat (v / 4096 % 16 + 224) :: UInt8.ofNat (v / 64 % 64 + 128) ::
        UInt8.ofNat (v % 64 + 128) :: xs <
      UInt8.ofNat (w / 4096 % 16 + 224) :: UInt8.ofNat (w / 64 % 64 + 128) ::
        UInt8.ofNat (w % 64 + 128) :: ys := by
  refine bytes_lt_of_le (by omega) (by omega) fun hlead => ?_
  refine bytes_lt_of_le (by omega) (by omega) fun hsecond => ?_
  exact bytes_lt (by omega) (by omega) xs ys

theorem fourBytes_lt {v w : Nat} (h : v < w) (hw : w < 0x110000) (xs ys : List UInt8) :
    UInt8.ofNat (v / 262144 % 8 + 240) :: UInt8.ofNat (v / 4096 % 64 + 128) ::
        UInt8.ofNat (v / 64 % 64 + 128) :: UInt8.ofNat (v % 64 + 128) :: xs <
      UInt8.ofNat (w / 262144 % 8 + 240) :: UInt8.ofNat (w / 4096 % 64 + 128) ::
        UInt8.ofNat (w / 64 % 64 + 128) :: UInt8.ofNat (w % 64 + 128) :: ys := by
  refine bytes_lt_of_le (by omega) (by omega) fun hlead => ?_
  refine bytes_lt_of_le (by omega) (by omega) fun hsecond => ?_
  refine bytes_lt_of_le (by omega) (by omega) fun hthird => ?_
  exact bytes_lt (by omega) (by omega) xs ys

theorem encodeCode_lt {v w : Nat} (h : v < w) (hw : w < 0x110000) (xs ys : List UInt8) :
    encodeCode v ++ xs < encodeCode w ++ ys := by
  unfold encodeCode
  -- between lengths the lead bytes decide; within one length the bytes are the code's digits
  by_cases hv1 : v ≤ 127
  · rw [if_pos hv1]
    split
    · exact bytes_lt (by omega) h _ _
    · split
      · exact bytes_lt (by omega) (by omega) _ _
      · split <;> exact bytes_lt (by omega) (by omega) _ _
  rw [if_neg hv1, if_neg (by omega : ¬ w ≤ 127)]
  by_cases hv2 : v ≤ 2047
  · rw [if_pos hv2]
    split
    · exact twoBytes_lt h (by omega) xs ys
    · split <;> exact bytes_lt (by omega) (by omega) _ _
  rw [if_neg hv2, if_neg (by omega : ¬ w ≤ 2047)]
  by_cases hv3 : v ≤ 65535
  · rw [if_pos hv3]
    split
    · exact threeBytes_lt h (by omega) xs ys
    · exact bytes_lt (by omega) (by omega) _ _
  rw [if_neg hv3, if_neg (by omega : ¬ w ≤ 65535)]
  exact fourBytes_lt h hw xs ys

theorem encodeCode_ne_nil (v : Nat) : encodeCode v ≠ [] := by
  unfold encodeCode
  split
  · simp
  · split
    · simp
    · split <;> simp

theorem high_of_mem {c : Char} (h : 0x80 ≤ c.toNat) {b : UInt8} (hb : b ∈ String.utf8EncodeChar c) :
    0x80 ≤ b.toNat := by
  obtain ⟨n, hn, hrange⟩ : ∃ n, b = UInt8.ofNat n ∧ 0x80 ≤ n ∧ n < 0x100 := by
    rw [utf8EncodeChar_eq, encodeCode, if_neg (by omega)] at hb
    split_ifs at hb <;> simp only [List.mem_cons, List.not_mem_nil, or_false] at hb
    · rcases hb with rfl | rfl <;> exact ⟨_, rfl, by omega⟩
    · rcases hb with rfl | rfl | rfl <;> exact ⟨_, rfl, by omega⟩
    · rcases hb with rfl | rfl | rfl | rfl <;> exact ⟨_, rfl, by omega⟩
  rw [hn, toNat_ofNat_byte hrange.2]
  exact hrange.1

theorem exists_high_byte {c : Char} (h : 0x80 ≤ c.toNat) :
    ∃ b ∈ String.utf8EncodeChar c, 0x80 ≤ b.toNat := by
  have hne : String.utf8EncodeChar c ≠ [] := encodeCode_ne_nil c.toNat
  exact ⟨_, List.head_mem hne, high_of_mem h (List.head_mem hne)⟩

theorem flatMap_encode_lt {cs ds : List Char} (h : cs < ds) :
    cs.flatMap String.utf8EncodeChar < ds.flatMap String.utf8EncodeChar := by
  induction h with
  | @nil d ds =>
    obtain ⟨b, bs, hb⟩ := List.exists_cons_of_ne_nil (encodeCode_ne_nil d.toNat)
    rw [List.flatMap_nil, List.flatMap_cons, utf8EncodeChar_eq, hb]
    exact List.nil_lt_cons b _
  | @rel c cs d ds hcd =>
    have hd : d.toNat < 0x110000 := by
      have hrange := char_range d
      omega
    rw [List.flatMap_cons, List.flatMap_cons, utf8EncodeChar_eq, utf8EncodeChar_eq]
    exact encodeCode_lt hcd hd _ _
  | @cons c cs ds _ ih =>
    rw [List.flatMap_cons, List.flatMap_cons]
    exact List.append_left_lt ih

theorem utf8Bytes_lt {s t : String} (h : s < t) : utf8Bytes s < utf8Bytes t := by
  rw [utf8Bytes_eq_flatMap, utf8Bytes_eq_flatMap]
  exact flatMap_encode_lt h

theorem utf8Bytes_lt_iff {s t : String} : utf8Bytes s < utf8Bytes t ↔ s < t := by
  refine ⟨fun h => ?_, utf8Bytes_lt⟩
  rcases KeyOrder.trichotomy s t with hst | rfl | hts
  · exact hst
  · exact absurd h (List.lt_irrefl _)
  · exact absurd (utf8Bytes_lt hts) (List.lt_asymm h)

end Webprint.Text
