import Mathlib.Data.List.DropRight
import Webprint.Proofs.Utf8

set_option autoImplicit false

/-!
# Lines of mended texts

Bytes below `0x80` stand for themselves wherever they are, even in a broken run, and no other bytes
make up such a character. So a text may be parted into lines before or after it is mended.
-/

namespace Webprint.Text

/-! ## One byte -/

def decodeByte : Option Unfinished → UInt8 → List (Option Char) × Option Unfinished
  | none, b => leadByte b
  | some u, b =>
    if u.lo ≤ b.toNat && b.toNat ≤ u.hi then
      let bits := u.bits * 64 + (b.toNat - 0x80)
      if u.missing ≤ 1 then ([some (Char.ofNat bits)], none)
      else ([], some ⟨u.missing - 1, 0x80, 0xbf, bits⟩)
    else (none :: (leadByte b).1, (leadByte b).2)

theorem decodeUtf8From_cons (o : Option Unfinished) (b : UInt8) (rest : List UInt8) :
    decodeUtf8From o (b :: rest) =
      (decodeByte o b).1 ++ decodeUtf8From (decodeByte o b).2 rest := by
  cases o with
  | none => rfl
  | some u =>
    simp only [decodeUtf8From, decodeByte]
    split_ifs <;> rfl

/-- The next byte is none that stands for itself, and the character will not be one of those. -/
structure Unfinished.Sound (u : Unfinished) : Prop where
  le_lo : 0x80 ≤ u.lo
  two_le : 2 ≤ u.bits * 64 + (u.lo - 0x80)
  two_le_last : u.missing ≤ 1 → 2 ≤ u.bits

theorem leadByte_sound (b : UInt8) : ∀ u ∈ (leadByte b).2, u.Sound := by
  intro u hu
  simp only [leadByte, Bool.or_eq_true, decide_eq_true_eq] at hu
  split_ifs at hu
  · cases hu
  · cases hu
  all_goals
    obtain rfl := Option.some.inj hu
    constructor <;> simp only <;> omega

theorem decodeByte_sound {o : Option Unfinished} (ho : ∀ u ∈ o, u.Sound) (b : UInt8) :
    ∀ u ∈ (decodeByte o b).2, u.Sound := by
  cases o with
  | none => exact leadByte_sound b
  | some u =>
    have hu := ho u rfl
    have htwo := hu.two_le
    simp only [decodeByte, Bool.and_eq_true, decide_eq_true_eq]
    split_ifs with hrange hlast
    · simp
    · intro v hv
      obtain rfl := Option.some.inj hv
      exact ⟨by simp, by simp only; omega, fun _ => by simp only; omega⟩
    · exact leadByte_sound b

theorem decodeByte_ascii {b : UInt8} (hb : b.toNat < 0x80) {o : Option Unfinished}
    (ho : ∀ u ∈ o, u.Sound) :
    decodeByte o b = (decodeUtf8From o [] ++ [some (Char.ofNat b.toNat)], none) := by
  have hlead : leadByte b = ([some (Char.ofNat b.toNat)], none) := by
    rw [leadByte, if_pos hb]
  cases o with
  | none => exact hlead
  | some u =>
    have hlo := (ho u rfl).le_lo
    have hrange : ¬ (u.lo ≤ b.toNat && b.toNat ≤ u.hi) = true := by
      rw [Bool.and_eq_true, decide_eq_true_eq]
      omega
    rw [decodeByte, if_neg hrange, hlead]
    rfl

theorem toNat_charOfNat {n : Nat} (h : 0 < (Char.ofNat n).toNat) : (Char.ofNat n).toNat = n := by
  by_cases hn : n.isValidChar
  · rw [Char.ofNat, dif_pos hn]
    rfl
  · rw [Char.ofNat, dif_neg hn] at h
    cases h

theorem toNat_of_mem_decodeByte {o : Option Unfinished} (ho : ∀ u ∈ o, u.Sound) {b : UInt8}
    {c : Char} (hzero : 0 < c.toNat) (hc : c.toNat < 0x80) (h : some c ∈ (decodeByte o b).1) :
    b.toNat = c.toNat := by
  have hlead (h : some c ∈ (leadByte b).1) : b.toNat = c.toNat := by
    simp only [leadByte] at h
    split_ifs at h <;> simp at h
    subst h
    exact (toNat_charOfNat hzero).symm
  cases o with
  | none => exact hlead h
  | some u =>
    have hu := ho u rfl
    simp only [decodeByte, Bool.and_eq_true, decide_eq_true_eq] at h
    split_ifs at h with hrange hlast
    · have hchar := Option.some.inj (List.mem_singleton.1 h)
      have hbits := hu.two_le_last hlast
      rw [hchar] at hzero
      rw [hchar, toNat_charOfNat hzero] at hc
      omega
    · cases h
    · rcases List.mem_cons.1 h with h | h
      · cases h
      · exact hlead h

theorem decodeByte_ne_nil {o : Option Unfinished} {b : UInt8} (h : (decodeByte o b).2 = none) :
    (decodeByte o b).1 ≠ [] := by
  have hlead (h : (leadByte b).2 = none) : (leadByte b).1 ≠ [] := by
    simp only [leadByte] at h ⊢
    split_ifs at h ⊢ <;> simp_all
  cases o with
  | none => exact hlead h
  | some u =>
    simp only [decodeByte] at h ⊢
    split_ifs at h ⊢ <;> simp_all

/-! ## Runs of bytes -/

theorem decodeUtf8From_append {b : UInt8} (hb : b.toNat < 0x80) {o : Option Unfinished}
    (ho : ∀ u ∈ o, u.Sound) (bs rest : List UInt8) :
    decodeUtf8From o (bs ++ b :: rest) =
      decodeUtf8From o bs ++ some (Char.ofNat b.toNat) :: decodeUtf8From none rest := by
  induction bs generalizing o with
  | nil =>
    rw [List.nil_append, decodeUtf8From_cons, decodeByte_ascii hb ho, List.append_assoc]
    rfl
  | cons a bs ih =>
    rw [List.cons_append, decodeUtf8From_cons, ih (decodeByte_sound ho a),
      decodeUtf8From_cons o a bs, List.append_assoc]

theorem toNat_of_mem_decodeUtf8From {o : Option Unfinished} (ho : ∀ u ∈ o, u.Sound)
    {bs : List UInt8} {c : Char} (hzero : 0 < c.toNat) (hc : c.toNat < 0x80)
    (h : some c ∈ decodeUtf8From o bs) : ∃ b ∈ bs, b.toNat = c.toNat := by
  induction bs generalizing o with
  | nil => cases o <;> simp [decodeUtf8From] at h
  | cons b bs ih =>
    rw [decodeUtf8From_cons, List.mem_append] at h
    rcases h with h | h
    · exact ⟨b, by simp, toNat_of_mem_decodeByte ho hzero hc h⟩
    · obtain ⟨b', hb', heq⟩ := ih (decodeByte_sound ho b) h
      exact ⟨b', by simp [hb'], heq⟩

/-- The last byte decides whether the last character is one that a single byte stands for. -/
theorem exists_last_decodeUtf8From {o : Option Unfinished} (ho : ∀ u ∈ o, u.Sound) (bs : List UInt8)
    (b : UInt8) : ∃ front last, decodeUtf8From o (bs ++ [b]) = front ++ [last] ∧
      ∀ c, last = some c → 0 < c.toNat → c.toNat < 0x80 → b.toNat = c.toNat := by
  induction bs generalizing o with
  | nil =>
    rw [List.nil_append, decodeUtf8From_cons]
    cases hnext : (decodeByte o b).2 with
    | some u => exact ⟨(decodeByte o b).1, none, rfl, nofun⟩
    | none =>
      have hne := decodeByte_ne_nil hnext
      refine ⟨(decodeByte o b).1.dropLast, (decodeByte o b).1.getLast hne, ?_,
        fun c hc h0 h80 => ?_⟩
      · rw [List.dropLast_append_getLast]
        exact List.append_nil _
      · exact toNat_of_mem_decodeByte ho h0 h80 (hc ▸ List.getLast_mem hne)
  | cons a bs ih =>
    obtain ⟨front, last, heq, hlast⟩ := ih (decodeByte_sound ho a)
    refine ⟨(decodeByte o a).1 ++ front, last, ?_, hlast⟩
    rw [List.cons_append, decodeUtf8From_cons, heq, List.append_assoc]

/-! ## Mended texts -/

theorem mendUtf8_append {b : UInt8} (hb : b.toNat < 0x80) (bs rest : List UInt8) :
    mendUtf8 (bs ++ b :: rest) = mendUtf8 bs ++ Char.ofNat b.toNat :: mendUtf8 rest := by
  rw [mendUtf8, decodeUtf8, decodeUtf8From_append hb (by simp), List.map_append]
  rfl

theorem mem_of_mem_mendUtf8 {bs : List UInt8} {c : Char} (hzero : 0 < c.toNat) (hc : c.toNat < 0x80)
    (h : c ∈ mendUtf8 bs) : UInt8.ofNat c.toNat ∈ bs := by
  obtain ⟨x, hx, heq⟩ := List.mem_map.1 h
  cases x with
  | none =>
    rw [← heq] at hc
    exact absurd hc (by decide)
  | some d =>
    obtain rfl : d = c := heq
    obtain ⟨b, hb, hval⟩ := toNat_of_mem_decodeUtf8From (by simp) hzero hc hx
    rw [← hval, UInt8.ofNat_toNat]
    exact hb

/-- Lines are the same whether the bytes or the characters are parted. -/
theorem splitOn_mendUtf8 (bs : List UInt8) :
    (mendUtf8 bs).splitOn '\n' = (bs.splitOn 0x0a).map mendUtf8 := by
  induction hn : bs.length using Nat.strongRecOn generalizing bs with
  | ind n ih =>
    by_cases h : 0x0a ∈ bs
    · obtain ⟨line, rest, rfl, hline⟩ := List.eq_append_cons_of_mem h
      have hrest := ih rest.length (by rw [← hn]; simp; omega) rest rfl
      have hmend : mendUtf8 (line ++ 0x0a :: rest) = mendUtf8 line ++ '\n' :: mendUtf8 rest :=
        mendUtf8_append (by decide) line rest
      have hchar : '\n' ∉ mendUtf8 line := fun hin =>
        hline (mem_of_mem_mendUtf8 (by decide) (by decide) hin)
      rw [hmend, List.splitOn_append_cons_self_of_not_mem hchar,
        List.splitOn_append_cons_self_of_not_mem hline, hrest, List.map_cons]
    · have hchar : '\n' ∉ mendUtf8 bs := fun hin =>
        h (mem_of_mem_mendUtf8 (by decide) (by decide) hin)
      rw [List.splitOn_eq_singleton h, List.splitOn_eq_singleton hchar]
      rfl

theorem rdropWhile_mendUtf8 (bs : List UInt8) :
    (mendUtf8 bs).rdropWhile (· == '\r') = mendUtf8 (bs.rdropWhile (· == 0x0d)) := by
  induction bs using List.reverseRecOn with
  | nil => rfl
  | append_singleton bs b ih =>
    by_cases h : b = 0x0d
    · subst h
      have hmend : mendUtf8 (bs ++ [0x0d]) = mendUtf8 bs ++ ['\r'] :=
        mendUtf8_append (by decide) bs []
      rw [hmend, List.rdropWhile_concat_pos _ _ _ (by decide), ih,
        List.rdropWhile_concat_pos _ _ _ (by decide)]
    · obtain ⟨front, last, heq, hlast⟩ := exists_last_decodeUtf8From (o := none) (by simp) bs b
      have hmend : mendUtf8 (bs ++ [b]) = front.map (·.getD '\ufffd') ++ [last.getD '\ufffd'] := by
        rw [mendUtf8, decodeUtf8, heq, List.map_append]
        rfl
      have hkeep : last.getD '\ufffd' ≠ '\r' := by
        intro hcr
        cases last with
        | none => exact absurd hcr (by decide)
        | some c =>
          obtain rfl : c = '\r' := hcr
          exact h (UInt8.toNat_inj.1 (hlast _ rfl (by decide) (by decide)))
      rw [hmend, List.rdropWhile_concat_neg _ _ _ (by simpa using hkeep), ← hmend,
        List.rdropWhile_concat_neg _ _ _ (by simpa using h)]

end Webprint.Text
