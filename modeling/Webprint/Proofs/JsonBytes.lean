import Webprint.Proofs.CatalogueForm
import Webprint.Proofs.NumberText
import Webprint.Proofs.Utf8

set_option autoImplicit false

/-!
# JSON kept as bytes

No text that is printed for a value holds a control character, so nothing in it is taken for a stray
byte, and the bytes of the text are decoded like the text.
-/

namespace Webprint.Json

/-- Free of control characters. -/
def Plain (s : List Char) : Prop := ∀ c ∈ s, 0x20 ≤ c.toNat

@[simp] theorem plain_append {s t : List Char} : Plain (s ++ t) ↔ Plain s ∧ Plain t :=
  List.forall_mem_append

@[simp] theorem plain_cons {c : Char} {s : List Char} : Plain (c :: s) ↔ 0x20 ≤ c.toNat ∧ Plain s :=
  List.forall_mem_cons

@[simp] theorem plain_nil : Plain [] := by
  intro c hc
  cases hc

theorem plain_number (n : Number) : Plain n.text.toList := by
  intro c hc
  rcases numberText_number n c hc with hdigit | rfl | rfl | rfl | rfl
  · have hrange : '0' ≤ c ∧ c ≤ '9' := by simpa [Char.isDigit, Char.le_def] using hdigit
    have hzero : 48 ≤ c.toNat := hrange.1
    omega
  all_goals decide

/-! ## Values -/

theorem plain_digitChar : ∀ n < 16, 0x20 ≤ (Nat.digitChar n).toNat := by decide

theorem plain_escapeChar (c : Char) : Plain (escapeChar c) := by
  unfold escapeChar
  split_ifs with _ _ _ _ _ _ _ hcontrol
  on_goal 8 =>
    have hhigh := plain_digitChar (c.toNat / 16) (by omega)
    have hlow := plain_digitChar (c.toNat % 16) (by omega)
    simp [Plain, hhigh, hlow]
  on_goal 8 => simpa [Plain] using hcontrol
  all_goals simp [Plain]

@[simp] theorem plain_escaped (s : List Char) : Plain (s.flatMap escapeChar) := by
  intro c hc
  obtain ⟨d, -, hcd⟩ := List.mem_flatMap.1 hc
  exact plain_escapeChar d c hcd

theorem plain_quote (s : String) : Plain (quote s).toList := by simp

mutual

theorem plain_compact : ∀ v : Value, Plain v.compact.toList
  | .null => by simp [Plain, Value.compact]
  | .bool b => by cases b <;> simp [Plain, Value.compact]
  | .number n => plain_number n
  | .string s => plain_quote s
  | .array items => by
    simp [plain_items items]
  | .object members => by
    simp [plain_members members]

theorem plain_items : ∀ vs : List Value, Plain (itemsText vs)
  | [] => plain_nil
  | [v] => by
    simp [plain_compact v]
  | v :: w :: vs => by
    simp [plain_compact v, plain_items (w :: vs)]

theorem plain_members : ∀ ms : List (String × Value), Plain (membersText ms)
  | [] => plain_nil
  | [(k, v)] => by
    simp [plain_compact v]
  | (k, v) :: m :: ms => by
    simp [plain_compact v, plain_members (m :: ms)]

end

/-! ## Bytes -/

theorem readBytes_utf8Bytes {s : String} (h : Plain s.toList) :
    readBytes (Text.utf8Bytes s) = readDocument true s.toList := by
  -- `orStray` replaces one control character only
  have hsame : (s.toList.map some).map orStray = s.toList := by
    rw [List.map_map, List.map_congr_left (g := id), List.map_id]
    intro c hc
    have hne : c ≠ stray := by
      rintro rfl
      exact absurd (h stray hc) (by decide)
    rw [Function.comp_apply, orStray, if_neg hne, id]
  rw [readBytes, Text.decodeUtf8_utf8Bytes, hsame]

/-- Decoding the bytes of a value's text comes to decoding the value. -/
theorem decodeBytes_compact {α : Type} (item : Decoder α) {v : Value} (h : v.Readable) :
    decodeBytes item (Text.utf8Bytes v.compact) = item maxDepth (.ofValue v) := by
  rw [decodeBytes, readBytes_utf8Bytes (plain_compact v), readDocument_compact true h,
    Decode.document]
  cases item maxDepth (.ofValue v) <;> rfl

theorem Decode.decodeBytes_catalogue (c : Catalogue) :
    decodeBytes Decode.catalogue (Text.utf8Bytes c.toJson.compact) = .ok c := by
  rw [decodeBytes_compact Decode.catalogue (Decode.readable_catalogue c)]
  exact Decode.catalogue_undoes maxDepth (by decide) c

end Webprint.Json
