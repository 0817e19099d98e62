set_option autoImplicit false

/-!
# Sorted maps

Maps as lists of entries whose keys ascend, so that maps with the same entries are equal. The same
insertion keeps any list sorted by a key of its items.
-/

namespace Webprint

class KeyOrder (κ : Type) extends LT κ where
  decideLt : DecidableLT κ
  irrefl : ∀ a : κ, ¬a < a
  trans : ∀ a b c : κ, a < b → b < c → a < c
  trichotomy : ∀ a b : κ, a < b ∨ a = b ∨ b < a

instance instDecidableLTKey {κ : Type} [KeyOrder κ] : DecidableLT κ := KeyOrder.decideLt

/-- Strings are ordered by the code points of their characters. -/
instance : KeyOrder String where
  decideLt := inferInstance
  irrefl := String.lt_irrefl
  trans _ _ _ := String.lt_trans
  trichotomy a b := by
    rcases Decidable.em (a < b) with h | h
    · exact .inl h
    · rcases Decidable.em (b < a) with h' | h'
      · exact .inr (.inr h')
      · exact .inr (.inl (String.le_antisymm (String.not_lt.1 h') (String.not_lt.1 h)))

section Insertion

variable {κ α : Type} [KeyOrder κ]

/-- Puts an item at its place by key; an item with the same key gives way. -/
def insertBy (key : α → κ) (a : α) : List α → List α
  | [] => [a]
  | b :: rest =>
    if key a < key b then a :: b :: rest
    else if key b < key a then b :: insertBy key a rest
    else a :: rest

def Ascending (key : α → κ) (as : List α) : Prop := as.Pairwise fun a b => key a < key b

theorem mem_insertBy {key : α → κ} {a x : α} {as : List α} (h : x ∈ insertBy key a as) :
    x = a ∨ x ∈ as := by
  induction as with
  | nil => exact .inl (by simpa [insertBy] using h)
  | cons b rest ih =>
    unfold insertBy at h
    split at h
    · rcases List.mem_cons.1 h with rfl | h
      · exact .inl rfl
      · exact .inr h
    · split at h
      · rcases List.mem_cons.1 h with rfl | h
        · exact .inr (List.mem_cons_self ..)
        · rcases ih h with rfl | h
          · exact .inl rfl
          · exact .inr (List.mem_cons_of_mem _ h)
      · rcases List.mem_cons.1 h with rfl | h
        · exact .inl rfl
        · exact .inr (List.mem_cons_of_mem _ h)

theorem ascending_insertBy {key : α → κ} (a : α) {as : List α} (h : Ascending key as) :
    Ascending key (insertBy key a as) := by
  induction as with
  | nil => exact List.pairwise_singleton _ _
  | cons b rest ih =>
    obtain ⟨hb, hrest⟩ := List.pairwise_cons.1 h
    unfold insertBy
    split
    · rename_i hab
      refine List.pairwise_cons.2 ⟨fun x hx => ?_, h⟩
      rcases List.mem_cons.1 hx with rfl | hx
      · exact hab
      · exact KeyOrder.trans _ _ _ hab (hb x hx)
    · rename_i hab
      split
      · rename_i hba
        refine List.pairwise_cons.2 ⟨fun x hx => ?_, ih hrest⟩
        rcases mem_insertBy hx with rfl | hx
        · exact hba
        · exact hb x hx
      · rename_i hba
        have heq : key a = key b := by
          rcases KeyOrder.trichotomy (key a) (key b) with h' | h' | h'
          · exact absurd h' hab
          · exact h'
          · exact absurd h' hba
        refine List.pairwise_cons.2 ⟨fun x hx => ?_, hrest⟩
        rw [heq]
        exact hb x hx

theorem find?_insertBy [DecidableEq κ] (key : α → κ) (a : α) (as : List α) (k : κ) :
    (insertBy key a as).find? (fun b => key b = k) =
      if key a = k then some a else as.find? fun b => key b = k := by
  induction as with
  | nil => by_cases hk : key a = k <;> simp [insertBy, hk]
  | cons b as ih =>
    unfold insertBy
    by_cases hab : key a < key b
    · rw [if_pos hab]
      by_cases hk : key a = k <;> simp [hk]
    · rw [if_neg hab]
      by_cases hba : key b < key a
      · rw [if_pos hba, List.find?_cons, ih, List.find?_cons]
        by_cases hk : key b = k
        · have hne : key a ≠ k := fun h => KeyOrder.irrefl k (by rwa [h, hk] at hba)
          simp [hk, hne]
        · simp [hk]
      · -- neither is below the other, so the keys are equal and `a` stands in the place of `b`
        have heq : key a = key b := by
          rcases KeyOrder.trichotomy (key a) (key b) with h | h | h
          · exact absurd h hab
          · exact h
          · exact absurd h hba
        rw [if_neg hba]
        by_cases hk : key a = k
        · simp [hk]
        · have hkb : key b ≠ k := by rwa [← heq]
          simp [hk, hkb]

end Insertion

structure SortedMap (κ α : Type) [KeyOrder κ] where
  entries : List (κ × α)
  ascending : Ascending Prod.fst entries

namespace SortedMap

variable {κ α β : Type} [KeyOrder κ]

theorem ext {m n : SortedMap κ α} (h : m.entries = n.entries) : m = n := by
  cases m
  cases n
  cases h
  rfl

instance [DecidableEq κ] [DecidableEq α] : DecidableEq (SortedMap κ α) := fun m n =>
  decidable_of_iff (m.entries = n.entries) ⟨ext, fun h => h ▸ rfl⟩

def empty : SortedMap κ α := ⟨[], List.Pairwise.nil⟩

instance : Inhabited (SortedMap κ α) := ⟨empty⟩

def insert (m : SortedMap κ α) (k : κ) (a : α) : SortedMap κ α :=
  ⟨insertBy Prod.fst (k, a) m.entries, ascending_insertBy _ m.ascending⟩

def get? [DecidableEq κ] (m : SortedMap κ α) (k : κ) : Option α :=
  (m.entries.find? fun e => e.1 = k).map (·.2)

@[simp] theorem get?_insert [DecidableEq κ] (m : SortedMap κ α) (k : κ) (a : α) (j : κ) :
    (m.insert k a).get? j = if k = j then some a else m.get? j := by
  rw [get?, insert, find?_insertBy]
  by_cases h : k = j
  · rw [if_pos h, if_pos h]
    rfl
  · rw [if_neg h, if_neg h]
    rfl

def erase [DecidableEq κ] (m : SortedMap κ α) (k : κ) : SortedMap κ α :=
  ⟨m.entries.filter fun e => e.1 ≠ k, m.ascending.filter _⟩

def ofList (es : List (κ × α)) : SortedMap κ α := es.foldl (fun m e => m.insert e.1 e.2) empty

def isEmpty (m : SortedMap κ α) : Bool := m.entries.isEmpty

def keys (m : SortedMap κ α) : List κ := m.entries.map (·.1)

def values (m : SortedMap κ α) : List α := m.entries.map (·.2)

end SortedMap

abbrev MultiMap (α : Type) := SortedMap String (List α)

def MultiMap.push {α : Type} (m : MultiMap α) (k : String) (a : α) : MultiMap α :=
  m.insert k ((m.get? k).getD [] ++ [a])

end Webprint
