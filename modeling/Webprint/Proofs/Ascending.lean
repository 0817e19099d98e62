import Mathlib.Data.List.Nodup
import Mathlib.Data.List.Sort
import Webprint.SortedMap

set_option autoImplicit false

/-!
# Lists with keys

Inserting the items of an ascending list one after the other rebuilds the list. Where no key stands
twice, looking for a key finds the item that has it. An ascending list is determined by its members,
one whose members are among those of another is a part of it, and its last item is beyond all others.
Results that are numbered by the positions of the items that they come from ascend.
-/

namespace Webprint

variable {κ α : Type} [KeyOrder κ]

theorem nodup_of_ascending {key : α → κ} {as : List α} (h : Ascending key as) :
    (as.map key).Nodup := by
  refine List.pairwise_map.2 (h.imp fun {a b} hab => ?_)
  intro heq
  rw [heq] at hab
  exact KeyOrder.irrefl _ hab

omit [KeyOrder κ] in
theorem find?_eq_some_iff_of_nodup [DecidableEq κ] {key : α → κ} {as : List α}
    (h : (as.map key).Nodup) {k : κ} {a : α} :
    as.find? (fun b => key b = k) = some a ↔ a ∈ as ∧ key a = k := by
  constructor
  · intro hfind
    have hk := List.find?_some hfind
    exact ⟨List.mem_of_find?_eq_some hfind, by simpa using hk⟩
  · rintro ⟨ha, rfl⟩
    cases hfind : as.find? fun b => key b = key a with
    | none =>
      have hnone := List.find?_eq_none.1 hfind a ha
      simp at hnone
    | some b =>
      have hb := List.mem_of_find?_eq_some hfind
      have hk := List.find?_some hfind
      rw [List.inj_on_of_nodup_map h hb ha (by simpa using hk)]

theorem antisymm_of_key (key : α → κ) : Std.Antisymm fun a b : α => key a < key b where
  antisymm _ _ hab hba := absurd (KeyOrder.trans _ _ _ hab hba) (KeyOrder.irrefl _)

theorem sublist_of_ascending {key : α → κ} {as bs : List α} (ha : Ascending key as)
    (hb : Ascending key bs) (h : as ⊆ bs) : as.Sublist bs := by
  have := antisymm_of_key key
  have hnodup : as.Nodup := (nodup_of_ascending ha).of_map
  exact List.sublist_of_subperm_of_pairwise (List.subperm_of_subset hnodup h) ha hb

theorem eq_of_ascending {key : α → κ} {as bs : List α} (ha : Ascending key as)
    (hb : Ascending key bs) (h : ∀ a, a ∈ as ↔ a ∈ bs) : as = bs := by
  have hab := sublist_of_ascending ha hb fun a => (h a).1
  have hba := sublist_of_ascending hb ha fun a => (h a).2
  exact hab.antisymm hba

omit [KeyOrder κ] in
theorem flatMap_filter_of_nil {β : Type} {f : α → List β} {p : α → Bool} {as : List α}
    (h : ∀ a ∈ as, p a = false → f a = []) : (as.filter p).flatMap f = as.flatMap f := by
  induction as with
  | nil => rfl
  | cons a as ih =>
    have hrest := ih fun b hb => h b (by simp [hb])
    rw [List.filter_cons, List.flatMap_cons, ← hrest]
    cases hp : p a with
    | true => simp
    | false => simp [h a (by simp) hp]

omit [KeyOrder κ] in
/-- Of results that carry the key of the item that they come from, those with one key come from the
items with that key. -/
theorem filter_flatMap_of_key [DecidableEq κ] {β : Type} {f : α → List β} {key : α → κ}
    {origin : β → κ} {as : List α} (h : ∀ a ∈ as, ∀ b ∈ f a, origin b = key a) (k : κ) :
    ((as.flatMap f).filter fun b => origin b = k) = (as.filter fun a => key a = k).flatMap f := by
  induction as with
  | nil => rfl
  | cons a as ih =>
    have hrest := ih fun c hc => h c (by simp [hc])
    have hown := h a (by simp)
    rw [List.flatMap_cons, List.filter_append, hrest, List.filter_cons]
    by_cases hk : key a = k
    · have hall : ((f a).filter fun b => origin b = k) = f a :=
        List.filter_eq_self.2 fun b hb => decide_eq_true ((hown b hb).trans hk)
      simp [hk, hall]
    · have hnone : ((f a).filter fun b => origin b = k) = [] :=
        List.filter_eq_nil_iff.2 fun b hb heq => hk ((hown b hb).symm.trans (of_decide_eq_true heq))
      simp [hk, hnone]

omit [KeyOrder κ] in
theorem filter_eq_find?_of_nodup [DecidableEq κ] {key : α → κ} {as : List α}
    (h : (as.map key).Nodup) (k : κ) :
    (as.filter fun a => key a = k) = (as.find? fun a => key a = k).toList := by
  induction as with
  | nil => rfl
  | cons a as ih =>
    obtain ⟨ha, has⟩ := List.nodup_cons.1 h
    by_cases hk : key a = k
    · have hrest : (as.filter fun b => key b = k) = [] := by
        rw [List.filter_eq_nil_iff]
        intro b hb heq
        exact ha (List.mem_map.2 ⟨b, hb, (of_decide_eq_true heq).trans hk.symm⟩)
      simp [hk, hrest]
    · simp [hk, ih has]

theorem insertBy_of_beyond {key : α → κ} {a : α} {as : List α} (h : ∀ b ∈ as, key b < key a) :
    insertBy key a as = as ++ [a] := by
  induction as with
  | nil => rfl
  | cons b as ih =>
    have hb := h b (by simp)
    have hab : ¬ key a < key b := fun hab =>
      KeyOrder.irrefl _ (KeyOrder.trans _ _ _ hab hb)
    rw [insertBy, if_neg hab, if_pos hb, ih fun c hc => h c (by simp [hc])]
    rfl

theorem foldl_insertBy_append {key : α → κ} (as bs : List α) (h : Ascending key (as ++ bs)) :
    bs.foldl (fun cs b => insertBy key b cs) as = as ++ bs := by
  induction bs generalizing as with
  | nil => simp
  | cons b bs ih =>
    have hb : ∀ a ∈ as, key a < key b := fun a ha =>
      (List.pairwise_append.1 h).2.2 a ha b (by simp)
    rw [List.foldl_cons, insertBy_of_beyond hb, ih (as ++ [b]) (by simpa using h)]
    simp

theorem getLast?_eq_some_of_ascending {key : α → κ} {as : List α} (h : Ascending key as) {a : α} :
    as.getLast? = some a ↔ a ∈ as ∧ ∀ b ∈ as, b = a ∨ key b < key a := by
  constructor
  · intro hlast
    obtain ⟨before, rfl⟩ := List.getLast?_eq_some_iff.1 hlast
    have hbefore := (List.pairwise_append.1 h).2.2
    refine ⟨by simp, fun b hb => ?_⟩
    rcases List.mem_append.1 hb with hb | hb
    · exact .inr (hbefore b hb a (by simp))
    · exact .inl (List.mem_singleton.1 hb)
  · rintro ⟨ha, hbeyond⟩
    obtain ⟨before, after, rfl⟩ := List.append_of_mem ha
    -- whatever came behind `a` would be beyond it and below it
    have hafter : after = [] := by
      refine List.eq_nil_iff_forall_not_mem.2 fun b hb => ?_
      have hab : key a < key b :=
        (List.pairwise_cons.1 (List.pairwise_append.1 h).2.1).1 b hb
      rcases hbeyond b (by simp [hb]) with rfl | hba
      · exact KeyOrder.irrefl _ hab
      · exact KeyOrder.irrefl _ (KeyOrder.trans _ _ _ hab hba)
    rw [hafter]
    exact List.getLast?_concat

/-! ## Numbered results -/

section Numbered

variable {α β : Type}

/-- Results for the items of a list, each under a path that begins with the position of its item. -/
def numbered (as : List α) (g : α → List (List Nat × β)) : List (List Nat × β) :=
  as.zipIdx.flatMap fun a => (g a.1).map fun x => (a.2 :: x.1, x.2)

@[simp] theorem map_snd_numbered (as : List α) (g : α → List (List Nat × β)) :
    (numbered as g).map Prod.snd = as.flatMap fun a => (g a).map Prod.snd := by
  have hitems : (as.zipIdx.map Prod.fst).flatMap (fun a => (g a).map Prod.snd) =
      as.flatMap fun a => (g a).map Prod.snd := by rw [List.zipIdx_map_fst]
  rw [numbered, List.map_flatMap, ← hitems, List.flatMap_map]
  exact List.flatMap_congr fun a _ => by simp [Function.comp_def]

theorem head?_numbered (as : List α) (g : α → List (List Nat × β)) :
    (numbered as g).head?.map Prod.snd = as.findSome? fun a => (g a).head?.map Prod.snd := by
  simp only [← List.head?_map, map_snd_numbered, List.head?_flatMap]

@[simp] theorem mem_numbered {as : List α} {g : α → List (List Nat × β)} {path : List Nat} {b : β} :
    (path, b) ∈ numbered as g ↔
      ∃ i a rest, as[i]? = some a ∧ (rest, b) ∈ g a ∧ i :: rest = path := by
  simp only [numbered, List.mem_flatMap, List.mem_map]
  constructor
  · rintro ⟨⟨a, i⟩, ha, ⟨rest, b'⟩, hb, heq⟩
    cases heq
    exact ⟨i, a, rest, List.mk_mem_zipIdx_iff_getElem?.1 ha, hb, rfl⟩
  · rintro ⟨i, a, rest, ha, hb, rfl⟩
    exact ⟨(a, i), List.mk_mem_zipIdx_iff_getElem?.2 ha, (rest, b), hb, rfl⟩

theorem ascending_numbered {as : List α} {g : α → List (List Nat × β)}
    (h : ∀ a ∈ as, (g a).Pairwise fun x y => x.1 < y.1) :
    (numbered as g).Pairwise fun x y => x.1 < y.1 := by
  have hpositions : as.zipIdx.Pairwise fun x y => x.2 < y.2 := by
    rw [← List.pairwise_map (f := Prod.snd) (R := fun i j : Nat => i < j), List.zipIdx_map_snd]
    exact List.pairwise_lt_range' 1
  rw [numbered, List.pairwise_flatMap]
  refine ⟨fun a ha => ?_, hpositions.imp fun hij => ?_⟩
  · have hin : a.1 ∈ as := by
      rw [← List.zipIdx_map_fst 0 as]
      exact List.mem_map_of_mem ha
    rw [List.pairwise_map]
    exact (h a.1 hin).imp fun hxy => List.cons_lt_cons_iff.2 (.inr ⟨rfl, hxy⟩)
  · intro x hx y hy
    obtain ⟨_, -, rfl⟩ := List.mem_map.1 hx
    obtain ⟨_, -, rfl⟩ := List.mem_map.1 hy
    exact List.cons_lt_cons_iff.2 (.inl hij)

end Numbered

namespace SortedMap

theorem get?_eq_some [DecidableEq κ] {m : SortedMap κ α} {k : κ} {a : α} :
    m.get? k = some a ↔ (k, a) ∈ m.entries := by
  have hfind (e : κ × α) := find?_eq_some_iff_of_nodup (k := k) (a := e)
    (nodup_of_ascending m.ascending)
  rw [get?, Option.map_eq_some_iff]
  constructor
  · rintro ⟨e, he, rfl⟩
    obtain ⟨hmem, rfl⟩ := (hfind e).1 he
    exact hmem
  · intro h
    exact ⟨(k, a), (hfind (k, a)).2 ⟨h, rfl⟩, rfl⟩

theorem ext_get? [DecidableEq κ] {m n : SortedMap κ α} (h : ∀ k, m.get? k = n.get? k) : m = n := by
  refine ext (eq_of_ascending m.ascending n.ascending fun (k, a) => ?_)
  rw [← get?_eq_some, ← get?_eq_some, h]

@[simp] theorem get?_erase [DecidableEq κ] (m : SortedMap κ α) (k j : κ) :
    (m.erase k).get? j = if k = j then none else m.get? j := by
  rw [get?, get?, erase]
  split
  · rename_i h
    subst h
    rw [List.find?_eq_none.2, Option.map_none]
    intro e he
    have hne := (List.mem_filter.1 he).2
    simpa using hne
  · rename_i h
    rw [List.find?_filter]
    congr 2
    funext e
    by_cases hj : e.1 = j
    · simp [hj, Ne.symm h]
    · simp [hj]

theorem entries_foldl_insert (es : List (κ × α)) (m : SortedMap κ α) :
    (es.foldl (fun m e => m.insert e.1 e.2) m).entries =
      es.foldl (fun es e => insertBy Prod.fst e es) m.entries := by
  induction es generalizing m with
  | nil => rfl
  | cons e es ih => exact ih (m.insert e.1 e.2)

theorem foldl_insert_entries (m : SortedMap κ α) :
    m.entries.foldl (fun m e => m.insert e.1 e.2) empty = m := by
  apply ext
  rw [entries_foldl_insert]
  exact foldl_insertBy_append [] m.entries m.ascending

/-- The value under the greatest of the keys whose values pass a test. -/
theorem getLast?_values_filter [DecidableEq κ] (m : SortedMap κ α) (p : α → Bool) (a : α) :
    (m.values.filter p).getLast? = some a ↔
      ∃ key, m.get? key = some a ∧ p a = true ∧
        ∀ key' b, m.get? key' = some b → p b = true → key' = key ∨ key' < key := by
  have hascending : Ascending Prod.fst (m.entries.filter (p ∘ Prod.snd)) := m.ascending.filter _
  -- the entries are still sorted by key once those that fail the test are out
  rw [values, List.filter_map, List.getLast?_map, Option.map_eq_some_iff]
  constructor
  · rintro ⟨⟨key, b⟩, hlast, rfl⟩
    obtain ⟨hmem, hbeyond⟩ := (getLast?_eq_some_of_ascending hascending).1 hlast
    obtain ⟨hentry, hp⟩ := List.mem_filter.1 hmem
    refine ⟨key, get?_eq_some.2 hentry, hp, fun key' b' hb' hp' => ?_⟩
    have hmem' : (key', b') ∈ m.entries.filter (p ∘ Prod.snd) :=
      List.mem_filter.2 ⟨get?_eq_some.1 hb', hp'⟩
    exact (hbeyond (key', b') hmem').imp (congrArg Prod.fst) id
  · rintro ⟨key, ha, hp, hbeyond⟩
    refine ⟨(key, a), (getLast?_eq_some_of_ascending hascending).2 ⟨?_, fun e he => ?_⟩, rfl⟩
    · exact List.mem_filter.2 ⟨get?_eq_some.1 ha, hp⟩
    · obtain ⟨hentry, hpe⟩ := List.mem_filter.1 he
      have hget : m.get? e.1 = some e.2 := get?_eq_some.2 hentry
      refine (hbeyond e.1 e.2 hget hpe).imp_left fun hkey => ?_
      have hsame : e.2 = a := Option.some.inj (by rw [← hget, hkey, ha])
      exact Prod.ext hkey hsame

end SortedMap

end Webprint
