import Mathlib.Data.List.Nodup
import Mathlib.Data.List.Perm.Basic
import Webprint.DetectionSet
import Webprint.Proofs.Ascending

set_option autoImplicit false

/-!
# What sets of detections do

The places of names and the names determine each other. From the places come the answers of a set, and
what an operation leaves is said by its list of detections alone.
-/

namespace Webprint

namespace Locates

variable {p q : SortedMap String Nat} {names others : List String}

theorem nodup (h : Locates p names) : names.Nodup := by
  refine List.nodup_iff_getElem?_ne_getElem?.2 fun i j hij hj heq => ?_
  obtain ⟨name, hname⟩ : ∃ name, names[j]? = some name := ⟨_, List.getElem?_eq_getElem hj⟩
  have hi := (h name i).2 (heq.trans hname)
  rw [(h name j).2 hname] at hi
  exact hij.ne (Option.some.inj hi).symm

theorem eq_places (h : Locates p names) (hq : Locates q names) : p = q :=
  SortedMap.ext_get? fun name => Option.ext fun i => (h name i).trans (hq name i).symm

theorem eq_names (h : Locates p names) (hq : Locates p others) : names = others :=
  List.ext_getElem? fun i => Option.ext fun name => (h name i).symm.trans (hq name i)

theorem isSome_iff (h : Locates p names) {name : String} :
    (p.get? name).isSome ↔ name ∈ names := by
  rw [Option.isSome_iff_exists, List.mem_iff_getElem?]
  exact exists_congr fun i => h name i

theorem perm_keys (h : Locates p names) : p.keys.Perm names := by
  refine (List.perm_ext_iff_of_nodup (nodup_of_ascending p.ascending) h.nodup).2 fun name => ?_
  rw [← h.isSome_iff, Option.isSome_iff_exists, List.mem_map]
  constructor
  · rintro ⟨⟨_, i⟩, hmem, rfl⟩
    exact ⟨i, SortedMap.get?_eq_some.2 hmem⟩
  · rintro ⟨i, hi⟩
    exact ⟨(name, i), SortedMap.get?_eq_some.1 hi, rfl⟩

end Locates

namespace DetectionSet

variable {s t : DetectionSet} {name : String} {d : Detection} {i : Nat}

/-! ## Places and names -/

theorem distinct (s : DetectionSet) : (s.detections.map Detection.name).Nodup := s.located.nodup

theorem ext (h : s.detections = t.detections) : s = t := by
  obtain ⟨ds, p, hp⟩ := s
  obtain ⟨es, q, hq⟩ := t
  obtain rfl : ds = es := h
  obtain rfl := hp.eq_places hq
  rfl

theorem names_eq_of_places (h : t.places = s.places) : t.names = s.names :=
  t.located.eq_names (h ▸ s.located)

theorem names_of_detections {ns : List String} {f : String → Detection}
    (h : s.detections = ns.map f) (named : ∀ n, (f n).name = n) : s.names = ns := by
  rw [names, h, List.map_map]
  exact (List.map_congr_left fun n _ => named n).trans (List.map_id ns)

theorem place_eq_some_iff :
    s.places.get? name = some i ↔ ∃ d, s.detections[i]? = some d ∧ d.name = name := by
  rw [s.located name i, List.getElem?_map, Option.map_eq_some_iff]

theorem place_eq_none_iff : s.places.get? name = none ↔ name ∉ s.names := by
  rw [names, ← s.located.isSome_iff, Option.not_isSome_iff_eq_none]

@[simp] theorem contains_iff : s.contains name = true ↔ name ∈ s.names := s.located.isSome_iff

theorem exists_place (h : name ∈ s.names) : ∃ i, s.places.get? name = some i :=
  Option.isSome_iff_exists.1 (s.located.isSome_iff.2 h)

@[simp] theorem get?_eq_some : s.get? name = some d ↔ d ∈ s.detections ∧ d.name = name := by
  rw [get?, Option.bind_eq_some_iff]
  constructor
  · rintro ⟨i, hi, hd⟩
    obtain ⟨e, he, hname⟩ := place_eq_some_iff.1 hi
    obtain rfl : e = d := Option.some.inj (he.symm.trans hd)
    exact ⟨List.mem_of_getElem? he, hname⟩
  · rintro ⟨hmem, hname⟩
    obtain ⟨i, hi⟩ := List.mem_iff_getElem?.1 hmem
    exact ⟨i, place_eq_some_iff.2 ⟨d, hi, hname⟩, hi⟩

@[simp] theorem get?_eq_none : s.get? name = none ↔ name ∉ s.names := by
  rw [names, Option.eq_none_iff_forall_ne_some]
  simp

theorem get?_perm (h : t.detections.Perm s.detections) (name : String) :
    t.get? name = s.get? name := by
  refine Option.ext fun d => ?_
  rw [get?_eq_some, get?_eq_some, h.mem_iff]

/-! ## Operations -/

theorem modify_at_place (h : s.places.get? name = some i) (f : Detection → Detection) :
    s.detections.modify i f = s.detections.map fun d => if d.name = name then f d else d := by
  refine List.ext_getElem? fun j => ?_
  have hplace := s.located name j
  rw [h, List.getElem?_map] at hplace
  rw [List.getElem?_modify, List.getElem?_map]
  cases hd : s.detections[j]? with
  | none => rfl
  | some d =>
    have hown : i = j ↔ d.name = name := by simpa [hd] using hplace
    simp only [Option.map_eq_map, Option.map_some, hown]

theorem map_of_not_mem (h : name ∉ s.names) (f : Detection → Detection) :
    (s.detections.map fun d => if d.name = name then f d else d) = s.detections := by
  refine (List.map_congr_left fun d hd => ?_).trans (List.map_id _)
  have hne : d.name ≠ name := fun heq => h (List.mem_map.2 ⟨d, hd, heq⟩)
  rw [if_neg hne]
  rfl

theorem insertNew_of_mem (h : d.name ∈ s.names) : s.insertNew d = (s, false) := by
  obtain ⟨i, hi⟩ := exists_place h
  rw [insertNew]
  split
  · rfl
  · rename_i hnone
    rw [hi] at hnone
    cases hnone

theorem insertNew_of_not_mem (h : d.name ∉ s.names) :
    s.insertNew d = (s.push d (place_eq_none_iff.2 h), true) := by
  rw [insertNew]
  split
  · rename_i i hi
    rw [place_eq_none_iff.2 h] at hi
    cases hi
  · rfl

@[simp] theorem insert_of_mem (h : d.name ∈ s.names) : s.insert d = s := by
  rw [insert, insertNew_of_mem h]

@[simp] theorem detections_insert (h : d.name ∉ s.names) :
    (s.insert d).detections = s.detections ++ [d] := by
  rw [insert, insertNew_of_not_mem h]
  rfl

theorem replace_of_place (h : s.places.get? d.name = some i) : s.replace d = s.setAt i d h := by
  rw [replace]
  split
  · rename_i j hj
    obtain rfl : j = i := Option.some.inj (hj.symm.trans h)
    rfl
  · rename_i hnone
    rw [h] at hnone
    cases hnone

theorem replace_of_not_mem (h : d.name ∉ s.names) : s.replace d = s.insert d := by
  rw [replace, insert, insertNew_of_not_mem h]
  split
  · rename_i i hi
    rw [place_eq_none_iff.2 h] at hi
    cases hi
  · rfl

@[simp] theorem detections_replace (h : d.name ∈ s.names) :
    (s.replace d).detections = s.detections.map fun e => if e.name = d.name then d else e := by
  obtain ⟨i, hi⟩ := exists_place h
  rw [replace_of_place hi]
  exact (List.set_eq_modify d i s.detections).trans (modify_at_place hi _)

variable {f : Detection → Detection} {keeps : ∀ d, (f d).name = d.name}

@[simp] theorem detections_modify :
    (s.modify name f keeps).detections =
      s.detections.map fun d => if d.name = name then f d else d := by
  cases hplace : s.places.get? name with
  | none =>
    rw [modify, hplace]
    exact (map_of_not_mem (place_eq_none_iff.1 hplace) f).symm
  | some i =>
    rw [modify, hplace]
    exact modify_at_place hplace f

theorem modify_of_not_mem (h : name ∉ s.names) : s.modify name f keeps = s :=
  ext (detections_modify.trans (map_of_not_mem h f))

/-- To change a detection that may have to be put there first comes to inserting and changing. -/
theorem change_eq {create : Detection} (named : create.name = name) :
    s.change name create named f keeps = (s.insert create).modify name f keeps := by
  subst named
  rw [change]
  split
  · rename_i i hi
    have hin : create.name ∈ s.names := contains_iff.1 (Option.isSome_iff_exists.2 ⟨i, hi⟩)
    rw [insert_of_mem hin, modify, hi]
  · rename_i hnone
    have hplace : (s.push create hnone).places.get? create.name = some s.size := by
      simp [push]
    rw [insert, insertNew_of_not_mem (place_eq_none_iff.1 hnone), modify, hplace]

end DetectionSet

end Webprint
