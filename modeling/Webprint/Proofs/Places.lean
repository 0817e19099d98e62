import Mathlib.Data.List.Infix
import Webprint.Proofs.Relating

set_option autoImplicit false

/-!
# Places of detections

Whatever is done to a set of detections, those that it has stay where they are: new ones go to the
end. So a place that was found once stays right.
-/

namespace Webprint.DetectionSet

/-- What is done to sets of detections. Changes keep names, and what is made for a name has it. -/
inductive Operation
  | insert (d : Detection)
  | replace (d : Detection)
  | change (name : String) (create : Detection) (named : create.name = name)
      (f : Detection → Detection) (keeps : ∀ d, (f d).name = d.name)
  | modify (name : String) (f : Detection → Detection) (keeps : ∀ d, (f d).name = d.name)
  | map (f : Detection → Detection) (keeps : ∀ d, (f d).name = d.name)
  | resolve (c : Catalogue)

def perform (s : DetectionSet) : Operation → DetectionSet
  | .insert d => s.insert d
  | .replace d => s.replace d
  | .change name create named f keeps => s.change name create named f keeps
  | .modify name f keeps => s.modify name f keeps
  | .map f keeps => s.map f keeps
  | .resolve c => Relating.resolve c s

def run (ops : List Operation) : DetectionSet := ops.foldl perform .empty

variable {s t : DetectionSet} {name : String}

/-! ## One operation -/

theorem names_prefix_insert (s : DetectionSet) (d : Detection) : s.names <+: (s.insert d).names := by
  by_cases h : d.name ∈ s.names
  · rw [insert_of_mem h]
  · rw [names, names, detections_insert h, List.map_append]
    exact List.prefix_append ..

theorem places_modify (s : DetectionSet) (name : String) (f : Detection → Detection)
    (keeps : ∀ d, (f d).name = d.name) : (s.modify name f keeps).places = s.places := by
  unfold modify
  split
  · rfl
  · rfl

theorem names_prefix_replace (s : DetectionSet) (d : Detection) :
    s.names <+: (s.replace d).names := by
  by_cases h : d.name ∈ s.names
  · obtain ⟨i, hi⟩ := exists_place h
    have hplaces : (s.replace d).places = s.places := by
      rw [replace_of_place hi]
      rfl
    rw [names_eq_of_places hplaces]
  · rw [replace_of_not_mem h]
    exact names_prefix_insert s d

theorem names_prefix_resolve (c : Catalogue) (s : DetectionSet) :
    s.names <+: (Relating.resolve c s).names := by
  by_cases hc : c.hasRelations
  · have hall : Relating.resolve c s = Relating.resolveAll c s := if_neg (by simp [hc])
    rw [hall, names, names, Relating.detections_resolveAll, List.map_append, List.map_map]
    exact List.prefix_append ..
  · have hself : Relating.resolve c s = s := if_pos (by simpa using hc)
    rw [hself]

theorem names_prefix_perform (s : DetectionSet) (op : Operation) :
    s.names <+: (s.perform op).names := by
  cases op with
  | insert d => exact names_prefix_insert s d
  | replace d => exact names_prefix_replace s d
  | change name create named f keeps =>
    rw [perform, change_eq named, names_eq_of_places (places_modify ..)]
    exact names_prefix_insert s create
  | modify name f keeps => rw [perform, names_eq_of_places (places_modify ..)]
  | map f keeps =>
    have hplaces : (s.map f keeps).places = s.places := rfl
    rw [perform, names_eq_of_places hplaces]
  | resolve c => exact names_prefix_resolve c s

/-! ## Many operations -/

theorem names_prefix_foldl (ops : List Operation) (s : DetectionSet) :
    s.names <+: (ops.foldl perform s).names := by
  induction ops generalizing s with
  | nil => exact List.prefix_rfl
  | cons op ops ih => exact (names_prefix_perform s op).trans (ih (s.perform op))

theorem place_of_prefix (h : s.names <+: t.names) {i : Nat} (hi : s.places.get? name = some i) :
    t.places.get? name = some i := by
  obtain ⟨hlt, hname⟩ := List.getElem?_eq_some_iff.1 ((s.located name i).1 hi)
  refine (t.located name i).2 ?_
  rw [← hname]
  exact List.prefix_iff_getElem?.1 h i hlt

/-- In a set that operations have made of the empty one, names are distinct, and the places are those
of just these names. What is found under a name has the name, and it is found if it is there. To
insert a detection whose name is taken changes nothing and says so, and otherwise puts it at the end.
What is replaced makes room at its own place. And no later operations ever move a detection. -/
theorem run_keeps_places (ops : List Operation) :
    (run ops).names.Nodup ∧
      (∀ name i, (run ops).places.get? name = some i ↔
        ∃ d, (run ops).detections[i]? = some d ∧ d.name = name) ∧
      (run ops).places.keys.Perm (run ops).names ∧
      (∀ name d, (run ops).get? name = some d ↔ d ∈ (run ops).detections ∧ d.name = name) ∧
      (∀ name, (run ops).contains name = ((run ops).get? name).isSome) ∧
      (run ops).size = (run ops).places.keys.length ∧
      (∀ d, d.name ∈ (run ops).names → (run ops).insertNew d = (run ops, false)) ∧
      (∀ d, d.name ∉ (run ops).names → ((run ops).insertNew d).2 = true ∧
        ((run ops).insertNew d).1.detections = (run ops).detections ++ [d]) ∧
      (∀ d i, (run ops).places.get? d.name = some i →
        ((run ops).replace d).detections = (run ops).detections.set i d ∧
          ((run ops).replace d).places = (run ops).places) ∧
      ∀ more name i, (run ops).places.get? name = some i →
        (run (ops ++ more)).places.get? name = some i := by
  have hkeys := (run ops).located.perm_keys
  refine ⟨(run ops).distinct, fun _ _ => place_eq_some_iff, hkeys, fun _ _ => get?_eq_some,
    fun name => ?_, ?_, fun _ => insertNew_of_mem, fun d h => ?_, fun d i hi => ?_,
    fun more name i hi => ?_⟩
  · rw [Bool.eq_iff_iff, contains_iff, ← not_iff_not, ← get?_eq_none, Option.not_isSome_iff_eq_none]
  · rw [hkeys.length_eq, List.length_map]
    rfl
  · rw [insertNew_of_not_mem h]
    exact ⟨rfl, rfl⟩
  · rw [replace_of_place hi]
    exact ⟨rfl, rfl⟩
  · have hmore : run (ops ++ more) = more.foldl perform (run ops) := List.foldl_append ..
    rw [hmore]
    exact place_of_prefix (names_prefix_foldl more (run ops)) hi

end Webprint.DetectionSet
