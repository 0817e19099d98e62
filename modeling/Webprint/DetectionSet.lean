import Webprint.Detection
import Webprint.SortedMap

set_option autoImplicit false

/-!
# Sets of detections

Detections in the order in which they came, at most one for each name. Beside them stands where the
detection with a name is, so that it can be found without a search.
-/

namespace Webprint

/-- A map takes each of some names to its place among them, and knows no other name. -/
def Locates (places : SortedMap String Nat) (names : List String) : Prop :=
  ∀ name i, places.get? name = some i ↔ names[i]? = some name

namespace Locates

theorem empty : Locates .empty [] := fun name i => by simp [SortedMap.get?, SortedMap.empty]

theorem concat {places : SortedMap String Nat} {names : List String} {name : String}
    (h : Locates places names) (new : places.get? name = none) :
    Locates (places.insert name names.length) (names ++ [name]) := by
  intro other i
  have hold := h other i
  rw [SortedMap.get?_insert, List.getElem?_append, List.getElem?_singleton]
  by_cases heq : name = other
  · -- the new name had no place, so the end is its only one
    subst heq
    rw [new] at hold
    rw [if_pos rfl, Option.some_inj]
    split
    · rename_i hlt
      exact iff_of_false (Nat.ne_of_gt hlt) fun hi => nomatch hold.2 hi
    · split
      · exact iff_of_true (by omega) rfl
      · exact iff_of_false (by omega) nofun
  · rw [if_neg heq, hold]
    split
    · exact Iff.rfl
    · have hnone : names[i]? = none := List.getElem?_eq_none (by omega)
      rw [hnone]
      split
      · exact iff_of_false nofun fun hname => heq (Option.some.inj hname)
      · exact Iff.rfl

end Locates

structure DetectionSet where
  detections : List Detection
  places : SortedMap String Nat
  located : Locates places (detections.map Detection.name)

namespace DetectionSet

def empty : DetectionSet := ⟨[], .empty, .empty⟩

instance : Inhabited DetectionSet := ⟨empty⟩

def names (s : DetectionSet) : List String := s.detections.map Detection.name

def get? (s : DetectionSet) (name : String) : Option Detection :=
  (s.places.get? name).bind fun i => s.detections[i]?

def contains (s : DetectionSet) (name : String) : Bool := (s.places.get? name).isSome

def size (s : DetectionSet) : Nat := s.detections.length

def isEmpty (s : DetectionSet) : Bool := s.detections.isEmpty

/-! ## Changes of detections -/

def map (s : DetectionSet) (f : Detection → Detection) (keeps : ∀ d, (f d).name = d.name) :
    DetectionSet where
  detections := s.detections.map f
  places := s.places
  located := by
    have hnames : (s.detections.map f).map Detection.name = s.detections.map Detection.name := by
      simp [Function.comp_def, keeps]
    rw [hnames]
    exact s.located

def modifyAt (s : DetectionSet) (i : Nat) (f : Detection → Detection)
    (keeps : ∀ d, (f d).name = d.name) : DetectionSet where
  detections := s.detections.modify i f
  places := s.places
  located := by
    have hnames : (s.detections.modify i f).map Detection.name = s.detections.map Detection.name := by
      refine List.ext_getElem? fun j => ?_
      rw [List.getElem?_map, List.getElem?_map, List.getElem?_modify]
      cases s.detections[j]? with
      | none => rfl
      | some d => by_cases h : i = j <;> simp [h, keeps]
    rw [hnames]
    exact s.located

def setAt (s : DetectionSet) (i : Nat) (d : Detection) (own : s.places.get? d.name = some i) :
    DetectionSet where
  detections := s.detections.set i d
  places := s.places
  located := by
    have hnames : (s.detections.set i d).map Detection.name = s.detections.map Detection.name := by
      obtain ⟨hi, hname⟩ := List.getElem?_eq_some_iff.1 ((s.located d.name i).1 own)
      rw [List.map_set, ← hname, List.set_getElem_self]
    rw [hnames]
    exact s.located

def modify (s : DetectionSet) (name : String) (f : Detection → Detection)
    (keeps : ∀ d, (f d).name = d.name) : DetectionSet :=
  match s.places.get? name with
  | some i => s.modifyAt i f keeps
  | none => s

/-! ## New detections -/

def push (s : DetectionSet) (d : Detection) (new : s.places.get? d.name = none) :
    DetectionSet where
  detections := s.detections ++ [d]
  places := s.places.insert d.name s.size
  located := by
    have hconcat := s.located.concat new
    rw [List.length_map] at hconcat
    rw [List.map_append]
    exact hconcat

/-- Puts a detection at the end, unless its name is taken, and tells whether it did. -/
def insertNew (s : DetectionSet) (d : Detection) : DetectionSet × Bool :=
  match h : s.places.get? d.name with
  | some _ => (s, false)
  | none => (s.push d h, true)

def insert (s : DetectionSet) (d : Detection) : DetectionSet := (s.insertNew d).1

def replace (s : DetectionSet) (d : Detection) : DetectionSet :=
  match h : s.places.get? d.name with
  | some i => s.setAt i d h
  | none => s.push d h

def change (s : DetectionSet) (name : String) (create : Detection) (named : create.name = name)
    (f : Detection → Detection) (keeps : ∀ d, (f d).name = d.name) : DetectionSet :=
  match h : s.places.get? name with
  | some i => s.modifyAt i f keeps
  | none => (s.push create (named ▸ h)).modifyAt s.size f keeps

def appendEvidence (s : DetectionSet) (name : String) (e : Evidence) : DetectionSet :=
  s.modify name (fun d => { d with evidence := d.evidence ++ [e] }) fun _ => rfl

def addEvidence (s : DetectionSet) (create : Detection) (e : Evidence) : DetectionSet :=
  s.change create.name create rfl (fun d => { d with evidence := d.evidence ++ [e] }) fun _ => rfl

def toJson (s : DetectionSet) : Json.Value := .array (s.detections.map Detection.toJson)

end DetectionSet

end Webprint
