import Webprint.Catalogue
import Webprint.Proofs.Ascending

set_option autoImplicit false

/-!
# Signatures of a catalogue

A catalogue is its list of signatures: it is made again from them, and a name leads through the index
to the one signature in the list that has it.
-/

namespace Webprint.Catalogue

theorem ext {c d : Catalogue} (h : c.signatures = d.signatures) : c = d := by
  have hplaces : c.places = d.places := SortedMap.ext (by rw [c.places_eq, d.places_eq, h])
  have hrelations : c.hasRelations = d.hasRelations := by
    rw [c.hasRelations_eq, d.hasRelations_eq, h]
  cases c
  cases d
  cases h
  cases hplaces
  cases hrelations
  rfl

theorem signatures_foldl_insert (ss : List Signature) (c : Catalogue) :
    (ss.foldl insert c).signatures =
      ss.foldl (fun ts s => insertBy Signature.name s ts) c.signatures := by
  induction ss generalizing c with
  | nil => rfl
  | cons s ss ih => exact ih (c.insert s)

theorem ofSignatures_signatures (c : Catalogue) : ofSignatures c.signatures = c := by
  apply ext
  rw [ofSignatures, signatures_foldl_insert]
  exact foldl_insertBy_append [] c.signatures c.ascending

theorem names_nodup (c : Catalogue) : c.names.Nodup :=
  nodup_of_ascending c.ascending

theorem get?_places {c : Catalogue} {name : String} {i : Nat} :
    c.places.get? name = some i ↔ ∃ s, c.signatures[i]? = some s ∧ s.name = name := by
  rw [SortedMap.get?_eq_some, c.places_eq, placesOf, List.mem_map]
  constructor
  · rintro ⟨⟨s, j⟩, hs, heq⟩
    cases heq
    exact ⟨s, List.mk_mem_zipIdx_iff_getElem?.1 hs, rfl⟩
  · rintro ⟨s, hs, rfl⟩
    exact ⟨(s, i), List.mk_mem_zipIdx_iff_getElem?.2 hs, rfl⟩

@[simp] theorem get?_eq_some {c : Catalogue} {name : String} {s : Signature} :
    c.get? name = some s ↔ s ∈ c.signatures ∧ s.name = name := by
  rw [get?, Option.bind_eq_some_iff]
  constructor
  · rintro ⟨i, hi, hs⟩
    obtain ⟨t, ht, hname⟩ := get?_places.1 hi
    obtain rfl : t = s := Option.some.inj (ht.symm.trans hs)
    exact ⟨List.mem_of_getElem? hs, hname⟩
  · rintro ⟨hs, hname⟩
    obtain ⟨i, hi⟩ := List.getElem?_of_mem hs
    exact ⟨i, get?_places.2 ⟨s, hi, hname⟩, hi⟩

theorem get?_eq_find? (c : Catalogue) (name : String) :
    c.get? name = c.signatures.find? fun s => s.name = name := by
  ext s
  rw [get?_eq_some, find?_eq_some_iff_of_nodup c.names_nodup]

theorem eq_of_name {c : Catalogue} {s t : Signature} (hs : s ∈ c.signatures)
    (ht : t ∈ c.signatures) (h : s.name = t.name) : s = t :=
  List.inj_on_of_nodup_map c.names_nodup hs ht h

theorem get?_name {c : Catalogue} {s : Signature} (h : s ∈ c.signatures) :
    c.get? s.name = some s :=
  get?_eq_some.2 ⟨h, rfl⟩

theorem filter_name (c : Catalogue) (name : String) :
    (c.signatures.filter fun s => s.name = name) = (c.get? name).toList := by
  rw [get?_eq_find?]
  exact filter_eq_find?_of_nodup c.names_nodup name

@[simp] theorem get?_insert (c : Catalogue) (s : Signature) (name : String) :
    (c.insert s).get? name = if s.name = name then some s else c.get? name := by
  rw [get?_eq_find?, get?_eq_find?]
  exact find?_insertBy Signature.name s c.signatures name

/-- Of several inserted signatures with a name the last one is there, and without one what was there
before. -/
theorem get?_foldl_insert (ss : List Signature) (c : Catalogue) (name : String) :
    (ss.foldl insert c).get? name =
      ((ss.filter fun s => s.name = name).getLast?).or (c.get? name) := by
  induction ss generalizing c with
  | nil => rfl
  | cons s ss ih =>
    rw [List.foldl_cons, ih]
    by_cases h : s.name = name
    · simp [h, List.getLast?_cons, Option.or_some]
    · simp [h]

theorem get?_ofSignatures (ss : List Signature) (name : String) :
    (ofSignatures ss).get? name = (ss.filter fun s => s.name = name).getLast? := by
  rw [ofSignatures, get?_foldl_insert]
  exact Option.or_none

@[simp] theorem get?_ofSignatures_singleton (s : Signature) (name : String) :
    (ofSignatures [s]).get? name = if s.name = name then some s else none := by
  rw [get?_ofSignatures]
  by_cases h : s.name = name <;> simp [h]

@[simp] theorem get?_merge (c d : Catalogue) (name : String) :
    (c.merge d).get? name = (d.get? name).or (c.get? name) := by
  rw [merge, get?_foldl_insert, filter_name]
  cases d.get? name <;> rfl

theorem ext_get? {c d : Catalogue} (h : ∀ name, c.get? name = d.get? name) : c = d := by
  have hmem (s : Signature) : s ∈ c.signatures ↔ s ∈ d.signatures := by
    have hs : c.get? s.name = some s ↔ d.get? s.name = some s := by rw [h]
    simpa using hs
  exact ext (eq_of_ascending c.ascending d.ascending hmem)

theorem ofSignatures_perm {ss ts : List Signature} (hnames : (ss.map Signature.name).Nodup)
    (h : ss.Perm ts) : ofSignatures ss = ofSignatures ts := by
  refine ext_get? fun name => ?_
  -- at most one signature has the name, so nothing is left to be out of order
  have hfilter := h.filter fun s => s.name = name
  rw [filter_eq_find?_of_nodup hnames] at hfilter
  have hsame : (ss.find? fun s => s.name = name).toList = ts.filter fun s => s.name = name := by
    cases hfind : ss.find? fun s => s.name = name with
    | none => exact (hfind ▸ hfilter).nil_eq
    | some s => exact (hfind ▸ hfilter).singleton_eq
  rw [get?_ofSignatures, get?_ofSignatures, filter_eq_find?_of_nodup hnames, hsame]

end Webprint.Catalogue
