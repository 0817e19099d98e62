import Mathlib.Data.List.Dedup
import Webprint.Proofs.CatalogueForm
import Webprint.Proofs.Compilation
import Webprint.Proofs.Utf8

set_option autoImplicit false

/-!
# The ways to a catalogue

A catalogue is compiled, put together from signatures, merged or decoded. In each of these ways some
signatures go into it, one after the other, and of those with one name the last one stays. Its list,
its index and its flag agree however it was made.
-/

namespace Webprint

namespace Catalogue

/-- How a catalogue may come about, with the signatures that went into it in the order in which they
did. -/
inductive Arises : Catalogue → List Signature → Prop where
  | compiled {d : RuleDocument} {mode : CompileMode} {hook : Hook} {c : Catalogue}
    (h : d.compile mode hook = .ok c) : Arises c (d.compiled hook)
  | ofSignatures (ss : List Signature) : Arises (.ofSignatures ss) ss
  | merged {c d : Catalogue} {ss ts : List Signature} (hc : Arises c ss) (hd : Arises d ts) :
    Arises (c.merge d) (ss ++ ts)
  | decoded {depth : Nat} {r : Json.Reading} {byKey : SortedMap String Signature} {c : Catalogue}
    (hmap : Json.Decode.sortedMap Json.Decode.signature depth r = .ok byKey)
    (h : Json.Decode.catalogue depth r = .ok c) : Arises c byKey.values

theorem of_compile {d : RuleDocument} {mode : CompileMode} {hook : Hook} {c : Catalogue}
    (h : d.compile mode hook = .ok c) : c = ofSignatures (d.compiled hook) := by
  cases mode with
  | strict => exact (RuleDocument.compile_strict_ok.1 h).2.symm
  | skipInvalid =>
    rw [RuleDocument.compile_skipInvalid] at h
    exact (Except.ok.inj h).symm

theorem of_decode {depth : Nat} {r : Json.Reading} {byKey : SortedMap String Signature}
    (hmap : Json.Decode.sortedMap Json.Decode.signature depth r = .ok byKey) :
    Json.Decode.catalogue depth r = .ok (ofSignatures byKey.values) := by
  rw [Json.Decode.catalogue, hmap]
  rfl

theorem Arises.get? {c : Catalogue} {ss : List Signature} (h : Arises c ss) (name : String) :
    c.get? name = (ss.filter fun s => s.name = name).getLast? := by
  induction h with
  | compiled h => rw [of_compile h, get?_ofSignatures]
  | ofSignatures ss => exact get?_ofSignatures ss name
  | merged _ _ hc hd => rw [get?_merge, hc, hd, List.filter_append, List.getLast?_append]
  | decoded hmap h =>
    rw [of_decode hmap] at h
    rw [← Except.ok.inj h, get?_ofSignatures]

theorem Arises.mem_names {c : Catalogue} {ss : List Signature} (h : Arises c ss) (name : String) :
    name ∈ c.names ↔ name ∈ ss.map Signature.name := by
  have hname : name ∈ c.names ↔ ∃ s, c.get? name = some s := by
    simp only [names, List.mem_map, get?_eq_some]
  rw [hname, h.get?, ← Option.isSome_iff_exists, Option.isSome_iff_ne_none, Ne,
    List.getLast?_eq_none_iff, List.filter_eq_nil_iff]
  simp

theorem Arises.size {c : Catalogue} {ss : List Signature} (h : Arises c ss) :
    c.size = (ss.map Signature.name).dedup.length := by
  have hperm : c.names.Perm (ss.map Signature.name).dedup := by
    rw [List.perm_ext_iff_of_nodup c.names_nodup (List.nodup_dedup _)]
    intro name
    rw [List.mem_dedup, h.mem_names]
  rw [← hperm.length_eq, names, List.length_map]
  rfl

theorem hasRelations_iff (c : Catalogue) :
    c.hasRelations = true ↔ ∃ s ∈ c.signatures, s.implies ≠ [] ∨ s.excludes ≠ [] := by
  simp [c.hasRelations_eq, Signature.hasRelations]

theorem ascending_bytes (c : Catalogue) :
    c.signatures.Pairwise fun s t => Text.utf8Bytes s.name < Text.utf8Bytes t.name :=
  c.ascending.imp Text.utf8Bytes_lt

/-- Of the signatures in a map that have one name, the one under the greatest key stays. -/
theorem get?_ofSignatures_values (byKey : SortedMap String Signature)
    (name : String) (s : Signature) :
    (ofSignatures byKey.values).get? name = some s ↔
      ∃ key, byKey.get? key = some s ∧ s.name = name ∧
        ∀ key' t, byKey.get? key' = some t → t.name = name →
          key' = key ∨ Text.utf8Bytes key' < Text.utf8Bytes key := by
  rw [get?_ofSignatures, SortedMap.getLast?_values_filter]
  simp [Text.utf8Bytes_lt_iff]

/-- However a catalogue came about, its names ascend in the order of their bytes; a name leads to the
signature in the list that has it, by a place within the list, and if no signature has it then
nowhere; there are as many signatures as different names went in; and the flag tells whether any of
them has relations. What a name leads to is the last signature with it that went in. From a JSON map
that is the one under the greatest key, whatever the keys are. -/
theorem arises_coherent {c : Catalogue} {ss : List Signature} (h : Arises c ss) :
    (c.signatures.Pairwise fun s t => Text.utf8Bytes s.name < Text.utf8Bytes t.name) ∧
    (∀ name i, c.places.get? name = some i ↔ ∃ s, c.signatures[i]? = some s ∧ s.name = name) ∧
    (∀ name s, c.get? name = some s ↔ s ∈ c.signatures ∧ s.name = name) ∧
    (∀ name, c.get? name = (ss.filter fun s => s.name = name).getLast?) ∧
    c.size = (ss.map Signature.name).dedup.length ∧
    (c.hasRelations = true ↔ ∃ s ∈ c.signatures, s.implies ≠ [] ∨ s.excludes ≠ []) ∧
    ∀ depth r byKey, Json.Decode.sortedMap Json.Decode.signature depth r = .ok byKey →
      ∃ d, Json.Decode.catalogue depth r = .ok d ∧ Arises d byKey.values ∧
        ∀ name s, d.get? name = some s ↔ ∃ key, byKey.get? key = some s ∧ s.name = name ∧
          ∀ key' t, byKey.get? key' = some t → t.name = name →
            key' = key ∨ Text.utf8Bytes key' < Text.utf8Bytes key := by
  refine ⟨c.ascending_bytes, fun _ _ => get?_places, fun _ _ => get?_eq_some, h.get?, h.size,
    c.hasRelations_iff, fun depth r byKey hmap => ?_⟩
  have hdecode := of_decode hmap
  exact ⟨_, hdecode, .decoded hmap hdecode, get?_ofSignatures_values byKey⟩

def called (name slug : String) : Signature :=
  ⟨{ name, slug, icon := defaultIcon }, .empty, [], []⟩

/-- Two signatures with one name under keys that are not their name. -/
def misfiled : SortedMap String Signature :=
  .ofList [("b", called "X" "kept"), ("a", called "X" "replaced")]

theorem arises_coherent_misfiled :
    ∃ c, Json.Decode.catalogue Json.maxDepth
        (.ofValue (.object (misfiled.entries.map fun e => (e.1, e.2.toJson)))) = .ok c ∧
      c.get? "X" = some (called "X" "kept") ∧
      ((ofSignatures [called "Y" "y"]).merge c).size = 2 := by
  have hmap := Json.Decode.sortedMap_undoes Json.Decode.signature_undoes Json.maxDepth (by decide)
    misfiled
  have hdecode := of_decode hmap
  have harises : Arises _ _ := .decoded hmap hdecode
  obtain ⟨-, -, -, hget, -⟩ := arises_coherent harises
  obtain ⟨-, -, -, -, hsize, -⟩ := arises_coherent (.merged (.ofSignatures [called "Y" "y"]) harises)
  refine ⟨_, hdecode, ?_, ?_⟩
  · rw [hget]
    rfl
  · rw [hsize]
    decide

end Catalogue

end Webprint
