import Webprint.Proofs.Construction

set_option autoImplicit false

/-!
# Merging catalogues

Merging is a union in which the second catalogue wins. Catalogues are told apart by what their names
lead to, so the laws of the union hold for the lists, the indices and the flags as well: merging is
associative and idempotent, the empty catalogue is its unit, and lists of signatures that are put
together make the merged catalogue. The flag goes out once all relations are overridden.
-/

namespace Webprint.Catalogue

@[simp] theorem get?_empty (name : String) : empty.get? name = none := rfl

theorem merge_assoc (a b c : Catalogue) : (a.merge b).merge c = a.merge (b.merge c) := by
  refine ext_get? fun name => ?_
  simp [Option.or_assoc]

theorem merge_self (a : Catalogue) : a.merge a = a := by
  refine ext_get? fun name => ?_
  simp

theorem empty_merge (a : Catalogue) : empty.merge a = a := by
  refine ext_get? fun name => ?_
  simp

theorem merge_empty (a : Catalogue) : a.merge empty = a := by
  refine ext_get? fun name => ?_
  simp

/-- It is the same to insert signatures one after the other and to make two catalogues first. -/
theorem ofSignatures_append (ss ts : List Signature) :
    ofSignatures (ss ++ ts) = (ofSignatures ss).merge (ofSignatures ts) := by
  refine ext_get? fun name => ?_
  simp [get?_ofSignatures, List.getLast?_append]

theorem mem_signatures_merge {a b : Catalogue} {s : Signature} :
    s ∈ (a.merge b).signatures ↔
      s ∈ b.signatures ∨ s ∈ a.signatures ∧ ∀ t ∈ b.signatures, t.name ≠ s.name := by
  have hname (c : Catalogue) : s ∈ c.signatures ↔ c.get? s.name = some s := by
    simp
  rw [hname, hname b, hname a, get?_merge]
  cases hb : b.get? s.name with
  | none =>
    have hfree : ∀ t ∈ b.signatures, t.name ≠ s.name := by
      intro t ht heq
      have hfound := get?_eq_some.2 ⟨ht, heq⟩
      rw [hb] at hfound
      cases hfound
    simpa using fun _ => hfree
  | some t =>
    -- the name is taken, so nothing of `a` is left under it
    obtain ⟨ht, htname⟩ := get?_eq_some.1 hb
    have htaken : ¬ ∀ t ∈ b.signatures, t.name ≠ s.name := fun h => h t ht htname
    simp [htaken]

/-- The flag is out exactly if nothing of the second catalogue has relations and whatever of the first
has them is overridden. -/
theorem hasRelations_merge_eq_false (a b : Catalogue) :
    (a.merge b).hasRelations = false ↔ (∀ t ∈ b.signatures, t.hasRelations = false) ∧
      ∀ s ∈ a.signatures, s.hasRelations = true → ∃ t ∈ b.signatures, t.name = s.name := by
  have hflag : (a.merge b).hasRelations = false ↔
      ∀ s ∈ (a.merge b).signatures, s.hasRelations = false := by
    rw [hasRelations_eq, List.any_eq_false]
    simp
  rw [hflag]
  constructor
  · intro h
    refine ⟨fun t ht => h t (mem_signatures_merge.2 (.inl ht)), fun s hs hrelated => ?_⟩
    by_contra hkept
    push Not at hkept
    have hnone := h s (mem_signatures_merge.2 (.inr ⟨hs, hkept⟩))
    rw [hrelated] at hnone
    cases hnone
  · rintro ⟨hb, ha⟩ s hs
    rcases mem_signatures_merge.1 hs with hs | ⟨hs, hkept⟩
    · exact hb s hs
    · rw [Bool.eq_false_iff]
      intro hrelated
      obtain ⟨t, ht, hname⟩ := ha s hs hrelated
      exact hkept t ht hname

/-- Merging is a union in which the second catalogue wins: a name leads to what it leads to there, and
otherwise to what it leads to in the first. As catalogues, with their lists, indices and flags, merging
is associative and idempotent and has the empty catalogue as its unit on either side, and two lists
of signatures together, whatever names come again, make the merged catalogue of both. The flag goes out
exactly if the second catalogue has no relations and overrides every technology of the first that has
some. -/
theorem merge_union (a b c : Catalogue) (ss ts : List Signature) :
    (∀ name, (a.merge b).get? name = (b.get? name).or (a.get? name)) ∧
    (a.merge b).merge c = a.merge (b.merge c) ∧
    a.merge a = a ∧ empty.merge a = a ∧ a.merge empty = a ∧
    ofSignatures (ss ++ ts) = (ofSignatures ss).merge (ofSignatures ts) ∧
    ((a.merge b).hasRelations = false ↔ (∀ t ∈ b.signatures, t.hasRelations = false) ∧
      ∀ s ∈ a.signatures, s.hasRelations = true → ∃ t ∈ b.signatures, t.name = s.name) :=
  ⟨get?_merge a b, merge_assoc a b c, merge_self a, empty_merge a, merge_empty a,
    ofSignatures_append ss ts, hasRelations_merge_eq_false a b⟩

def bringing (name target : String) : Signature :=
  ⟨{ name, slug := slug name, icon := defaultIcon }, .empty, [⟨target, .standard⟩], []⟩

/-- The only relation is overridden by a definition without one, and the other technology stays. -/
theorem merge_union_overridden :
    let a := ofSignatures [bringing "Blog" "PHP", called "Shop" "shop"]
    let b := ofSignatures [called "Blog" "blog"]
    a.hasRelations = true ∧ (a.merge b).hasRelations = false ∧
      (a.merge b).get? "Blog" = some (called "Blog" "blog") ∧
      (a.merge b).get? "Shop" = some (called "Shop" "shop") := by
  intro a b
  obtain ⟨hget, -, -, -, -, -, hflag⟩ := merge_union a b empty [] []
  have hnone : ∀ t ∈ b.signatures, t.hasRelations = false := by decide
  refine ⟨by decide, hflag.2 ⟨hnone, by decide⟩, ?_, ?_⟩
  · rw [hget]
    rfl
  · rw [hget]
    rfl

end Webprint.Catalogue
