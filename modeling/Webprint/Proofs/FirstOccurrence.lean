import Mathlib.Data.List.Basic
import Mathlib.Data.List.Induction

set_option autoImplicit false

/-!
# First occurrences

The items of a list without repetitions, in the order in which they come up first. One more item goes
to the end if it is new and changes nothing otherwise.
-/

namespace Webprint

variable {α : Type} [DecidableEq α]

/-- The items of a list, each of them once, in the order in which they come up first. -/
structure ByFirstOccurrence (items as : List α) : Prop where
  nodup : items.Nodup
  mem_iff : ∀ a, a ∈ items ↔ a ∈ as
  order : items.Pairwise fun a b => as.idxOf a < as.idxOf b

theorem eraseDups_append_of_mem {as : List α} {a : α} (h : a ∈ as) :
    (as ++ [a]).eraseDups = as.eraseDups := by
  rw [List.eraseDups_append]
  simp [List.removeAll, h]

theorem eraseDups_append_of_not_mem {as : List α} {a : α} (h : a ∉ as) :
    (as ++ [a]).eraseDups = as.eraseDups ++ [a] := by
  rw [List.eraseDups_append]
  simp [List.removeAll, h, List.eraseDups_cons]

theorem pairwise_idxOf_eraseDups (as : List α) :
    as.eraseDups.Pairwise fun a b => as.idxOf a < as.idxOf b := by
  induction as using List.reverseRecOn with
  | nil => exact .nil
  | append_singleton as a ih =>
    have hold : ∀ b ∈ as.eraseDups, (as ++ [a]).idxOf b = as.idxOf b := fun b hb =>
      List.idxOf_append_of_mem (List.mem_eraseDups.1 hb)
    have hkept : as.eraseDups.Pairwise fun b c => (as ++ [a]).idxOf b < (as ++ [a]).idxOf c := by
      refine ih.imp_of_mem fun hb hc hlt => ?_
      rw [hold _ hb, hold _ hc]
      exact hlt
    by_cases h : a ∈ as
    · rw [eraseDups_append_of_mem h]
      exact hkept
    · rw [eraseDups_append_of_not_mem h]
      refine List.pairwise_append.2 ⟨hkept, List.pairwise_singleton _ _, fun b hb c hc => ?_⟩
      rw [List.mem_singleton.1 hc, hold b hb, List.idxOf_append_of_notMem h]
      exact Nat.lt_add_right _ (List.idxOf_lt_length_iff.2 (List.mem_eraseDups.1 hb))

theorem nodup_eraseDups (as : List α) : as.eraseDups.Nodup := by
  refine (pairwise_idxOf_eraseDups as).imp fun hlt heq => ?_
  rw [heq] at hlt
  exact Nat.lt_irrefl _ hlt

theorem byFirstOccurrence_eraseDups (as : List α) : ByFirstOccurrence as.eraseDups as where
  nodup := nodup_eraseDups as
  mem_iff _ := List.mem_eraseDups
  order := pairwise_idxOf_eraseDups as

theorem ByFirstOccurrence.unique {items others as : List α} (h : ByFirstOccurrence items as)
    (h' : ByFirstOccurrence others as) : items = others := by
  have hperm : items.Perm others := by
    rw [List.perm_ext_iff_of_nodup h.nodup h'.nodup]
    intro a
    rw [h.mem_iff, h'.mem_iff]
  exact hperm.eq_of_pairwise (fun a b _ _ hab hba => absurd hab (Nat.lt_asymm hba)) h.order h'.order

end Webprint
