import Mathlib.Data.List.Induction

set_option autoImplicit false

/-!
# Steps that may fail

A computation of several steps succeeds if each of them does.
-/

namespace Webprint

variable {ε α β : Type}

theorem ok_of_bind {x : Except ε α} {f : α → Except ε β} {b : β} (h : (x >>= f) = .ok b) :
    ∃ a, x = .ok a ∧ f a = .ok b := by
  cases x with
  | error e => cases h
  | ok a => exact ⟨a, rfl, h⟩

theorem ok_of_map {x : Except ε α} {f : α → β} {b : β} (h : x.map f = .ok b) :
    ∃ a, x = .ok a ∧ f a = b := by
  cases x with
  | error e => cases h
  | ok a =>
    injection h with h
    exact ⟨a, rfl, h⟩

theorem ok_mapError_iff {ε' : Type} {x : Except ε α} {f : ε → ε'} {a : α} :
    x.mapError f = .ok a ↔ x = .ok a := by
  cases x <;> simp [Except.mapError]

theorem ok_of_toOption {x : Except ε α} {a : α} (h : x.toOption = some a) : x = .ok a := by
  cases x with
  | error e => cases h
  | ok b => exact congrArg _ (Option.some.inj h)

theorem exists_ok_of_isSome {x : Except ε α} (h : x.toOption.isSome = true) :
    ∃ a, x = .ok a := by
  obtain ⟨a, ha⟩ := Option.isSome_iff_exists.1 h
  exact ⟨a, ok_of_toOption ha⟩

/-- What holds at the start of a fold and is kept by its steps holds at its end, together with the
items that have been taken. -/
theorem foldlM_invariant {f : β → α → Except ε β} {b : β} {P : List α → β → Prop} (h0 : P [] b)
    (hstep : ∀ as a b b', P as b → f b a = .ok b' → P (as ++ [a]) b') {as : List α} {b' : β}
    (h : as.foldlM f b = .ok b') : P as b' := by
  induction as using List.reverseRecOn generalizing b' with
  | nil =>
    cases h
    exact h0
  | append_singleton as a ih =>
    rw [List.foldlM_append] at h
    obtain ⟨mid, hmid, hlast⟩ := ok_of_bind h
    have hone : f mid a = .ok b' := by
      obtain ⟨c, hc, hdone⟩ := ok_of_bind hlast
      cases hdone
      exact hc
    exact hstep as a mid b' (ih hmid) hone

/-! ## Errors -/

def error? : Except ε α → Option ε
  | .ok _ => none
  | .error e => some e

@[simp] theorem error?_eq_some {x : Except ε α} {e : ε} : error? x = some e ↔ x = .error e := by
  cases x <;> simp [error?]

@[simp] theorem error?_map (x : Except ε α) (f : α → β) : error? (x.map f) = error? x := by
  cases x <;> rfl

theorem error?_bind {x : Except ε α} {f : α → Except ε β} {o : Option ε}
    (h : ∀ a, x = .ok a → error? (f a) = o) : error? (x >>= f) = (error? x).or o := by
  cases x with
  | error e => rfl
  | ok a => exact h a rfl

theorem error?_mapM (f : α → Except ε β) (as : List α) :
    error? (as.mapM f) = as.findSome? fun a => error? (f a) := by
  induction as with
  | nil => rfl
  | cons a as ih =>
    rw [List.mapM_cons, List.findSome?_cons, error?_bind fun b _ => ?_]
    · cases error? (f a) <;> rfl
    · rw [error?_bind (o := none) fun _ _ => rfl, ih, Option.or_none]

/-- A fold whose steps fail with the item, whatever they start from, ends with the first error. -/
theorem error?_foldlM {f : β → α → Except ε β} {g : α → Option ε}
    (h : ∀ b a, error? (f b a) = g a) (as : List α) (b : β) :
    error? (as.foldlM f b) = as.findSome? g := by
  induction as generalizing b with
  | nil => rfl
  | cons a as ih =>
    rw [List.foldlM_cons, List.findSome?_cons, error?_bind fun b' _ => ih b', h]
    cases g a <;> rfl

end Webprint
