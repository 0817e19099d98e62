import Webprint.Proofs.Ascending
import Webprint.Proofs.JsonText

set_option autoImplicit false

/-!
# Decoders that undo a form

A decoder undoes a form if it gives back each value from the form's reading. This is shown of the
decoders for texts, lists and maps, and reduced for records to their members.
-/

namespace Webprint.Json

variable {α β σ : Type}

/-- The decoder gives back every value, as long as it may enter so many levels. -/
def Undoes (item : Decoder α) (form : α → Value) (levels : Nat) : Prop :=
  ∀ depth, levels ≤ depth → ∀ a, item depth (.ofValue (form a)) = .ok a

theorem undoes_succ {item : Decoder α} {form : α → Value} {levels : Nat}
    (h : ∀ depth, levels ≤ depth → ∀ a, item (depth + 1) (.ofValue (form a)) = .ok a) :
    Undoes item form (levels + 1) := by
  intro depth hd a
  obtain ⟨n, rfl⟩ : ∃ n, depth = n + 1 := ⟨depth - 1, by omega⟩
  exact h n (by omega) a

namespace Decode

@[simp] theorem ok_bind {ε : Type} (a : α) (f : α → Except ε β) : (Except.ok a >>= f) = f a := rfl

@[simp] theorem map_ok {ε : Type} (a : α) (f : α → β) :
    (Except.ok a : Except ε α).map f = .ok (f a) := rfl

@[simp] theorem once_none (item : Decoder α) (depth : Nat) (r : Reading) :
    once none item depth r = (item depth r).map some := rfl

/-! ## Texts and lists -/

theorem text_undoes : Undoes text .string 0 := by
  intro depth _ s
  cases depth <;> rfl

theorem nullable_undoes {item : Decoder α} {form : α → Value} {levels : Nat}
    (h : Undoes item form levels) (hnull : ∀ a, form a ≠ .null) :
    Undoes (nullable item) (.ofOption form) levels := by
  intro depth hd a
  cases a with
  | none => cases depth <;> rfl
  | some a =>
    have ha := h depth hd a
    have hne := hnull a
    simp only [Value.ofOption]
    cases hform : form a <;> simp_all [nullable, Reading.ofValue]

theorem items_map {item : Decoder α} {form : α → Value} {depth : Nat} (as : List α)
    (h : ∀ a ∈ as, item depth (.ofValue (form a)) = .ok a) :
    items item depth (readingsOfValues (as.map form)) = .ok as := by
  induction as with
  | nil => rfl
  | cons a as ih =>
    have ha := h a (by simp)
    have has := ih fun b hb => h b (by simp [hb])
    simp only [List.map_cons, readingsOfValues, items, ha, has]
    rfl

theorem list_undoes {item : Decoder α} {form : α → Value} {levels : Nat}
    (h : Undoes item form levels) :
    Undoes (list item) (fun as => .array (as.map form)) (levels + 1) := by
  refine undoes_succ fun depth hd as => ?_
  have has := items_map as fun a _ => h depth hd a
  simp only [Reading.ofValue, list, has]
  rfl

/-! ## Objects -/

theorem readingsOfMembers_append (as bs : List (String × Value)) :
    readingsOfMembers (as ++ bs) = readingsOfMembers as ++ readingsOfMembers bs := by
  induction as with
  | nil => rfl
  | cons a as ih => simp [readingsOfMembers, ih]

theorem foldMembers_append (step : σ → String → Reading → Except Fault σ) (s : σ)
    (as bs : List (Option String × Reading)) :
    foldMembers step s (as ++ bs) =
      (foldMembers step s as).bind fun s => foldMembers step s bs := by
  induction as generalizing s with
  | nil => rfl
  | cons a as ih =>
    obtain ⟨k, r⟩ := a
    cases k with
    | none => rfl
    | some k =>
      simp only [List.cons_append, foldMembers]
      cases hstep : step s k r with
      | error e => rfl
      | ok t => exact ih t

theorem foldMembers_map {step : σ → String → Reading → Except Fault σ} {key : β → String}
    {form : β → Value} {next : σ → β → σ} (es : List β) (s : σ)
    (h : ∀ s, ∀ e ∈ es, step s (key e) (.ofValue (form e)) = .ok (next s e)) :
    foldMembers step s (readingsOfMembers (es.map fun e => (key e, form e))) =
      .ok (es.foldl next s) := by
  induction es generalizing s with
  | nil => rfl
  | cons e es ih =>
    have he := h s e (by simp)
    have hes := ih (next s e) fun s b hb => h s b (by simp [hb])
    simp only [List.map_cons, readingsOfMembers, foldMembers, he]
    exact hes

theorem object_ofValue (step : Nat → σ → String → Reading → Except Fault σ) (start : σ)
    (depth : Nat) (members : List (String × Value)) :
    object step start (depth + 1) (.ofValue (.object members)) =
      foldMembers (step depth) start (readingsOfMembers members) := by
  simp only [Reading.ofValue, object]
  cases foldMembers (step depth) start (readingsOfMembers members) <;> rfl

theorem record_ofValue (names : List String)
    (step : Nat → σ → String → Reading → Except Fault σ) (start : σ) (depth : Nat)
    (members : List (String × Value)) :
    record names step start (depth + 1) (.ofValue (.object members)) =
      foldMembers (step depth) start (readingsOfMembers members) :=
  object_ofValue step start depth members

theorem sortedMap_undoes {item : Decoder α} {form : α → Value} {levels : Nat}
    (h : Undoes item form levels) :
    Undoes (sortedMap item) (fun m => .object (m.entries.map fun e => (e.1, form e.2)))
      (levels + 1) := by
  refine undoes_succ fun depth hd m => ?_
  have hstep : ∀ n : SortedMap String α, ∀ e ∈ m.entries,
      (item depth (.ofValue (form e.2))).map (fun a => n.insert e.1 a) =
        .ok (n.insert e.1 e.2) := by
    intro n e _
    rw [h depth hd e.2]
    rfl
  rw [sortedMap, object_ofValue, foldMembers_map m.entries SortedMap.empty hstep,
    SortedMap.foldl_insert_entries]

end Decode

end Webprint.Json
