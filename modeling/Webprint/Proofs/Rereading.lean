import Webprint.Proofs.JsonBytes
import Webprint.Proofs.Steps

set_option autoImplicit false

/-!
# Values that are read again

A value that was read once is read again from its own reading, as deep as it was read before. Its
text has this reading if its numbers come back from their texts.
-/

namespace Webprint.Json

/-! ## Values -/

theorem mem_put {α : Type} {key : String} {v : α} {kvs : List (String × α)} {e : String × α}
    (h : e ∈ put key v kvs) : e = (key, v) ∨ e ∈ kvs := by
  induction kvs with
  | nil => exact .inl (by simpa [put] using h)
  | cons kv kvs ih =>
    obtain ⟨k, w⟩ := kv
    unfold put at h
    split_ifs at h with hk
    · subst hk
      rcases List.mem_cons.1 h with h | h
      · exact .inl h
      · exact .inr (List.mem_cons_of_mem _ h)
    · rcases List.mem_cons.1 h with h | h
      · exact .inr (by simp [h])
      · exact (ih h).imp_right (List.mem_cons_of_mem _)

theorem put_of_not_mem {α : Type} {key : String} (a : α) {es : List (String × α)}
    (h : key ∉ es.map Prod.fst) : put key a es = es ++ [(key, a)] := by
  induction es with
  | nil => rfl
  | cons e es ih =>
    rw [List.map_cons, List.mem_cons, not_or] at h
    rw [put, if_neg (Ne.symm h.1), ih h.2, List.cons_append]

theorem foldl_put {α : Type} {es before : List (String × α)}
    (h : ((before ++ es).map Prod.fst).Nodup) :
    es.foldl (fun s e => put e.1 e.2 s) before = before ++ es := by
  induction es generalizing before with
  | nil => rw [List.foldl_nil, List.append_nil]
  | cons e es ih =>
    have hkey : e.1 ∉ before.map Prod.fst := by
      intro hin
      rw [List.map_append, List.nodup_append] at h
      exact h.2.2 e.1 hin e.1 (by simp) rfl
    rw [List.foldl_cons, put_of_not_mem e.2 hkey, ih (by simpa using h), List.append_assoc]
    rfl

namespace Decode

structure ReadAgain (depth : Nat) (kvs : List (String × Value)) : Prop where
  nodup : (kvs.map Prod.fst).Nodup
  again : ∀ e ∈ kvs, value depth (.ofValue e.2) = .ok e.2

theorem ReadAgain.put {depth : Nat} {kvs : List (String × Value)} (h : ReadAgain depth kvs)
    (key : String) {v : Value} (hv : value depth (.ofValue v) = .ok v) :
    ReadAgain depth (Json.put key v kvs) where
  nodup := nodup_put key v h.nodup
  again e he := by
    rcases mem_put he with rfl | he
    · exact hv
    · exact h.again e he

theorem valueMembers_ofValue {depth : Nat} {kvs : List (String × Value)}
    (h : ∀ e ∈ kvs, value depth (.ofValue e.2) = .ok e.2) (before : List (String × Value)) :
    valueMembers depth (readingsOfMembers kvs) before =
      .ok (kvs.foldl (fun s e => Json.put e.1 e.2 s) before) := by
  induction kvs generalizing before with
  | nil => rfl
  | cons e kvs ih =>
    obtain ⟨key, v⟩ := e
    rw [readingsOfMembers, valueMembers, h (key, v) (by simp), ok_bind,
      ih fun e he => h e (List.mem_cons_of_mem _ he)]
    rfl

theorem ReadAgain.members {depth : Nat} {kvs : List (String × Value)} (h : ReadAgain depth kvs) :
    valueMembers depth (readingsOfMembers kvs) [] = .ok kvs := by
  have hput : kvs.foldl (fun s e => Json.put e.1 e.2 s) [] = [] ++ kvs := foldl_put h.nodup
  rw [valueMembers_ofValue h.again, hput, List.nil_append]

mutual

theorem value_again : ∀ (r : Reading) (depth : Nat) (v : Value), value depth r = .ok v →
    value depth (.ofValue v) = .ok v
  | .null => by
    intro depth v h
    cases depth <;> cases h <;> rfl
  | .bool b => by
    intro depth v h
    cases depth <;> cases h <;> rfl
  | .number n => by
    intro depth v h
    cases depth <;> cases h <;> rfl
  | .string s => by
    intro depth v h
    cases depth <;> cases h <;> rfl
  | .senseless => by
    intro depth v h
    cases depth <;> cases h
  | .broken => by
    intro depth v h
    cases depth <;> cases h
  | .array rs closed => by
    intro depth v h
    cases depth with
    | zero => cases h
    | succ depth =>
      obtain ⟨vs, hvs, hdone⟩ := ok_of_bind h
      obtain rfl : .array vs = v := by
        cases closed <;> cases hdone
        rfl
      rw [Reading.ofValue, value, values_again rs depth vs hvs]
      rfl
  | .object ms closed => by
    intro depth v h
    cases depth with
    | zero => cases h
    | succ depth =>
      obtain ⟨kvs, hkvs, hdone⟩ := ok_of_bind h
      obtain rfl : .object kvs = v := by
        cases closed <;> cases hdone
        rfl
      have hall := valueMembers_again ms depth [] kvs ⟨by simp, by simp⟩ hkvs
      rw [Reading.ofValue, value, hall.members]
      rfl

theorem values_again : ∀ (rs : List Reading) (depth : Nat) (vs : List Value),
    values depth rs = .ok vs → values depth (readingsOfValues vs) = .ok vs
  | [] => by
    intro depth vs h
    cases h
    rfl
  | r :: rs => by
    intro depth vs h
    rw [values] at h
    obtain ⟨v, hv, h⟩ := ok_of_bind h
    obtain ⟨ws, hws, h⟩ := ok_of_bind h
    cases h
    rw [readingsOfValues, values, value_again r depth v hv, values_again rs depth ws hws]
    rfl

theorem valueMembers_again : ∀ (ms : List (Option String × Reading)) (depth : Nat)
    (kvs kvs' : List (String × Value)), ReadAgain depth kvs →
      valueMembers depth ms kvs = .ok kvs' → ReadAgain depth kvs'
  | [] => by
    intro depth kvs kvs' hkvs h
    cases h
    exact hkvs
  | (none, r) :: ms => by
    intro depth kvs kvs' _ h
    cases h
  | (some key, r) :: ms => by
    intro depth kvs kvs' hkvs h
    rw [valueMembers] at h
    obtain ⟨v, hv, h⟩ := ok_of_bind h
    exact valueMembers_again ms depth _ kvs' (hkvs.put key (value_again r depth v hv)) h

end

/-! ## Objects -/

variable {α σ : Type}

/-- What holds at the start and is kept by the step for each member holds once all are taken. -/
theorem foldMembers_invariant {step : σ → String → Reading → Except Fault σ} {P : σ → Prop}
    (hstep : ∀ s key r s', P s → step s key r = .ok s' → P s') {s s' : σ}
    {members : List (Option String × Reading)} (hs : P s)
    (h : foldMembers step s members = .ok s') : P s' := by
  induction members generalizing s with
  | nil =>
    cases h
    exact hs
  | cons m members ih =>
    obtain ⟨key, r⟩ := m
    cases key with
    | none => cases h
    | some key =>
      obtain ⟨t, ht, h⟩ := ok_of_bind h
      exact ih (hstep s key r t hs ht) h

theorem finish_eq_ok {closed : Bool} {a b : α} (h : finish closed a = .ok b) : a = b := by
  cases closed <;> cases h
  rfl

theorem object_invariant {step : Nat → σ → String → Reading → Except Fault σ} {start s : σ}
    {P : σ → Prop} {depth : Nat} {r : Reading} (hstart : P start)
    (hstep : ∀ s key r s', P s → step (depth - 1) s key r = .ok s' → P s')
    (h : object step start depth r = .ok s) : P s := by
  cases r with
  | object members closed =>
    cases depth with
    | zero => cases h
    | succ depth =>
      obtain ⟨t, ht, hdone⟩ := ok_of_bind h
      rw [← finish_eq_ok hdone]
      exact foldMembers_invariant hstep hstart ht
  | _ => cases depth <;> cases h

theorem record_invariant {names : List String} {step : Nat → σ → String → Reading → Except Fault σ}
    {start s : σ} {P : σ → Prop} {depth : Nat} {r : Reading} (hstart : P start)
    (hstep : ∀ s key r s', P s → step (depth - 1) s key r = .ok s' → P s')
    (h : record names step start depth r = .ok s) : P s := by
  cases r with
  | array rs closed =>
    cases depth with
    | zero => cases h
    | succ depth =>
      obtain ⟨t, ht, hdone⟩ := ok_of_bind h
      rw [← finish_eq_ok hdone]
      exact foldMembers_invariant hstep hstart ht
  | object members closed =>
    have hobject : object step start depth (.object members closed) = .ok s := by
      cases depth <;> exact h
    exact object_invariant hstart hstep hobject
  | _ => cases depth <;> cases h

theorem pairs_items {item : Decoder α} {depth : Nat} {r : Reading} {es : Entries α} {P : α → Prop}
    (hitem : ∀ r a, item (depth - 1) r = .ok a → P a) (h : pairs item depth r = .ok es) :
    ∀ e ∈ es.1, P e.2 := by
  refine object_invariant (P := fun es : Entries α => ∀ e ∈ es.1, P e.2) (by simp [Entries.empty])
    (fun s key r s' hs hstep => ?_) h
  obtain ⟨a, ha, rfl⟩ := ok_of_map hstep
  intro e he
  rcases mem_put he with rfl | he
  · exact hitem r a ha
  · exact hs e he

theorem pairs_ofValue {item : Decoder α} {form : α → Value} {depth : Nat} (es : Entries α)
    (h : ∀ e ∈ es.1, item depth (.ofValue (form e.2)) = .ok e.2) :
    pairs item (depth + 1) (.ofValue (.object (es.1.map fun e => (e.1, form e.2)))) = .ok es := by
  have hstep : ∀ s : Entries α, ∀ e ∈ es.1,
      (item depth (.ofValue (form e.2))).map (fun a => s.put e.1 a) = .ok (s.put e.1 e.2) := by
    intro s e he
    rw [h e he]
    rfl
  have hval (before : Entries α) (rest : List (String × α)) :
      (rest.foldl (fun s e => s.put e.1 e.2) before).1 =
        rest.foldl (fun s e => Json.put e.1 e.2 s) before.1 := by
    induction rest generalizing before with
    | nil => rfl
    | cons e rest ih => exact ih (before.put e.1 e.2)
  rw [pairs, object_ofValue, foldMembers_map es.1 Entries.empty hstep]
  exact congrArg _ (Subtype.ext ((hval .empty es.1).trans (foldl_put es.2)))

end Decode

/-! ## Numbers in values -/

mutual

def Value.numbers : Value → List Number
  | .number n => [n]
  | .array vs => numbersOfItems vs
  | .object ms => numbersOfMembers ms
  | _ => []

def numbersOfItems : List Value → List Number
  | [] => []
  | v :: rest => v.numbers ++ numbersOfItems rest

def numbersOfMembers : List (String × Value) → List Number
  | [] => []
  | (_, v) :: rest => v.numbers ++ numbersOfMembers rest

end

mutual

theorem Value.readable_of_numbers : ∀ v : Value,
    (∀ n ∈ v.numbers, n.ReadsBack) → v.Readable
  | .null => fun _ => .null
  | .bool b => fun _ => .bool b
  | .number n => fun h => .number (h n (by simp [Value.numbers]))
  | .string s => fun _ => .string s
  | .array vs => fun h => .array (readable_of_items vs h)
  | .object ms => fun h => .object (readable_of_members ms h)

theorem readable_of_items : ∀ vs : List Value,
    (∀ n ∈ numbersOfItems vs, n.ReadsBack) → ∀ v ∈ vs, v.Readable
  | [] => by simp
  | v :: vs => by
    intro h
    have hv := v.readable_of_numbers fun n hn => h n (List.mem_append_left _ hn)
    have hvs := readable_of_items vs fun n hn => h n (List.mem_append_right _ hn)
    exact List.forall_mem_cons.2 ⟨hv, hvs⟩

theorem readable_of_members : ∀ ms : List (String × Value),
    (∀ n ∈ numbersOfMembers ms, n.ReadsBack) → ∀ m ∈ ms, m.2.Readable
  | [] => by simp
  | (k, v) :: ms => by
    intro h
    have hv := v.readable_of_numbers fun n hn => h n (List.mem_append_left _ hn)
    have hms := readable_of_members ms fun n hn => h n (List.mem_append_right _ hn)
    exact List.forall_mem_cons.2 ⟨hv, hms⟩

end

end Webprint.Json
