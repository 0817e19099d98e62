import Mathlib.Algebra.Order.BigOperators.Group.List
import Mathlib.Algebra.Order.Group.Nat
import Mathlib.Data.List.Nodup
import Webprint.Proofs.Ascending
import Webprint.Proofs.Steps
import Webprint.Rule.Compile

set_option autoImplicit false

/-!
# Fields of compiled definitions

What a signature holds for a field is what the field compiles to by itself. Under each folded key of a
keyed field stand the patterns that were written last under a key that folds to it, and of two keys
that fold alike the later one survives.
-/

namespace Webprint

open Json (Value)

/-! ## Entries by key -/

theorem mem_putEntry {e x : KeyedPatterns} {es : List KeyedPatterns} (h : (es.map (·.key)).Nodup) :
    x ∈ putEntry e es ↔ x = e ∨ x ∈ es ∧ x.key ≠ e.key := by
  induction es with
  | nil => simp [putEntry]
  | cons d es ih =>
    obtain ⟨hd, hes⟩ := List.nodup_cons.1 h
    unfold putEntry
    by_cases hk : d.key = e.key
    · -- no entry behind `d` has its key
      have hrest : ∀ y ∈ es, y.key ≠ e.key := by
        intro y hy heq
        exact hd (List.mem_map.2 ⟨y, hy, heq.trans hk.symm⟩)
      rw [if_pos hk, List.mem_cons]
      constructor
      · rintro (rfl | hx)
        · exact .inl rfl
        · exact .inr ⟨List.mem_cons_of_mem _ hx, hrest x hx⟩
      · rintro (rfl | ⟨hx, hne⟩)
        · exact .inl rfl
        · rcases List.mem_cons.1 hx with rfl | hx
          · exact absurd hk hne
          · exact .inr hx
    · rw [if_neg hk, List.mem_cons, ih hes]
      constructor
      · rintro (rfl | rfl | ⟨hx, hne⟩)
        · exact .inr ⟨by simp, hk⟩
        · exact .inl rfl
        · exact .inr ⟨by simp [hx], hne⟩
      · rintro (rfl | ⟨hx, hne⟩)
        · exact .inr (.inl rfl)
        · rcases List.mem_cons.1 hx with rfl | hx
          · exact .inl rfl
          · exact .inr (.inr ⟨hx, hne⟩)

theorem keys_putEntry (e : KeyedPatterns) (es : List KeyedPatterns) :
    (putEntry e es).map (·.key) =
      if e.key ∈ es.map (·.key) then es.map (·.key) else es.map (·.key) ++ [e.key] := by
  induction es with
  | nil => rfl
  | cons d es ih =>
    rw [putEntry, List.map_cons]
    by_cases hk : d.key = e.key
    · rw [if_pos hk, List.map_cons, ← hk, if_pos (List.mem_cons_self ..)]
    · rw [if_neg hk, List.map_cons, ih]
      by_cases hin : e.key ∈ es.map (·.key)
      · rw [if_pos hin, if_pos (List.mem_cons_of_mem _ hin)]
      · rw [if_neg hin, if_neg (by simpa [Ne.symm hk] using hin)]
        rfl

theorem nodup_putEntry (e : KeyedPatterns) {es : List KeyedPatterns}
    (h : (es.map (·.key)).Nodup) : ((putEntry e es).map (·.key)).Nodup := by
  rw [keys_putEntry]
  split_ifs with hin
  · exact h
  · rw [← List.concat_eq_append]
    exact h.concat hin

theorem length_le_patternCount {e : KeyedPatterns} {es : List KeyedPatterns} (h : e ∈ es) :
    e.patterns.length ≤ (Matcher.keyed es).patternCount := by
  have hsum : (Matcher.keyed es).patternCount = (es.map fun e => e.patterns.length).sum := by
    rw [Matcher.patternCount, List.sum_eq_foldl, List.foldl_map]
  rw [hsum]
  exact List.le_sum_of_mem (List.mem_map.2 ⟨e, h, rfl⟩)

def HoldsPatterns (v : Value) : Prop := ∃ raw raws, rawStrings? v = some (raw :: raws)

/-- A member of what is written for a keyed field that no later one with patterns overrides. -/
def Survives (f : Field) (members : List (String × Value)) (key : String) (v : Value) : Prop :=
  ∃ before after, members = before ++ (key, v) :: after ∧ HoldsPatterns v ∧
    ∀ m ∈ after, HoldsPatterns m.2 → foldKey f m.1 ≠ foldKey f key

theorem Survives.holds {f : Field} {members : List (String × Value)} {key : String} {v : Value}
    (h : Survives f members key v) : HoldsPatterns v := by
  obtain ⟨_, _, -, hv, -⟩ := h
  exact hv

theorem survives_nil {f : Field} {key : String} {v : Value} : ¬Survives f [] key v := by
  rintro ⟨before, after, h, -⟩
  simp at h

theorem survives_concat {f : Field} {members : List (String × Value)} {m : String × Value}
    {key : String} {v : Value} :
    Survives f (members ++ [m]) key v ↔
      m = (key, v) ∧ HoldsPatterns v ∨
        Survives f members key v ∧ (HoldsPatterns m.2 → foldKey f m.1 ≠ foldKey f key) := by
  constructor
  · rintro ⟨before, after, heq, hv, hafter⟩
    rcases List.eq_nil_or_concat after with rfl | ⟨after, last, rfl⟩
    · have hlast := List.append_inj' heq rfl
      exact .inl ⟨by simpa using hlast.2, hv⟩
    · rw [List.concat_eq_append, ← List.cons_append, ← List.append_assoc] at heq
      obtain ⟨hmembers, hlast⟩ := List.append_inj' heq rfl
      have hm : m = last := by simpa using hlast
      subst hm
      refine .inr ⟨⟨before, after, hmembers, hv, fun x hx => hafter x (by simp [hx])⟩, ?_⟩
      exact hafter m (by simp)
  · rintro (⟨rfl, hv⟩ | ⟨⟨before, after, rfl, hv, hafter⟩, hm⟩)
    · exact ⟨members, [], rfl, hv, by simp⟩
    · refine ⟨before, after ++ [m], by simp, hv, fun x hx => ?_⟩
      rcases List.mem_append.1 hx with hx | hx
      · exact hafter x hx
      · rw [List.mem_singleton.1 hx]
        exact hm

/-! ## What is written under keys -/

section Keyed

variable {technology : String} {f : Field}

theorem nonempty_of_compilePatterns {v : Value} {ps : List Pattern}
    (h : compilePatterns technology f v = .ok ps) : ps.isEmpty = false ↔ HoldsPatterns v := by
  unfold compilePatterns at h
  cases hraws : rawStrings? v with
  | none => simp [hraws] at h
  | some raws =>
    simp only [hraws] at h
    cases raws with
    | nil =>
      cases h
      simp [HoldsPatterns, hraws]
    | cons raw raws =>
      rw [List.mapM_cons] at h
      obtain ⟨p, -, h⟩ := ok_of_bind h
      obtain ⟨rest, -, h⟩ := ok_of_bind h
      cases h
      simp [HoldsPatterns, hraws]

theorem ofPatterns?_ok {key : String} {ps : List Pattern} {e : KeyedPatterns}
    (h : KeyedPatterns.ofPatterns? key ps = .ok e) : e.key = key ∧ e.patterns = ps := by
  unfold KeyedPatterns.ofPatterns? at h
  split at h
  · cases h
    exact ⟨rfl, rfl⟩
  · cases h

/-- A member without patterns changes nothing, any other one puts its entry. -/
theorem compileEntry_ok {es es' : List KeyedPatterns} {m : String × Value}
    (h : compileEntry technology f es m = .ok es') :
    ¬HoldsPatterns m.2 ∧ es' = es ∨
      ∃ e, HoldsPatterns m.2 ∧ e.key = foldKey f m.1 ∧
        compilePatterns technology f m.2 = .ok e.patterns ∧ es' = putEntry e es := by
  obtain ⟨ps, hps, h⟩ := ok_of_bind h
  have hholds := nonempty_of_compilePatterns hps
  by_cases hempty : ps.isEmpty
  · rw [if_pos hempty] at h
    cases h
    have hnone : ¬HoldsPatterns m.2 := by
      rw [← hholds, hempty]
      simp
    exact .inl ⟨hnone, rfl⟩
  · rw [if_neg hempty] at h
    cases hentry : KeyedPatterns.ofPatterns? (foldKey f m.1) ps with
    | error e =>
      rw [hentry] at h
      cases h
    | ok e =>
      rw [hentry] at h
      cases h
      obtain ⟨hkey, rfl⟩ := ofPatterns?_ok hentry
      exact .inr ⟨e, hholds.1 (by simpa using hempty), hkey, hps, rfl⟩

/-- The entries are those of the surviving members, one for each folded key. -/
structure Entered (technology : String) (f : Field) (members : List (String × Value))
    (es : List KeyedPatterns) : Prop where
  nodup : (es.map (·.key)).Nodup
  source : ∀ e ∈ es, ∃ key v, Survives f members key v ∧ e.key = foldKey f key ∧
    compilePatterns technology f v = .ok e.patterns
  entry : ∀ key v, Survives f members key v → ∃ e ∈ es, e.key = foldKey f key ∧
    compilePatterns technology f v = .ok e.patterns

theorem entered_nil : Entered technology f [] [] where
  nodup := List.nodup_nil
  source := by simp
  entry _ _ h := absurd h survives_nil

theorem Entered.concat {members : List (String × Value)} {es es' : List KeyedPatterns}
    (h : Entered technology f members es) {m : String × Value}
    (hm : compileEntry technology f es m = .ok es') :
    Entered technology f (members ++ [m]) es' := by
  rcases compileEntry_ok hm with ⟨hnone, rfl⟩ | ⟨e, hholds, hkey, hps, rfl⟩
  · refine ⟨h.nodup, fun e he => ?_, fun key v hv => ?_⟩
    · obtain ⟨key, v, hv, heq⟩ := h.source e he
      exact ⟨key, v, survives_concat.2 (.inr ⟨hv, fun hm => absurd hm hnone⟩), heq⟩
    · rcases survives_concat.1 hv with ⟨rfl, hholds⟩ | ⟨hv, -⟩
      · exact absurd hholds hnone
      · exact h.entry key v hv
  · refine ⟨nodup_putEntry e h.nodup, fun x hx => ?_, fun key v hv => ?_⟩
    · rcases (mem_putEntry h.nodup).1 hx with rfl | ⟨hx, hne⟩
      · exact ⟨m.1, m.2, survives_concat.2 (.inl ⟨rfl, hholds⟩), hkey, hps⟩
      · obtain ⟨key, v, hv, heq, hpatterns⟩ := h.source x hx
        have hother : foldKey f m.1 ≠ foldKey f key := by
          rw [← hkey, ← heq]
          exact hne.symm
        exact ⟨key, v, survives_concat.2 (.inr ⟨hv, fun _ => hother⟩), heq, hpatterns⟩
    · rcases survives_concat.1 hv with ⟨rfl, -⟩ | ⟨hv, hother⟩
      · exact ⟨e, (mem_putEntry h.nodup).2 (.inl rfl), hkey, hps⟩
      · obtain ⟨x, hx, heq, hpatterns⟩ := h.entry key v hv
        have hne : x.key ≠ e.key := by
          rw [heq, hkey]
          exact (hother hholds).symm
        exact ⟨x, (mem_putEntry h.nodup).2 (.inr ⟨hx, hne⟩), heq, hpatterns⟩

theorem entered_of_foldlM {members : List (String × Value)} {es : List KeyedPatterns}
    (h : members.foldlM (compileEntry technology f) [] = .ok es) :
    Entered technology f members es :=
  foldlM_invariant (P := Entered technology f) entered_nil
    (fun _ _ _ _ hentered hstep => hentered.concat hstep) h

end Keyed

/-! ## The matchers of a signature -/

theorem compileField_keyed {technology : String} {f : Field} (hshape : f.shape = .keyed) {v : Value}
    {m : Matcher} (h : compileField technology f v = .ok m) :
    ∃ members es, v = .object members ∧ m = .keyed es ∧
      members.foldlM (compileEntry technology f) [] = .ok es := by
  unfold compileField at h
  simp only [hshape] at h
  cases v with
  | object members =>
    obtain ⟨es, hes, rfl⟩ := ok_of_map h
    exact ⟨members, es, rfl, rfl, hes⟩
  | _ => cases h

theorem shape_of_compileField {technology : String} {f : Field} {v : Value} {m : Matcher}
    (h : compileField technology f v = .ok m) : m.shape = f.shape := by
  cases hshape : f.shape with
  | keyed =>
    obtain ⟨_, _, -, rfl, -⟩ := compileField_keyed hshape h
    rfl
  | scalar =>
    unfold compileField at h
    simp only [hshape] at h
    obtain ⟨_, -, rfl⟩ := ok_of_map h
    rfl
  | list =>
    unfold compileField at h
    simp only [hshape] at h
    obtain ⟨_, -, rfl⟩ := ok_of_map h
    rfl

/-- What a field of a definition compiles to by itself; none if it finds nothing. -/
def fieldMatcher? (technology : String) (d : Definition) (f : Field) :
    Except CompileError (Option Matcher) :=
  match d.fields.get? f with
  | none => .ok none
  | some v =>
    if isBlankValue v then .ok none
    else (compileField technology f v).map fun m => if m.isEmpty then none else some m

theorem addMatcher_ok {technology : String} {d : Definition} {ms ms' : SortedMap Field Matcher}
    {f : Field} (h : addMatcher technology d ms f = .ok ms') :
    ∃ o, fieldMatcher? technology d f = .ok o ∧
      ms' = match o with
        | none => ms
        | some m => ms.insert f m := by
  unfold addMatcher at h
  unfold fieldMatcher?
  cases hv : d.fields.get? f with
  | none =>
    simp only [hv] at h
    cases h
    exact ⟨none, rfl, rfl⟩
  | some v =>
    simp only [hv] at h
    by_cases hblank : isBlankValue v
    · rw [if_pos hblank] at h
      cases h
      exact ⟨none, if_pos hblank, rfl⟩
    · rw [if_neg hblank] at h
      obtain ⟨m, hm, h⟩ := ok_of_bind h
      cases h
      refine ⟨if m.isEmpty then none else some m, ?_, ?_⟩
      · simp only [hm, if_neg hblank]
        rfl
      · by_cases hempty : m.isEmpty <;> simp [hempty]

theorem get?_foldlM_addMatcher {technology : String} {d : Definition} {fs : List Field}
    {ms : SortedMap Field Matcher}
    (h : fs.foldlM (addMatcher technology d) SortedMap.empty = .ok ms) :
    (∀ f ∈ fs, fieldMatcher? technology d f = .ok (ms.get? f)) ∧
      ∀ f, f ∉ fs → ms.get? f = none := by
  refine foldlM_invariant (P := fun fs ms =>
    (∀ f ∈ fs, fieldMatcher? technology d f = .ok (ms.get? f)) ∧
      ∀ f, f ∉ fs → ms.get? f = none) ?_ ?_ h
  · exact ⟨by simp, fun _ _ => rfl⟩
  · rintro fs f ms ms' ⟨hin, hout⟩ hstep
    obtain ⟨o, ho, rfl⟩ := addMatcher_ok hstep
    cases o with
    | none =>
      -- an empty field adds nothing, and nothing was there for it before
      have hf : ms.get? f = none := by
        by_cases hf : f ∈ fs
        · have := hin f hf
          rw [ho] at this
          injection this with this
          exact this.symm
        · exact hout f hf
      refine ⟨fun g hg => ?_, fun g hg => hout g fun hg' => hg (by simp [hg'])⟩
      rcases List.mem_append.1 hg with hg | hg
      · exact hin g hg
      · rw [List.mem_singleton.1 hg, hf]
        exact ho
    | some m =>
      refine ⟨fun g hg => ?_, fun g hg => ?_⟩
      · by_cases hfg : f = g
        · subst hfg
          simpa using ho
        · have hg' : g ∈ fs := by simpa [Ne.symm hfg] using hg
          simpa [hfg] using hin g hg'
      · have hfg : f ≠ g := by
          rintro rfl
          simp at hg
        simpa [hfg] using hout g fun hg' => hg (by simp [hg'])

namespace Definition

variable {d : Definition} {technology : String} {names : CategoryNames} {sig : Signature}

theorem profile_of_compile (h : d.compile technology names = .ok sig) :
    sig.profile = d.profile technology names := by
  obtain ⟨_, -, h⟩ := ok_of_bind h
  obtain ⟨_, -, h⟩ := ok_of_bind h
  obtain ⟨_, -, h⟩ := ok_of_bind h
  cases h
  rfl

theorem name_of_compile (h : d.compile technology names = .ok sig) : sig.name = technology := by
  rw [Signature.name, profile_of_compile h]
  rfl

theorem get?_matchers (h : d.compile technology names = .ok sig) (f : Field) :
    fieldMatcher? technology d f = .ok (sig.matchers.get? f) := by
  obtain ⟨ms, hms, h⟩ := ok_of_bind h
  obtain ⟨_, -, h⟩ := ok_of_bind h
  obtain ⟨_, -, h⟩ := ok_of_bind h
  cases h
  have hall : f ∈ Field.all := by
    cases f <;> decide
  exact (get?_foldlM_addMatcher hms).1 f hall

theorem compiled_of_get? (h : d.compile technology names = .ok sig) {f : Field} {m : Matcher}
    (hm : sig.matchers.get? f = some m) :
    ∃ v, d.fields.get? f = some v ∧ compileField technology f v = .ok m ∧ m.isEmpty = false := by
  have hmatcher := get?_matchers h f
  rw [hm, fieldMatcher?] at hmatcher
  cases hv : d.fields.get? f with
  | none => simp [hv] at hmatcher
  | some v =>
    by_cases hblank : isBlankValue v
    · simp [hv, hblank] at hmatcher
    · simp only [hv, if_neg hblank] at hmatcher
      obtain ⟨compiled, hcompiled, hkept⟩ := ok_of_map hmatcher
      by_cases hempty : compiled.isEmpty
      · simp [hempty] at hkept
      · rw [if_neg hempty] at hkept
        cases hkept
        exact ⟨v, rfl, hcompiled, by simpa using hempty⟩

theorem entered_of_get? (h : d.compile technology names = .ok sig) {f : Field}
    (hshape : f.shape = .keyed) {m : Matcher} (hm : sig.matchers.get? f = some m) :
    ∃ members es, d.fields.get? f = some (.object members) ∧ m = .keyed es ∧
      Entered technology f members es := by
  obtain ⟨v, hv, hcompiled, -⟩ := compiled_of_get? h hm
  obtain ⟨members, es, rfl, rfl, hes⟩ := compileField_keyed hshape hcompiled
  exact ⟨members, es, hv, rfl, entered_of_foldlM hes⟩

theorem keyed_entries (h : d.compile technology names = .ok sig) {f : Field}
    (hshape : f.shape = .keyed) {members : List (String × Value)}
    (hv : d.fields.get? f = some (.object members)) {key : String} {v : Value}
    (hsurvives : Survives f members key v) :
    ∃ es, sig.matchers.get? f = some (.keyed es) ∧ Entered technology f members es := by
  have hmatcher := get?_matchers h f
  have hwritten : ¬isBlankValue (.object members) := by
    obtain ⟨before, after, rfl, -⟩ := hsurvives
    simp [isBlankValue]
  unfold fieldMatcher? at hmatcher
  simp only [hv] at hmatcher
  rw [if_neg hwritten] at hmatcher
  obtain ⟨m, hm, hmatcher⟩ := ok_of_map hmatcher
  obtain ⟨_, es, hobject, rfl, hes⟩ := compileField_keyed hshape hm
  cases hobject
  have hentered := entered_of_foldlM hes
  obtain ⟨e, he, -, hps⟩ := hentered.entry key v hsurvives
  have hcount : (Matcher.keyed es).isEmpty = false := by
    have hpatterns : e.patterns.length ≠ 0 := by
      have hholds := (nonempty_of_compilePatterns hps).2 hsurvives.holds
      simpa using hholds
    have hle := length_le_patternCount he
    simp only [Matcher.isEmpty, decide_eq_false_iff_not]
    omega
  rw [hcount] at hmatcher
  exact ⟨es, hmatcher.symm, hentered⟩

end Definition

end Webprint
