import Webprint.Proofs.Blanks
import Webprint.Proofs.CompiledFields
import Webprint.Proofs.FirstOccurrence

set_option autoImplicit false

/-!
# The form of compiled signatures

A compiled signature has matchers of the right shapes that are not empty. In a keyed field stands one
entry for each folded key under which patterns are written, in the order in which these keys come up
first and with the patterns that were written last. Relations stand in their order, with targets that
are trimmed and not empty.
-/

namespace Webprint

open Json (Value)

/-! ## Trimmed text -/

namespace Text

theorem trimmed_trimmed (s : String) : trimmed (trimmed s) = trimmed s := by
  rw [trimmed, trimmed, String.toList_ofList, trim_trim]

end Text

/-! ## Patterns -/

theorem Pattern.ofSpec?_ok {spec : PatternSpec} {p : Pattern} (h : Pattern.ofSpec? spec = .ok p) :
    p.spec = spec := by
  unfold Pattern.ofSpec? at h
  split at h
  · cases h
    rfl
  · cases h

theorem spec_of_compilePattern {technology : String} {f : Field} {raw : String} {p : Pattern}
    (h : compilePattern technology f raw = .ok p) : p.spec = Pattern.parse raw := by
  unfold compilePattern at h
  split at h
  · rename_i hp
    cases h
    exact Pattern.ofSpec?_ok hp
  · cases h

theorem specs_of_mapM {technology : String} {f : Field} {raws : List String} {ps : List Pattern}
    (h : raws.mapM (compilePattern technology f) = .ok ps) :
    ps.map (·.spec) = raws.map Pattern.parse := by
  induction raws generalizing ps with
  | nil =>
    cases h
    rfl
  | cons raw raws ih =>
    rw [List.mapM_cons] at h
    obtain ⟨p, hp, h⟩ := ok_of_bind h
    obtain ⟨rest, hrest, h⟩ := ok_of_bind h
    cases h
    rw [List.map_cons, List.map_cons, ih hrest, spec_of_compilePattern hp]

theorem specs_of_compilePatterns {technology : String} {f : Field} {v : Value} {ps : List Pattern}
    (h : compilePatterns technology f v = .ok ps) :
    ∃ raws, rawStrings? v = some raws ∧ ps.map (·.spec) = raws.map Pattern.parse := by
  unfold compilePatterns at h
  cases hraws : rawStrings? v with
  | none => simp [hraws] at h
  | some raws =>
    simp only [hraws] at h
    exact ⟨raws, rfl, specs_of_mapM h⟩

theorem isSome_keyRegex (e : KeyedPatterns) :
    e.keyRegex.isSome = true ↔ ∃ p ∈ e.patterns, p.spec.keyRegex = true := by
  rw [← List.any_eq_true]
  have hcompiled := e.compiled
  unfold keyRegexFor at hcompiled
  by_cases hasks : e.patterns.any (·.spec.keyRegex) = true
  · rw [if_pos hasks] at hcompiled
    obtain ⟨r, -, hr⟩ := ok_of_map hcompiled
    rw [← hr]
    simp [hasks]
  · rw [if_neg hasks] at hcompiled
    injection hcompiled with hnone
    rw [← hnone]
    simp [hasks]

/-! ## Keys -/

instance : DecidablePred HoldsPatterns := fun v =>
  decidable_of_iff ((rawStrings? v).any (!·.isEmpty) = true) <| by
    unfold HoldsPatterns
    rcases rawStrings? v with - | ⟨- | ⟨raw, raws⟩⟩ <;> simp

def writtenKeys (f : Field) (members : List (String × Value)) : List String :=
  (members.filter fun m => HoldsPatterns m.2).map fun m => foldKey f m.1

theorem writtenKeys_append_of_holds {f : Field} {m : String × Value} (h : HoldsPatterns m.2)
    (members : List (String × Value)) :
    writtenKeys f (members ++ [m]) = writtenKeys f members ++ [foldKey f m.1] := by
  simp [writtenKeys, h]

theorem writtenKeys_append_of_not_holds {f : Field} {m : String × Value} (h : ¬HoldsPatterns m.2)
    (members : List (String × Value)) : writtenKeys f (members ++ [m]) = writtenKeys f members := by
  simp [writtenKeys, h]

/-- Members without patterns do not reserve a place, and a later entry does not move an earlier one
with its key. -/
theorem keys_of_foldlM {technology : String} {f : Field} {members : List (String × Value)}
    {es : List KeyedPatterns} (h : members.foldlM (compileEntry technology f) [] = .ok es) :
    es.map (·.key) = (writtenKeys f members).eraseDups := by
  refine foldlM_invariant (P := fun members es =>
    es.map (·.key) = (writtenKeys f members).eraseDups) rfl ?_ h
  intro members m es es' hkeys hstep
  rcases compileEntry_ok hstep with ⟨hnone, rfl⟩ | ⟨e, hholds, hkey, -, rfl⟩
  · rw [writtenKeys_append_of_not_holds hnone, hkeys]
  · rw [keys_putEntry, hkeys, writtenKeys_append_of_holds hholds, hkey]
    by_cases hin : foldKey f m.1 ∈ writtenKeys f members
    · rw [if_pos (List.mem_eraseDups.2 hin), eraseDups_append_of_mem hin]
    · rw [if_neg (mt List.mem_eraseDups.1 hin), eraseDups_append_of_not_mem hin]

structure KeyedForm (f : Field) (members : List (String × Value)) (es : List KeyedPatterns) :
    Prop where
  keys : ByFirstOccurrence (es.map (·.key)) (writtenKeys f members)
  patterns : ∀ e ∈ es, e.patterns ≠ [] ∧ ∃ key v raws, Survives f members key v ∧
    e.key = foldKey f key ∧ rawStrings? v = some raws ∧ e.patterns.map (·.spec) = raws.map Pattern.parse
  keyRegex : ∀ e ∈ es, (e.keyRegex.isSome = true ↔ ∃ p ∈ e.patterns, p.spec.keyRegex = true)

theorem keyedForm_of_foldlM {technology : String} {f : Field} {members : List (String × Value)}
    {es : List KeyedPatterns} (h : members.foldlM (compileEntry technology f) [] = .ok es) :
    KeyedForm f members es where
  keys := by
    rw [keys_of_foldlM h]
    exact byFirstOccurrence_eraseDups _
  patterns := by
    intro e he
    obtain ⟨key, v, hsurvives, hkey, hps⟩ := (entered_of_foldlM h).source e he
    obtain ⟨raws, hraws, hspecs⟩ := specs_of_compilePatterns hps
    have hnonempty := (nonempty_of_compilePatterns hps).2 hsurvives.holds
    exact ⟨by simpa using hnonempty, key, v, raws, hsurvives, hkey, hraws, hspecs⟩
  keyRegex e _ := isSome_keyRegex e

/-! ## Relations -/

def writtenRelation (raw : String) : Relation :=
  ⟨Text.trimmed (Pattern.parse raw).regex, (Pattern.parse raw).confidence⟩

def writtenRelations (v : Option Value) : List Relation :=
  (((v.bind rawStrings?).getD []).map writtenRelation).filter fun r => r.target ≠ ""

theorem filterMap_relationOf? (raws : List String) :
    raws.filterMap relationOf? = (raws.map writtenRelation).filter fun r => r.target ≠ "" := by
  induction raws with
  | nil => rfl
  | cons raw raws ih =>
    rw [List.map_cons, List.filterMap_cons, List.filter_cons, ih]
    by_cases h : Text.trimmed (Pattern.parse raw).regex = ""
    · simp [relationOf?, writtenRelation, h]
    · simp [relationOf?, writtenRelation, h]

theorem compileRelations_ok {technology : String} {part : Section} {v : Option Value}
    {rs : List Relation} (h : compileRelations technology part v = .ok rs) :
    rs = writtenRelations v := by
  cases v with
  | none =>
    cases h
    rfl
  | some v =>
    unfold compileRelations at h
    by_cases hblank : isBlankValue v
    · simp only [if_pos hblank] at h
      cases h
      -- the only string that a blank value can hold is the empty one
      cases v with
      | null => rfl
      | string s =>
        obtain rfl : s = "" := String.isEmpty_iff.1 hblank
        decide
      | array items =>
        obtain rfl : items = [] := List.isEmpty_iff.1 hblank
        rfl
      | object members => rfl
      | bool b => cases hblank
      | number n => cases hblank
    · simp only [if_neg hblank] at h
      cases hraws : rawStrings? v with
      | none => simp [hraws] at h
      | some raws =>
        simp only [hraws] at h
        cases h
        rw [filterMap_relationOf?, writtenRelations, Option.bind_some, hraws]
        rfl

theorem target_of_mem_writtenRelations {v : Option Value} {r : Relation}
    (h : r ∈ writtenRelations v) : r.target ≠ "" ∧ Text.trimmed r.target = r.target := by
  obtain ⟨hr, hne⟩ := List.mem_filter.1 h
  obtain ⟨raw, -, rfl⟩ := List.mem_map.1 hr
  exact ⟨of_decide_eq_true hne, Text.trimmed_trimmed _⟩

/-! ## Signatures -/

namespace Definition

variable {d : Definition} {technology : String} {names : CategoryNames} {sig : Signature}

theorem relations_of_compile (h : d.compile technology names = .ok sig) :
    sig.implies = writtenRelations d.implies ∧ sig.excludes = writtenRelations d.excludes := by
  obtain ⟨_, -, h⟩ := ok_of_bind h
  obtain ⟨implies, himplies, h⟩ := ok_of_bind h
  obtain ⟨excludes, hexcludes, h⟩ := ok_of_bind h
  cases h
  exact ⟨compileRelations_ok himplies, compileRelations_ok hexcludes⟩

/-- A compiled signature has under each field a matcher of the field's shape with at least one
pattern, under keyed fields the entries for the folded keys, and its relations in their order. -/
theorem compile_form (h : d.compile technology names = .ok sig) :
    (∀ f m, sig.matchers.get? f = some m → m.shape = f.shape ∧ 0 < m.patternCount) ∧
      (∀ f es, sig.matchers.get? f = some (.keyed es) →
        ∃ members, d.fields.get? f = some (.object members) ∧ KeyedForm f members es) ∧
      sig.implies = writtenRelations d.implies ∧ sig.excludes = writtenRelations d.excludes ∧
      ∀ r ∈ sig.implies ++ sig.excludes, r.target ≠ "" ∧ Text.trimmed r.target = r.target := by
  obtain ⟨himplies, hexcludes⟩ := relations_of_compile h
  refine ⟨fun f m hm => ?_, fun f es hes => ?_, himplies, hexcludes, fun r hr => ?_⟩
  · obtain ⟨v, -, hcompiled, hfull⟩ := compiled_of_get? h hm
    have hcount : m.patternCount ≠ 0 := of_decide_eq_false hfull
    exact ⟨shape_of_compileField hcompiled, Nat.pos_of_ne_zero hcount⟩
  · obtain ⟨v, hv, hcompiled, -⟩ := compiled_of_get? h hes
    obtain ⟨members, _, rfl, heq, hrun⟩ :=
      compileField_keyed (shape_of_compileField hcompiled).symm hcompiled
    cases heq
    exact ⟨members, hv, keyedForm_of_foldlM hrun⟩
  · rw [himplies, hexcludes] at hr
    rcases List.mem_append.1 hr with hr | hr
    · exact target_of_mem_writtenRelations hr
    · exact target_of_mem_writtenRelations hr

def crowded : Definition :=
  { fields := SortedMap.empty.insert .headers (.object
      [("X-B", .array []), ("X-A", .string "one"), ("x-b", .string "two\\;key_regex:1"),
        ("x-a", .null), ("X-a", .string "three")])
    implies := some (.array [.string " PHP \\;confidence:50", .string " ", .string "MySQL"]) }

theorem compile_form_crowded :
    ∃ sig es, crowded.compile "T" [] = .ok sig ∧ sig.matchers.get? .headers = some (.keyed es) ∧
      es.map (·.key) = ["x-a", "x-b"] ∧
      sig.implies = [⟨"PHP", .clamp 50⟩, ⟨"MySQL", .clamp 100⟩] := by
  obtain ⟨sig, hsig⟩ : ∃ sig, crowded.compile "T" [] = .ok sig :=
    exists_ok_of_isSome (by decide +kernel)
  obtain ⟨hshapes, hkeyed, himplies, -⟩ := compile_form hsig
  have hheaders : (crowded.compile "T" []).toOption.map
      (fun sig => (sig.matchers.get? .headers).isSome) = some true := by decide +kernel
  rw [hsig] at hheaders
  obtain ⟨m, hm⟩ := Option.isSome_iff_exists.1 (Option.some.inj hheaders)
  have hshape := (hshapes .headers m hm).1
  cases m with
  | scalar => cases hshape
  | list => cases hshape
  | keyed es =>
    obtain ⟨members, hmembers, hform⟩ := hkeyed .headers es hm
    cases hmembers
    have hwritten : ByFirstOccurrence ["x-a", "x-b"] ["x-a", "x-b", "x-a"] :=
      byFirstOccurrence_eraseDups ["x-a", "x-b", "x-a"]
    refine ⟨sig, es, hsig, hm, hform.keys.unique hwritten, ?_⟩
    rw [himplies]
    decide +kernel

end Definition

end Webprint
