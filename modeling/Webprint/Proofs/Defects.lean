import Webprint.Proofs.SignatureForm

set_option autoImplicit false

/-!
# Defects of definitions

What can be wrong with a definition, and where. A definition compiles unless it has a defect, and
the error that is reported is that of the first one: fields come in their order and then relations,
members of a keyed field in the order of the text, and under each key the patterns before the key
itself.
-/

namespace Webprint

open Json (Value)

/-! ## Written values -/

def IsStrings (v : Value) : Prop :=
  (∃ s, v = .string s) ∨ ∃ ss : List String, v = .array (ss.map .string)

theorem mapM_asString?_eq_some {items : List Value} {ss : List String} :
    items.mapM asString? = some ss ↔ items = ss.map .string := by
  induction items generalizing ss with
  | nil => cases ss <;> simp
  | cons v items ih =>
    rw [List.mapM_cons]
    cases ss with
    | nil => simp [Option.bind_eq_some_iff]
    | cons s ss => cases v <;> simp [asString?, Option.bind_eq_some_iff, ih, and_left_comm]

theorem rawStrings?_eq_none {v : Value} : rawStrings? v = none ↔ v ≠ .null ∧ ¬IsStrings v := by
  cases v with
  | array items =>
    have hstrings : (∃ ss, items.mapM asString? = some ss) ↔ IsStrings (.array items) := by
      simp [mapM_asString?_eq_some, IsStrings]
    simp [rawStrings?, ← hstrings, Option.eq_none_iff_forall_ne_some]
  | _ => simp [rawStrings?, IsStrings]

theorem rawStrings?_eq_none_of_not_blank {v : Value} (h : isBlankValue v = false) :
    rawStrings? v = none ↔ ¬IsStrings v := by
  rw [rawStrings?_eq_none, and_iff_right]
  rintro rfl
  cases h

/-! ## Parts of a definition -/

namespace Section

def all : List Section := Field.all.map .field ++ [.implies, .excludes]

def rank : Section → Nat
  | .field f => f.rank
  | .implies => Field.all.length
  | .excludes => Field.all.length + 1

def isKeyed : Section → Bool
  | .field f => f.shape = .keyed
  | _ => false

theorem mem_all (part : Section) : part ∈ all := by
  rcases part with (f | - | -)
  · cases f <;> decide
  · decide
  · decide

theorem ascending_all : all.Pairwise fun a b => a.rank < b.rank := by decide

end Section

namespace Definition

def written? (d : Definition) : Section → Option Value
  | .field f => d.fields.get? f
  | .implies => d.implies
  | .excludes => d.excludes

/-- What is written in a part, unless it is blank. -/
def declared? (d : Definition) (part : Section) : Option Value :=
  (d.written? part).filter fun v => !isBlankValue v

theorem not_blank_of_declared {d : Definition} {part : Section} {v : Value}
    (h : d.declared? part = some v) : isBlankValue v = false := by
  have hkept := (Option.filter_eq_some_iff.1 h).2
  simpa using hkept

/-! ## Defects -/

/-- A place in a definition: a part, and a path of positions within it. -/
structure Place where
  part : Section
  path : List Nat

def Place.Before (a b : Place) : Prop :=
  a.part.rank < b.part.rank ∨ a.part = b.part ∧ a.path < b.path

/-- What is wrong at a place of the definition of a technology, as the error that says so. A path
has the position of a pattern, or in a keyed field that of a member and then that of a pattern, with
the key itself behind its patterns. -/
inductive Defect (technology : String) (d : Definition) : Place → CompileError → Prop
  | strings {part v} (hv : d.declared? part = some v) (hshape : part.isKeyed = false)
      (h : ¬IsStrings v) :
      Defect technology d ⟨part, []⟩ (.unexpectedShape technology part .strings)
  | map {f v} (hv : d.declared? (.field f) = some v) (hshape : f.shape = .keyed)
      (h : ∀ members, v ≠ .object members) :
      Defect technology d ⟨.field f, []⟩ (.unexpectedShape technology (.field f) .map)
  | pattern {f v raws i raw fault} (hv : d.declared? (.field f) = some v)
      (hshape : f.shape ≠ .keyed) (hraws : rawStrings? v = some raws) (hraw : raws[i]? = some raw)
      (h : Regex.ofString? (Pattern.parse raw).regex = .error fault) :
      Defect technology d ⟨.field f, [i]⟩ (.invalidPattern technology f raw fault)
  | memberStrings {f members i key v} (hv : d.declared? (.field f) = some (.object members))
      (hshape : f.shape = .keyed) (hm : members[i]? = some (key, v)) (hnull : v ≠ .null)
      (h : ¬IsStrings v) :
      Defect technology d ⟨.field f, [i]⟩ (.unexpectedShape technology (.field f) .strings)
  | memberPattern {f members i key v raws j raw fault}
      (hv : d.declared? (.field f) = some (.object members)) (hshape : f.shape = .keyed)
      (hm : members[i]? = some (key, v)) (hraws : rawStrings? v = some raws)
      (hraw : raws[j]? = some raw)
      (h : Regex.ofString? (Pattern.parse raw).regex = .error fault) :
      Defect technology d ⟨.field f, [i, j]⟩ (.invalidPattern technology f raw fault)
  | memberKey {f members i key v raws fault}
      (hv : d.declared? (.field f) = some (.object members)) (hshape : f.shape = .keyed)
      (hm : members[i]? = some (key, v)) (hraws : rawStrings? v = some raws)
      (hasks : ∃ raw ∈ raws, (Pattern.parse raw).keyRegex = true)
      (h : Regex.ofString? (foldKey f key) = .error fault) :
      Defect technology d ⟨.field f, [i, raws.length]⟩
        (.invalidPattern technology f (foldKey f key) fault)

end Definition

/-! ## Errors with their paths -/

section Errors

variable (technology : String) (f : Field)

def patternError? (raw : String) : Option CompileError :=
  (error? (Regex.ofString? (Pattern.parse raw).regex)).map (.invalidPattern technology f raw)

def patternErrors (raws : List String) : List (List Nat × CompileError) :=
  numbered raws fun raw => (patternError? technology f raw).toList.map ([], ·)

/-- The error of a folded key, if one of the strings under it asks for an expression. -/
def keyError? (key : String) (raws : List String) : Option CompileError :=
  if raws.any fun raw => (Pattern.parse raw).keyRegex then
    (error? (Regex.ofString? key)).map (.invalidPattern technology f key)
  else none

def stringsErrors (part : Section) (v : Value)
    (errors : List String → List (List Nat × CompileError)) : List (List Nat × CompileError) :=
  match rawStrings? v with
  | none => [([], .unexpectedShape technology part .strings)]
  | some raws => errors raws

def memberErrors (m : String × Value) : List (List Nat × CompileError) :=
  stringsErrors technology (.field f) m.2 fun raws => patternErrors technology f raws ++
    (keyError? technology f (foldKey f m.1) raws).toList.map ([raws.length], ·)

def fieldErrors (v : Value) : List (List Nat × CompileError) :=
  if f.shape = .keyed then
    match v with
    | .object members => numbered members (memberErrors technology f)
    | _ => [([], .unexpectedShape technology (.field f) .map)]
  else stringsErrors technology (.field f) v (patternErrors technology f)

def partErrors : Section → Value → List (List Nat × CompileError)
  | .field f, v => fieldErrors technology f v
  | part, v => stringsErrors technology part v fun _ => []

def Definition.located (d : Definition) : List (Definition.Place × CompileError) :=
  Section.all.flatMap fun part => (d.declared? part).toList.flatMap fun v =>
    (partErrors technology part v).map fun x => (⟨part, x.1⟩, x.2)

end Errors

variable {technology : String} {f : Field}

theorem fieldErrors_of_not_keyed (h : f.shape ≠ .keyed) (v : Value) :
    fieldErrors technology f v =
      stringsErrors technology (.field f) v (patternErrors technology f) := if_neg h

theorem fieldErrors_object (h : f.shape = .keyed) (members : List (String × Value)) :
    fieldErrors technology f (.object members) = numbered members (memberErrors technology f) :=
  if_pos h

theorem fieldErrors_of_not_object (h : f.shape = .keyed) {v : Value}
    (hv : ∀ members, v ≠ .object members) :
    fieldErrors technology f v = [([], .unexpectedShape technology (.field f) .map)] := by
  unfold fieldErrors
  rw [if_pos h]
  cases v with
  | object members => exact absurd rfl (hv members)
  | _ => rfl

/-! ## The error that is reported -/

theorem error?_ofSpec? (spec : PatternSpec) :
    error? (Pattern.ofSpec? spec) = error? (Regex.ofString? spec.regex) := by
  unfold Pattern.ofSpec?
  split <;> rename_i h <;> simp [h, error?]

theorem error?_compilePattern (raw : String) :
    error? (compilePattern technology f raw) = patternError? technology f raw := by
  unfold compilePattern patternError?
  rw [← error?_ofSpec?]
  cases Pattern.ofSpec? (Pattern.parse raw) <;> rfl

theorem error?_compilePatterns (v : Value) :
    error? (compilePatterns technology f v) =
      (stringsErrors technology (.field f) v (patternErrors technology f)).head?.map Prod.snd := by
  unfold compilePatterns stringsErrors
  cases rawStrings? v with
  | none => rfl
  | some raws =>
    simp only [error?_mapM, error?_compilePattern, patternErrors, head?_numbered]
    congr 1
    funext raw
    cases patternError? technology f raw <;> rfl

theorem error?_ofPatterns? (key : String) (ps : List Pattern) :
    error? (KeyedPatterns.ofPatterns? key ps) =
      if ps.any (·.spec.keyRegex) then error? (Regex.ofString? key) else none := by
  have hkeyRegex : error? (KeyedPatterns.ofPatterns? key ps) = error? (keyRegexFor key ps) := by
    unfold KeyedPatterns.ofPatterns?
    split <;> rename_i h <;> simp [h, error?]
  rw [hkeyRegex, keyRegexFor]
  split
  · exact error?_map ..
  · rfl

/-- Once its patterns are compiled, an entry can only fail for its key. -/
theorem map_error?_ofPatterns? {raws : List String} {ps : List Pattern}
    (h : ps.map (·.spec) = raws.map Pattern.parse) (key : String) :
    (error? (KeyedPatterns.ofPatterns? key ps)).map (.invalidPattern technology f key) =
      keyError? technology f key raws := by
  have hasks : ps.any (·.spec.keyRegex) = raws.any fun raw => (Pattern.parse raw).keyRegex := by
    have hany := congrArg (List.any · (·.keyRegex)) h
    simpa only [List.any_map, Function.comp_def] using hany
  rw [error?_ofPatterns?, hasks, keyError?]
  split <;> rfl

theorem error?_compileEntry (es : List KeyedPatterns) (m : String × Value) :
    error? (compileEntry technology f es m) =
      (memberErrors technology f m).head?.map Prod.snd := by
  cases hraws : rawStrings? m.2 with
  | none =>
    simp only [compileEntry, compilePatterns, memberErrors, stringsErrors, hraws]
    rfl
  | some raws =>
    rw [compileEntry, error?_bind (o := keyError? technology f (foldKey f m.1) raws) ?_,
      error?_compilePatterns]
    · simp only [memberErrors, stringsErrors, hraws, List.head?_append, Option.map_or,
        List.head?_map, Option.map_map]
      cases keyError? technology f (foldKey f m.1) raws <;> rfl
    · -- the compiled patterns ask for an expression if the strings do
      intro ps hps
      obtain ⟨raws', hraws', hspecs⟩ := specs_of_compilePatterns hps
      obtain rfl : raws = raws' := Option.some.inj (hraws.symm.trans hraws')
      rw [← map_error?_ofPatterns? hspecs]
      cases ps with
      | nil => rfl
      | cons p ps =>
        simp only [List.isEmpty_cons]
        cases KeyedPatterns.ofPatterns? (foldKey f m.1) (p :: ps) <;> rfl

theorem error?_compileField (v : Value) :
    error? (compileField technology f v) = (fieldErrors technology f v).head?.map Prod.snd := by
  unfold compileField fieldErrors
  cases hshape : f.shape with
  | scalar =>
    rw [if_neg (by decide)]
    simp only [error?_map, error?_compilePatterns]
  | list =>
    rw [if_neg (by decide)]
    simp only [error?_map, error?_compilePatterns]
  | keyed =>
    rw [if_pos rfl]
    cases v with
    | object members => simp only [error?_map, error?_foldlM error?_compileEntry, head?_numbered]
    | _ => rfl

def partError? (technology : String) (part : Section) (v : Option Value) : Option CompileError :=
  (v.filter fun v => !isBlankValue v).bind fun v =>
    (partErrors technology part v).head?.map Prod.snd

theorem partError?_of_blank {part : Section} {v : Value} (h : isBlankValue v = true) :
    partError? technology part (some v) = none := by
  simp [partError?, Option.filter_some, h]

theorem partError?_of_not_blank {part : Section} {v : Value} (h : ¬isBlankValue v = true) :
    partError? technology part (some v) = (partErrors technology part v).head?.map Prod.snd := by
  simp [partError?, Option.filter_some, h]

theorem error?_addMatcher (d : Definition) (ms : SortedMap Field Matcher) (f : Field) :
    error? (addMatcher technology d ms f) = partError? technology (.field f) (d.fields.get? f) := by
  unfold addMatcher
  cases d.fields.get? f with
  | none => rfl
  | some v =>
    by_cases hblank : isBlankValue v
    · simp only [if_pos hblank, partError?_of_blank hblank]
      rfl
    · simp only [if_neg hblank, partError?_of_not_blank hblank, partErrors, ← error?_compileField]
      rw [error?_bind (o := none) fun _ _ => rfl, Option.or_none]

theorem error?_compileRelations {part : Section} (hpart : ∀ f, part ≠ .field f)
    (v : Option Value) :
    error? (compileRelations technology part v) = partError? technology part v := by
  unfold compileRelations
  cases v with
  | none => rfl
  | some v =>
    by_cases hblank : isBlankValue v
    · simp only [if_pos hblank, partError?_of_blank hblank]
      rfl
    · cases part with
      | field f => exact absurd rfl (hpart f)
      | _ =>
        simp only [if_neg hblank, partError?_of_not_blank hblank, partErrors, stringsErrors]
        cases rawStrings? v <;> rfl

namespace Definition

theorem head?_located (d : Definition) :
    (located technology d).head?.map Prod.snd =
      Section.all.findSome? fun part => partError? technology part (d.written? part) := by
  rw [located, List.head?_flatMap, List.map_findSome?]
  congr 1
  funext part
  simp only [Function.comp_apply, partError?, declared?]
  cases (d.written? part).filter fun v => !isBlankValue v <;> simp [Function.comp_def]

theorem error?_compile (d : Definition) (names : CategoryNames) :
    error? (d.compile technology names) = (located technology d).head?.map Prod.snd := by
  have hfields : error? (Field.all.foldlM (addMatcher technology d) SortedMap.empty) =
      Field.all.findSome? fun f => partError? technology (.field f) (d.written? (.field f)) :=
    error?_foldlM (error?_addMatcher d) ..
  have himplies : error? (compileRelations technology .implies d.implies) =
      partError? technology .implies (d.written? .implies) :=
    error?_compileRelations (by simp) d.implies
  have hexcludes : error? (compileRelations technology .excludes d.excludes) =
      partError? technology .excludes (d.written? .excludes) :=
    error?_compileRelations (by simp) d.excludes
  rw [compile, error?_bind fun _ _ => error?_bind fun _ _ => error?_bind (o := none) fun _ _ => rfl,
    hfields, himplies, hexcludes, head?_located, Section.all, List.findSome?_append,
    List.findSome?_map, List.findSome?_cons, List.findSome?_cons]
  congr 1
  cases partError? technology .implies (d.written? .implies)
  · cases partError? technology .excludes (d.written? .excludes) <;> rfl
  · rfl

end Definition

/-! ## The order of errors -/

def InOrder (xs : List (List Nat × CompileError)) : Prop := xs.Pairwise fun x y => x.1 < y.1

theorem inOrder_optional (o : Option CompileError) (path : List Nat) :
    InOrder (o.toList.map (path, ·)) := by
  cases o with
  | none => exact .nil
  | some e => exact List.pairwise_singleton _ _

theorem inOrder_patternErrors (raws : List String) : InOrder (patternErrors technology f raws) :=
  ascending_numbered fun _ _ => inOrder_optional ..

theorem mem_patternErrors {raws : List String} {path : List Nat} {e : CompileError} :
    (path, e) ∈ patternErrors technology f raws ↔
      ∃ j raw fault, raws[j]? = some raw ∧
        Regex.ofString? (Pattern.parse raw).regex = .error fault ∧
        path = [j] ∧ e = .invalidPattern technology f raw fault := by
  simp only [patternErrors, mem_numbered, patternError?, List.mem_map, Option.mem_toList,
    Option.map_eq_some_iff, error?_eq_some]
  constructor
  · rintro ⟨j, raw, _, hraw, ⟨_, ⟨fault, hfault, rfl⟩, heq⟩, rfl⟩
    cases heq
    exact ⟨j, raw, fault, hraw, hfault, rfl, rfl⟩
  · rintro ⟨j, raw, fault, hraw, hfault, rfl, rfl⟩
    exact ⟨j, raw, [], hraw, ⟨_, ⟨fault, hfault, rfl⟩, rfl⟩, rfl⟩

theorem inOrder_stringsErrors {part : Section} {v : Value}
    {errors : List String → List (List Nat × CompileError)} (h : ∀ raws, InOrder (errors raws)) :
    InOrder (stringsErrors technology part v errors) := by
  unfold stringsErrors
  cases rawStrings? v with
  | none => exact List.pairwise_singleton _ _
  | some raws => exact h raws

theorem mem_stringsErrors {part : Section} {v : Value}
    {errors : List String → List (List Nat × CompileError)} {path : List Nat} {e : CompileError} :
    (path, e) ∈ stringsErrors technology part v errors ↔
      rawStrings? v = none ∧ path = [] ∧ e = .unexpectedShape technology part .strings ∨
        ∃ raws, rawStrings? v = some raws ∧ (path, e) ∈ errors raws := by
  unfold stringsErrors
  cases rawStrings? v <;> simp

theorem mem_keyError? {key : String} {raws : List String} {e : CompileError} :
    e ∈ keyError? technology f key raws ↔
      (∃ raw ∈ raws, (Pattern.parse raw).keyRegex = true) ∧
        ∃ fault, Regex.ofString? key = .error fault ∧
          .invalidPattern technology f key fault = e := by
  rw [← List.any_eq_true, keyError?]
  split <;> simp_all

theorem inOrder_memberErrors (m : String × Value) : InOrder (memberErrors technology f m) := by
  refine inOrder_stringsErrors fun raws => List.pairwise_append.2
    ⟨inOrder_patternErrors raws, inOrder_optional .., fun x hx y hy => ?_⟩
  obtain ⟨j, raw, _, hraw, -, hpath, -⟩ := mem_patternErrors.1 hx
  obtain ⟨_, -, rfl⟩ := List.mem_map.1 hy
  have hj : j < raws.length := (List.getElem?_eq_some_iff.1 hraw).1
  rw [hpath]
  exact List.cons_lt_cons_iff.2 (.inl hj)

theorem inOrder_fieldErrors (v : Value) : InOrder (fieldErrors technology f v) := by
  unfold fieldErrors
  by_cases hshape : f.shape = .keyed
  · rw [if_pos hshape]
    cases v with
    | object members => exact ascending_numbered fun m _ => inOrder_memberErrors m
    | _ => exact List.pairwise_singleton _ _
  · rw [if_neg hshape]
    exact inOrder_stringsErrors inOrder_patternErrors

theorem inOrder_partErrors (part : Section) (v : Value) :
    InOrder (partErrors technology part v) := by
  cases part with
  | field f => exact inOrder_fieldErrors v
  | _ => exact inOrder_stringsErrors fun _ => .nil

namespace Definition

theorem ascending_located (d : Definition) :
    (located technology d).Pairwise fun x y => x.1.Before y.1 := by
  rw [located, List.pairwise_flatMap]
  refine ⟨fun part _ => ?_, Section.ascending_all.imp fun hrank x hx y hy => ?_⟩
  · cases d.declared? part with
    | none => exact .nil
    | some v =>
      rw [Option.toList_some, List.flatMap_singleton, List.pairwise_map]
      exact (inOrder_partErrors part v).imp fun hpath => .inr ⟨rfl, hpath⟩
  · obtain ⟨_, -, hx⟩ := List.mem_flatMap.1 hx
    obtain ⟨_, -, hy⟩ := List.mem_flatMap.1 hy
    obtain ⟨_, -, rfl⟩ := List.mem_map.1 hx
    obtain ⟨_, -, rfl⟩ := List.mem_map.1 hy
    exact .inl hrank

end Definition

/-! ## The errors are the defects -/

namespace Definition

variable {d : Definition}

theorem mem_located {place : Place} {e : CompileError} :
    (place, e) ∈ located technology d ↔
      ∃ v, d.declared? place.part = some v ∧
        (place.path, e) ∈ partErrors technology place.part v := by
  simp only [located, List.mem_flatMap, List.mem_map, Option.mem_toList]
  constructor
  · rintro ⟨part, -, v, hv, ⟨path, e'⟩, hx, heq⟩
    cases heq
    exact ⟨v, hv, hx⟩
  · rintro ⟨v, hv, hx⟩
    exact ⟨place.part, Section.mem_all _, v, hv, (place.path, e), hx, rfl⟩

theorem defect_of_mem_stringsErrors {part : Section} {v : Value}
    (hv : d.declared? part = some v) (hshape : part.isKeyed = false)
    {errors : List String → List (List Nat × CompileError)} {path : List Nat} {e : CompileError}
    (h : (path, e) ∈ stringsErrors technology part v errors)
    (hraws : ∀ raws, rawStrings? v = some raws → (path, e) ∈ errors raws →
      Defect technology d ⟨part, path⟩ e) :
    Defect technology d ⟨part, path⟩ e := by
  rcases mem_stringsErrors.1 h with ⟨hnone, rfl, rfl⟩ | ⟨raws, hsome, hmem⟩
  · exact .strings hv hshape ((rawStrings?_eq_none_of_not_blank (not_blank_of_declared hv)).1 hnone)
  · exact hraws raws hsome hmem

theorem defect_of_mem_memberErrors {members : List (String × Value)} {i : Nat}
    {m : String × Value} {path : List Nat} {e : CompileError}
    (hv : d.declared? (.field f) = some (.object members)) (hshape : f.shape = .keyed)
    (hm : members[i]? = some m) (h : (path, e) ∈ memberErrors technology f m) :
    Defect technology d ⟨.field f, i :: path⟩ e := by
  rcases mem_stringsErrors.1 h with ⟨hnone, rfl, rfl⟩ | ⟨raws, hraws, hmem⟩
  · obtain ⟨hnull, hstrings⟩ := rawStrings?_eq_none.1 hnone
    exact .memberStrings hv hshape hm hnull hstrings
  · rcases List.mem_append.1 hmem with hpattern | hkey
    · obtain ⟨j, raw, fault, hraw, hfault, rfl, rfl⟩ := mem_patternErrors.1 hpattern
      exact .memberPattern hv hshape hm hraws hraw hfault
    · obtain ⟨_, hkey, heq⟩ := List.mem_map.1 hkey
      cases heq
      obtain ⟨hasks, fault, hfault, rfl⟩ := mem_keyError?.1 (Option.mem_toList.1 hkey)
      exact .memberKey hv hshape hm hraws hasks hfault

theorem defect_of_mem_fieldErrors {v : Value} {path : List Nat} {e : CompileError}
    (hv : d.declared? (.field f) = some v) (h : (path, e) ∈ fieldErrors technology f v) :
    Defect technology d ⟨.field f, path⟩ e := by
  unfold fieldErrors at h
  by_cases hshape : f.shape = .keyed
  · rw [if_pos hshape] at h
    cases v with
    | object members =>
      obtain ⟨i, m, path, hm, hmem, rfl⟩ := mem_numbered.1 h
      exact defect_of_mem_memberErrors hv hshape hm hmem
    | _ =>
      obtain ⟨rfl, rfl⟩ := Prod.mk.inj (List.mem_singleton.1 h)
      exact .map hv hshape (by simp)
  · rw [if_neg hshape] at h
    refine defect_of_mem_stringsErrors hv (decide_eq_false hshape) h fun raws hraws hmem => ?_
    obtain ⟨i, raw, fault, hraw, hfault, rfl, rfl⟩ := mem_patternErrors.1 hmem
    exact .pattern hv hshape hraws hraw hfault

theorem defect_of_mem_located {place : Place} {e : CompileError}
    (h : (place, e) ∈ located technology d) : Defect technology d place e := by
  obtain ⟨part, path⟩ := place
  obtain ⟨v, hv, hx⟩ := mem_located.1 h
  cases part with
  | field f => exact defect_of_mem_fieldErrors hv hx
  | _ => exact defect_of_mem_stringsErrors hv rfl hx fun _ _ hmem => absurd hmem (by simp)

theorem mem_located_of_mem_memberErrors {members : List (String × Value)} {i : Nat}
    {m : String × Value} {path : List Nat} {e : CompileError}
    (hv : d.declared? (.field f) = some (.object members)) (hshape : f.shape = .keyed)
    (hm : members[i]? = some m) (h : (path, e) ∈ memberErrors technology f m) :
    (⟨.field f, i :: path⟩, e) ∈ located technology d := by
  refine mem_located.2 ⟨.object members, hv, ?_⟩
  rw [partErrors, fieldErrors_object hshape]
  exact mem_numbered.2 ⟨i, m, path, hm, h, rfl⟩

theorem mem_located_of_defect {place : Place} {e : CompileError}
    (h : Defect technology d place e) : (place, e) ∈ located technology d := by
  cases h with
  | @strings part v hv hshape h =>
    have hnone := (rawStrings?_eq_none_of_not_blank (not_blank_of_declared hv)).2 h
    refine mem_located.2 ⟨v, hv, ?_⟩
    cases part with
    | field f =>
      rw [partErrors, fieldErrors_of_not_keyed (of_decide_eq_false hshape)]
      exact mem_stringsErrors.2 (.inl ⟨hnone, rfl, rfl⟩)
    | _ => exact mem_stringsErrors.2 (.inl ⟨hnone, rfl, rfl⟩)
  | @map f v hv hshape h =>
    refine mem_located.2 ⟨v, hv, ?_⟩
    rw [partErrors, fieldErrors_of_not_object hshape h]
    exact List.mem_singleton.2 rfl
  | pattern hv hshape hraws hraw h =>
    refine mem_located.2 ⟨_, hv, ?_⟩
    rw [partErrors, fieldErrors_of_not_keyed hshape]
    exact mem_stringsErrors.2
      (.inr ⟨_, hraws, mem_patternErrors.2 ⟨_, _, _, hraw, h, rfl, rfl⟩⟩)
  | memberStrings hv hshape hm hnull h =>
    refine mem_located_of_mem_memberErrors hv hshape hm ?_
    exact mem_stringsErrors.2 (.inl ⟨rawStrings?_eq_none.2 ⟨hnull, h⟩, rfl, rfl⟩)
  | memberPattern hv hshape hm hraws hraw h =>
    refine mem_located_of_mem_memberErrors hv hshape hm ?_
    exact mem_stringsErrors.2 (.inr ⟨_, hraws, List.mem_append_left _
      (mem_patternErrors.2 ⟨_, _, _, hraw, h, rfl, rfl⟩)⟩)
  | @memberKey f members i key v raws fault hv hshape hm hraws hasks h =>
    refine mem_located_of_mem_memberErrors hv hshape hm ?_
    have hkey : .invalidPattern technology f (foldKey f key) fault ∈
        keyError? technology f (foldKey f key) raws := mem_keyError?.2 ⟨hasks, fault, h, rfl⟩
    exact mem_stringsErrors.2 (.inr ⟨raws, hraws, List.mem_append_right _
      (List.mem_map.2 ⟨_, Option.mem_toList.2 hkey, rfl⟩)⟩)

theorem mem_located_iff {place : Place} {e : CompileError} :
    (place, e) ∈ located technology d ↔ Defect technology d place e :=
  ⟨defect_of_mem_located, mem_located_of_defect⟩

theorem Place.Before.asymm {a b : Place} (h : a.Before b) : ¬b.Before a := by
  rintro (hrank | ⟨hpart, hpath⟩)
  · rcases h with hrank' | ⟨hpart', -⟩
    · exact Nat.lt_asymm hrank hrank'
    · rw [hpart'] at hrank
      exact Nat.lt_irrefl _ hrank
  · rcases h with hrank | ⟨-, hpath'⟩
    · rw [hpart] at hrank
      exact Nat.lt_irrefl _ hrank
    · exact List.lt_asymm hpath hpath'

theorem head?_map_eq_some_iff {xs : List (Place × CompileError)}
    (h : xs.Pairwise fun x y => x.1.Before y.1) {e : CompileError} :
    xs.head?.map Prod.snd = some e ↔
      ∃ place, (place, e) ∈ xs ∧
        ∀ place' e', (place', e') ∈ xs → place' = place ∨ place.Before place' := by
  cases xs with
  | nil => simp
  | cons x xs =>
    obtain ⟨first, e₁⟩ := x
    have hlater := (List.pairwise_cons.1 h).1
    rw [List.head?_cons, Option.map_some, Option.some_inj]
    constructor
    · rintro rfl
      refine ⟨first, List.mem_cons_self .., fun place' e' h' => ?_⟩
      rcases List.mem_cons.1 h' with heq | h'
      · exact .inl (Prod.mk.inj heq).1
      · exact .inr (hlater _ h')
    · rintro ⟨place, hmem, hfirst⟩
      rcases List.mem_cons.1 hmem with heq | hmem
      · exact (Prod.mk.inj heq).2.symm
      · -- nothing behind the head comes before it
        have hbefore : first.Before place := hlater _ hmem
        rcases hfirst first e₁ (List.mem_cons_self ..) with rfl | hafter
        · exact absurd hbefore hbefore.asymm
        · exact absurd hbefore hafter.asymm

/-- A definition fails to compile exactly if it has a defect, and then with the error of the first
one. -/
theorem compile_first_defect (technology : String) (d : Definition) (names : CategoryNames) :
    ((∃ e, d.compile technology names = .error e) ↔ ∃ place e, Defect technology d place e) ∧
      ∀ e, d.compile technology names = .error e ↔
        ∃ place, Defect technology d place e ∧
          ∀ place' e', Defect technology d place' e' → place' = place ∨ place.Before place' := by
  have herror : ∀ e, d.compile technology names = .error e ↔
      (located technology d).head?.map Prod.snd = some e := fun e => by
    rw [← error?_eq_some, error?_compile]
  refine ⟨?_, fun e => ?_⟩
  · simp only [herror, ← mem_located_iff]
    cases located technology d with
    | nil => simp
    | cons x xs => simpa using ⟨x.1, x.2, .inl rfl⟩
  · rw [herror, head?_map_eq_some_iff (ascending_located d)]
    simp only [mem_located_iff]

example : error? (Definition.compile
    { fields := SortedMap.empty.insert .headers
        (.object [("X-A", .null), ("X-(", .array [.string "a\\;key_regex:1", .string "["])])
      implies := some (.bool true) } "T" []) =
    some (.invalidPattern "T" .headers "[" .malformed) := by decide +kernel

end Definition

end Webprint
