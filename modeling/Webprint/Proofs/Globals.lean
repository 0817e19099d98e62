import Webprint.Proofs.Monotone
import Webprint.Proofs.PageEntries

set_option autoImplicit false

/-!
# Global variables that are found

A technology declares global variables under keys. Each is asked for by the path that its key names, and
its value is kept for that technology under the key as it is spelled, where matching looks for it. So
what is found in the global variables of a page follows from the technology's own declarations and the
values of their paths.
-/

namespace Webprint

def Signature.jsEntries (sig : Signature) : List KeyedPatterns :=
  match sig.matchers.get? .js with
  | some (.keyed es) => es
  | _ => []

theorem Signature.jsKeys_eq (sig : Signature) : sig.jsKeys = sig.jsEntries.map (·.key) := by
  rw [jsKeys, jsEntries]
  cases sig.matchers.get? .js with
  | none => rfl
  | some m => cases m <;> rfl

/-- The variables that are declared, each with the technology that declares it. -/
def Catalogue.declarations (c : Catalogue) : List (String × String) :=
  c.signatures.flatMap fun sig => sig.jsKeys.map fun key => (sig.name, key)

theorem Catalogue.mem_declarations {c : Catalogue} {name key : String} :
    (name, key) ∈ c.declarations ↔ ∃ sig, c.get? name = some sig ∧ key ∈ sig.jsKeys := by
  simp only [declarations, List.mem_flatMap, List.mem_map, Prod.mk.injEq, get?_eq_some]
  constructor
  · rintro ⟨sig, hsig, k, hk, rfl, rfl⟩
    exact ⟨sig, ⟨hsig, rfl⟩, hk⟩
  · rintro ⟨sig, ⟨hsig, rfl⟩, hk⟩
    exact ⟨sig, hsig, key, hk, rfl, rfl⟩

/-! ## Asking for variables -/

namespace Snapshot

def globals (s : Snapshot) (name : String) : JsGlobals := (s.jsFor name).getD .empty

def collectOne (lookup : JsLookup) (s : Snapshot) (d : String × String) : Snapshot :=
  match declaredValue? lookup d.2 with
  | some v => s.withJs d.1 d.2 v
  | none => s

theorem collectJs_eq (s : Snapshot) (c : Catalogue) (lookup : JsLookup) :
    s.collectJs c lookup = c.declarations.foldl (collectOne lookup) s := by
  rw [collectJs, Catalogue.declarations, List.foldl_flatMap]
  simp only [List.foldl_map]
  rfl

theorem declaredValue?_eq_some {lookup : JsLookup} {key : String} {v : JsValue} :
    declaredValue? lookup key = some v ↔
      Page.jsPath key ≠ [] ∧ lookup (Page.jsPath key) = some v ∧ v ≠ .bool false := by
  unfold declaredValue?
  cases Page.jsPath key with
  | nil => simp
  | cons segment path => simp [Option.filter_eq_some_iff]

variable (lookup : JsLookup) (s : Snapshot) (name key : String)

theorem get?_globals_withJs (technology k : String) (v : JsValue) :
    ((s.withJs technology k v).globals name).get? key =
      if (technology, k) = (name, key) then some [v] else (s.globals name).get? key := by
  rw [globals, jsFor_withJs]
  by_cases hname : technology = name
  · subst hname
    simp [globals]
  · simp [globals, hname]

/-- One declaration sets its own variable, if that has a value, and leaves all others. -/
theorem get?_globals_collectOne (d : String × String) :
    ((collectOne lookup s d).globals name).get? key =
      if d = (name, key) then
        ((declaredValue? lookup key).map fun v => [v]).or ((s.globals name).get? key)
      else (s.globals name).get? key := by
  unfold collectOne
  by_cases hd : d = (name, key)
  · subst hd
    cases declaredValue? lookup key with
    | none => simp
    | some v => simp [get?_globals_withJs]
  · cases declaredValue? lookup d.2 with
    | none => simp [hd]
    | some v => simp [get?_globals_withJs, hd]

theorem get?_globals_foldl (ds : List (String × String)) :
    ((ds.foldl (collectOne lookup) s).globals name).get? key =
      if (name, key) ∈ ds then
        ((declaredValue? lookup key).map fun v => [v]).or ((s.globals name).get? key)
      else (s.globals name).get? key := by
  induction ds generalizing s with
  | nil => simp
  | cons d ds ih =>
    rw [List.foldl_cons, ih, get?_globals_collectOne]
    by_cases hd : d = (name, key)
    · -- asking for it again changes nothing
      cases declaredValue? lookup key <;> simp [hd]
    · simp [hd, Ne.symm hd]

theorem get?_globals_collectJs {c : Catalogue} {s : Snapshot} (hjs : s.js = .empty) {name key : String}
    (h : (name, key) ∈ c.declarations) :
    ((s.collectJs c lookup).globals name).get? key =
      (declaredValue? lookup key).map fun v => [v] := by
  have hnone : (s.globals name).get? key = none := by
    rw [globals, jsFor, hjs]
    rfl
  rw [collectJs_eq, get?_globals_foldl, if_pos h, hnone, Option.or_none]

end Snapshot

/-! ## Findings in global variables -/

namespace Matching

theorem matchField_globals (s : Snapshot) (sig : Signature) :
    (sig.matchers.get? .js).toList.flatMap (matchField sig.name s .js) =
      matchKeyed JsValue.candidate sig.name .js sig.jsEntries (s.globals sig.name) := by
  rw [Signature.jsEntries]
  cases sig.matchers.get? .js with
  | none => rfl
  | some m =>
    cases m with
    | keyed es => simp [matchField_js, Snapshot.globals]
    | scalar ps => rfl
    | list ps => rfl

/-! ## What declarations are bound to find -/

/-- The variable that a key names has a value which is `true` or has a text that the pattern matches. -/
def Heard (lookup : JsLookup) (key : String) (p : Pattern) : Prop :=
  Page.jsPath key ≠ [] ∧ ∃ v ∈ lookup (Page.jsPath key), v ≠ .bool false ∧
    (v = .bool true ∨ ∃ t ∈ textOf? v, p.isMatch t = true)

instance (lookup : JsLookup) (key : String) (p : Pattern) : Decidable (Heard lookup key p) :=
  inferInstanceAs (Decidable (_ ∧ ∃ v ∈ lookup (Page.jsPath key), v ≠ .bool false ∧
    (v = .bool true ∨ ∃ t ∈ textOf? v, p.isMatch t = true)))

def heardRecord (lookup : JsLookup) (technology key : String) (p : Pattern) : Evidence :=
  noted technology .js (some key) p
    (((lookup (Page.jsPath key)).bind fun v => versionOf? p v.candidate).getD "")

theorem accepts_candidate {p : Pattern} {v : JsValue} (h : v ≠ .bool false) :
    Accepts p v.candidate ↔ v = .bool true ∨ ∃ t ∈ textOf? v, p.isMatch t = true := by
  cases v with
  | bool b =>
    cases b with
    | true => simp [JsValue.candidate, Accepts]
    | false => exact absurd rfl h
  | number n => simp [JsValue.candidate, Accepts, textOf?]
  | string t => simp [JsValue.candidate, Accepts, textOf?]

theorem evidence_declaredValue (lookup : JsLookup) (technology key : String) (p : Pattern) :
    ((Snapshot.declaredValue? lookup key).toList.flatMap fun v =>
        (test technology .js (some key) p v.candidate).map (·.evidence)) =
      if Heard lookup key p then [heardRecord lookup technology key p] else [] := by
  cases h : Snapshot.declaredValue? lookup key with
  | none =>
    have hnot : ¬ Heard lookup key p := by
      rintro ⟨hpath, v, hv, hfalse, -⟩
      rw [Snapshot.declaredValue?_eq_some.2 ⟨hpath, hv, hfalse⟩] at h
      cases h
    simp [hnot]
  | some v =>
    obtain ⟨hpath, hv, hfalse⟩ := Snapshot.declaredValue?_eq_some.1 h
    have hheard : Heard lookup key p ↔ Accepts p v.candidate := by
      rw [accepts_candidate hfalse]
      simp [Heard, hpath, hv, hfalse]
    simp [evidence_test, hheard, heardRecord, hv]

/-- The evidence that a technology's declarations are bound to give: one record for each pattern of each
entry, in order, that does not take its key for an expression and accepts the value of the path. -/
def declaredEvidence (lookup : JsLookup) (sig : Signature) : List Evidence :=
  sig.jsEntries.flatMap fun e =>
    (e.patterns.filter fun p => p.spec.keyRegex = false ∧ Heard lookup e.key p).map
      (heardRecord lookup sig.name e.key)

/-! ## What is found -/

/-- The findings about a technology in global variables, of patterns that do not take their key for an
expression. -/
def globalFindings (c : Catalogue) (s : Snapshot) (name : String) : List Finding :=
  (findings c s).filter fun x => x.evidence.technology = name ∧
    x.evidence.origin = .matched .js ∧ x.pattern.spec.keyRegex = false

theorem globalFindings_eq (c : Catalogue) (s : Snapshot) (name : String) :
    globalFindings c s name = (c.get? name).toList.flatMap fun sig =>
      (matchKeyed JsValue.candidate sig.name .js sig.jsEntries (s.globals sig.name)).filter
        fun x => x.pattern.spec.keyRegex = false := by
  have hsteps : globalFindings c s name =
      ((findings c s).filter fun x =>
        x.evidence.technology = name ∧ x.evidence.origin = .matched .js).filter
          fun x => x.pattern.spec.keyRegex = false := by
    rw [globalFindings, List.filter_filter]
    refine List.filter_congr fun x _ => ?_
    simp [Bool.and_comm, Bool.and_left_comm]
  rw [hsteps, findings_in, List.filter_flatMap]
  simp only [matchField_globals]

theorem filter_matchKeyed {α : Type} (candidate : α → Candidate) (technology : String) (f : Field)
    (es : List KeyedPatterns) (values : MultiMap α) :
    ((matchKeyed candidate technology f es values).filter
        fun x => x.pattern.spec.keyRegex = false) =
      es.flatMap fun e => (e.patterns.filter fun p => p.spec.keyRegex = false).flatMap fun p =>
        ((values.get? e.key).getD []).flatMap fun v => test technology f (some e.key) p (candidate v) := by
  rw [matchKeyed, List.filter_flatMap]
  refine List.flatMap_congr fun e _ => (filter_patterns false).trans ?_
  refine List.flatMap_congr fun p hp => ?_
  rw [valuesFor_exact (of_decide_eq_true (List.mem_filter.1 hp).2)]

theorem evidence_globalFindings (c : Catalogue) (lookup : JsLookup) {s : Snapshot}
    (hjs : s.js = .empty) (name : String) :
    (globalFindings c (s.collectJs c lookup) name).map (·.evidence) =
      (c.get? name).toList.flatMap (declaredEvidence lookup) := by
  rw [globalFindings_eq, List.map_flatMap]
  refine List.flatMap_congr fun sig hsig => ?_
  have hget : c.get? name = some sig := Option.mem_toList.1 hsig
  obtain ⟨-, rfl⟩ := Catalogue.get?_eq_some.1 hget
  rw [filter_matchKeyed, declaredEvidence, List.map_flatMap]
  refine List.flatMap_congr fun e he => ?_
  have hdeclared : (sig.name, e.key) ∈ c.declarations := by
    refine Catalogue.mem_declarations.2 ⟨sig, hget, ?_⟩
    rw [Signature.jsKeys_eq]
    exact List.mem_map_of_mem he
  -- a key is looked up as it was asked for
  have hvalues : (((s.collectJs c lookup).globals sig.name).get? e.key).getD [] =
      (Snapshot.declaredValue? lookup e.key).toList := by
    rw [Snapshot.get?_globals_collectJs lookup hjs hdeclared]
    cases Snapshot.declaredValue? lookup e.key <;> rfl
  rw [hvalues]
  simp only [List.map_flatMap, evidence_declaredValue]
  rw [flatMap_ite_singleton, List.filter_filter]
  simp only [Bool.decide_and, Bool.and_comm]

/-! ## What is found elsewhere -/

theorem matchField_of_js (technology : String) (s : Snapshot) (js : SortedMap String JsGlobals)
    {f : Field} (h : f ≠ .js) (m : Matcher) :
    matchField technology { s with js } f m = matchField technology s f m := by
  cases m with
  | scalar ps => cases f <;> rfl
  | list ps => cases f <;> rfl
  | keyed es =>
    simp only [matchField, if_neg h]
    cases f <;> rfl

theorem filter_findings_of_js (c : Catalogue) (s : Snapshot) (js : SortedMap String JsGlobals) :
    ((findings c { s with js }).filter fun x => x.evidence.origin ≠ .matched .js) =
      (findings c s).filter fun x => x.evidence.origin ≠ .matched .js := by
  rw [findings, findings, List.filter_flatMap, List.filter_flatMap]
  refine List.flatMap_congr fun sig _ => ?_
  rw [matchSignature, matchSignature, List.filter_flatMap, List.filter_flatMap]
  refine List.flatMap_congr fun m _ => ?_
  by_cases h : m.1 = .js
  · have hnone (t : Snapshot) : ((matchField sig.name t m.1 m.2).filter
        fun x => x.evidence.origin ≠ .matched .js) = [] := by
      refine List.filter_eq_nil_iff.2 fun x hx => ?_
      simp [(concerns_matchField x hx).2, h]
    rw [hnone, hnone]
  · exact congrArg (List.filter _) (matchField_of_js sig.name s js h m.2)

theorem filter_evidence_of_js (c : Catalogue) (s : Snapshot) (js : SortedMap String JsGlobals) :
    ((evidence c { s with js }).filter fun e => e.origin ≠ .matched .js) =
      (evidence c s).filter fun e => e.origin ≠ .matched .js := by
  rw [evidence, evidence, List.filter_map, List.filter_map]
  exact congrArg (List.map _) (filter_findings_of_js c s js)

theorem jsEntries_of_compile {d : Definition} {technology : String} {names : CategoryNames}
    {sig : Signature} (h : d.compile technology names = .ok sig) {e : KeyedPatterns}
    (he : e ∈ sig.jsEntries) :
    ∃ members v, d.fields.get? .js = some (.object members) ∧ (e.key, v) ∈ members ∧
      compilePatterns technology .js v = .ok e.patterns := by
  rw [Signature.jsEntries] at he
  cases hm : sig.matchers.get? .js with
  | none => simp [hm] at he
  | some m =>
    obtain ⟨members, es, hmembers, rfl, hentered⟩ := Definition.entered_of_get? h rfl hm
    simp only [hm] at he
    obtain ⟨key, v, ⟨before, after, hwritten, -⟩, hkey, hpatterns⟩ := hentered.source e he
    obtain rfl : e.key = key := hkey
    exact ⟨members, v, hmembers, by simp [hwritten], hpatterns⟩

/-- Once its variables have been collected, a page gives for a technology exactly the evidence that the
technology's own declarations are bound to give, under the keys as they are written, whatever else is
declared; and elsewhere it gives what it gave before. -/
theorem declared_variables_found (c : Catalogue) (lookup : JsLookup) {s : Snapshot}
    (hjs : s.js = .empty) :
    (∀ name, (globalFindings c (s.collectJs c lookup) name).map (·.evidence) =
      (c.get? name).toList.flatMap (declaredEvidence lookup)) ∧
    (∀ d name, d.get? name = c.get? name →
      (globalFindings d (s.collectJs d lookup) name).map (·.evidence) =
        (globalFindings c (s.collectJs c lookup) name).map (·.evidence)) ∧
    ((evidence c (s.collectJs c lookup)).filter fun e => e.origin ≠ .matched .js) =
      ((evidence c s).filter fun e => e.origin ≠ .matched .js) ∧
    ∀ (d : Definition) technology names sig, d.compile technology names = .ok sig →
      ∀ e ∈ sig.jsEntries, ∃ members v, d.fields.get? .js = some (.object members) ∧
        (e.key, v) ∈ members ∧ compilePatterns technology .js v = .ok e.patterns := by
  refine ⟨evidence_globalFindings c lookup hjs, fun d name hsame => ?_, ?_,
    fun d technology names sig hsig e he => jsEntries_of_compile hsig he⟩
  · rw [evidence_globalFindings d lookup hjs, evidence_globalFindings c lookup hjs, hsame]
  · obtain ⟨js, hcollected⟩ := Snapshot.exists_js_collectJs s c lookup
    rw [hcollected]
    exact filter_evidence_of_js c s js

def spelledTwice : Definition :=
  { fields := SortedMap.empty.insert .js
      (.object [("app.name", .string "^Shop$"), ("app[name]", .string ""), ("app", .string "")]) }

def namedShop : JsLookup := fun path => if path = ["app", "name"] then some (.string "Shop") else none

theorem declared_variables_found_twice :
    ∃ sig, spelledTwice.compile "App" [] = .ok sig ∧
      (globalFindings (.ofSignatures [sig])
          (({} : Snapshot).collectJs (.ofSignatures [sig]) namedShop) "App").map (·.evidence.key) =
        [some "app.name", some "app[name]"] ∧
      ∀ e ∈ sig.jsEntries, ∃ members v, spelledTwice.fields.get? .js = some (.object members) ∧
        (e.key, v) ∈ members := by
  obtain ⟨sig, hsig⟩ : ∃ sig, spelledTwice.compile "App" [] = .ok sig :=
    exists_ok_of_isSome (by decide +kernel)
  have hkeys : ∀ sig ∈ (spelledTwice.compile "App" []).toOption,
      (((Catalogue.ofSignatures [sig]).get? "App").toList.flatMap
        (declaredEvidence namedShop)).map (·.key) = [some "app.name", some "app[name]"] := by
    decide +kernel
  obtain ⟨hfound, -, -, hwritten⟩ :=
    declared_variables_found (.ofSignatures [sig]) namedShop (s := {}) rfl
  refine ⟨sig, hsig, ?_, fun e he => ?_⟩
  · rw [← hkeys sig (by rw [hsig]; rfl), ← hfound, List.map_map]
    rfl
  · obtain ⟨members, v, hmembers, hin, -⟩ := hwritten spelledTwice "App" [] sig hsig e he
    exact ⟨members, v, hmembers, hin⟩

end Matching

end Webprint
