import Webprint.Analysis
import Webprint.Proofs.Catalogue
import Webprint.Proofs.CompiledFields

set_option autoImplicit false

/-!
# Compiling documents

Each definition of a document compiles by itself. With broken definitions left out a document compiles
like what is left of it does strictly; strictly it compiles if nothing is broken, and else the first
broken definition is reported. The order of the definitions does not show in the catalogue.
-/

namespace Webprint

/-! ## Lists of outcomes -/

namespace Compilation

def Entry.compiles (e : Entry) : Bool := e.outcome.toOption.isSome

def kept (es : List Entry) : List Signature := es.filterMap (·.outcome.toOption)

theorem Entry.compiles_iff {e : Entry} : e.compiles = true ↔ ∃ s, e.outcome = .ok s := by
  refine ⟨exists_ok_of_isSome, ?_⟩
  rintro ⟨s, hs⟩
  rw [compiles, hs]
  rfl

theorem kept_cons_of_ok {e : Entry} {s : Signature} (h : e.outcome = .ok s) (es : List Entry) :
    kept (e :: es) = s :: kept es :=
  List.filterMap_cons_some (by rw [h]; rfl)

theorem kept_cons_of_error {e : Entry} {err : CompileError} (h : e.outcome = .error err)
    (es : List Entry) : kept (e :: es) = kept es :=
  List.filterMap_cons_none (by rw [h]; rfl)

theorem kept_filter (es : List Entry) : kept (es.filter Entry.compiles) = kept es := by
  induction es with
  | nil => rfl
  | cons e es ih =>
    rw [List.filter_cons, Entry.compiles]
    cases h : e.outcome with
    | ok s => exact (kept_cons_of_ok h _).trans (ih ▸ (kept_cons_of_ok h es).symm)
    | error err => exact ih.trans (kept_cons_of_error h es).symm

theorem signatures_skipInvalid (es : List Entry) : signatures .skipInvalid es = .ok (kept es) := by
  induction es with
  | nil => rfl
  | cons e es ih =>
    unfold signatures
    cases h : e.outcome with
    | ok s =>
      rw [kept_cons_of_ok h, ih]
      rfl
    | error err =>
      rw [kept_cons_of_error h, ih]

theorem signatures_strict_cons {e : Entry} {s : Signature} (h : e.outcome = .ok s)
    (es : List Entry) : signatures .strict (e :: es) = (signatures .strict es).map (s :: ·) := by
  rw [signatures, h]

theorem signatures_strict_ok {es : List Entry} {ss : List Signature} :
    signatures .strict es = .ok ss ↔ (∀ e ∈ es, e.compiles = true) ∧ kept es = ss := by
  induction es generalizing ss with
  | nil => simp [signatures, kept]
  | cons e es ih =>
    cases he : e.outcome with
    | ok s =>
      have hcompiles : e.compiles = true := Entry.compiles_iff.2 ⟨s, he⟩
      rw [signatures_strict_cons he, kept_cons_of_ok he, List.forall_mem_cons]
      constructor
      · intro h
        obtain ⟨rest, hrest, rfl⟩ := ok_of_map h
        obtain ⟨hes, rfl⟩ := ih.1 hrest
        exact ⟨⟨hcompiles, hes⟩, rfl⟩
      · rintro ⟨⟨-, hes⟩, rfl⟩
        rw [ih.2 ⟨hes, rfl⟩]
        rfl
    | error err =>
      have hfails : e.compiles = false := by
        rw [Entry.compiles, he]
        rfl
      rw [signatures, he]
      simp [hfails]

theorem signatures_strict_error {es : List Entry} {err : CompileError} :
    signatures .strict es = .error err ↔ ∃ before e after, es = before ++ e :: after ∧
      (∀ x ∈ before, x.compiles = true) ∧ e.outcome = .error err := by
  constructor
  · intro h
    induction es with
    | nil => cases h
    | cons e es ih =>
      cases he : e.outcome with
      | error err' =>
        rw [signatures, he] at h
        cases h
        exact ⟨[], e, es, rfl, by simp, he⟩
      | ok s =>
        rw [signatures_strict_cons he] at h
        cases hes : signatures .strict es with
        | ok ss =>
          rw [hes] at h
          cases h
        | error err' =>
          rw [hes] at h
          cases h
          obtain ⟨before, x, after, rfl, hbefore, hx⟩ := ih hes
          have hfirst : e.compiles = true := Entry.compiles_iff.2 ⟨s, he⟩
          exact ⟨e :: before, x, after, rfl, List.forall_mem_cons.2 ⟨hfirst, hbefore⟩, hx⟩
  · rintro ⟨before, e, after, rfl, hbefore, he⟩
    induction before with
    | nil =>
      rw [List.nil_append, signatures, he]
    | cons x before ih =>
      obtain ⟨hx, hrest⟩ := List.forall_mem_cons.1 hbefore
      obtain ⟨s, hs⟩ := Entry.compiles_iff.1 hx
      rw [List.cons_append, signatures_strict_cons hs, ih hrest]
      rfl

end Compilation

/-! ## Documents -/

namespace RuleDocument

open Compilation

/-- What a definition of a document compiles to once the hook has changed it. -/
def outcome (d : RuleDocument) (hook : Hook) (t : String × Definition) :
    Except CompileError Signature :=
  (hook t.1 t.2 d.categoryNames).compile t.1 d.categoryNames

def entryOf (d : RuleDocument) (hook : Hook) (t : String × Definition) : Compilation.Entry :=
  ⟨t.1, d.outcome hook t⟩

def compiles (d : RuleDocument) (hook : Hook) (t : String × Definition) : Bool :=
  (d.outcome hook t).toOption.isSome

def compiled (d : RuleDocument) (hook : Hook) : List Signature :=
  d.technologies.filterMap fun t => (d.outcome hook t).toOption

/-- A document with some of its definitions and all of its categories. -/
def restrict (d : RuleDocument) (p : String × Definition → Bool) : RuleDocument :=
  { d with
    technologies := d.technologies.filter p
    technologies_nodup := d.technologies_nodup.sublist (List.filter_sublist.map _) }

variable {d : RuleDocument} {hook : Hook}

theorem compileEntries_eq (d : RuleDocument) (hook : Hook) :
    d.compileEntries hook = d.technologies.map (d.entryOf hook) := rfl

theorem kept_compileEntries (d : RuleDocument) (hook : Hook) :
    kept (d.compileEntries hook) = d.compiled hook := by
  rw [compileEntries_eq, kept, List.filterMap_map]
  rfl

theorem compileEntries_restrict (d : RuleDocument) (hook : Hook) :
    (d.restrict (d.compiles hook)).compileEntries hook =
      (d.compileEntries hook).filter Compilation.Entry.compiles := by
  rw [compileEntries_eq, compileEntries_eq, List.filter_map]
  rfl

theorem forall_compileEntries :
    (∀ e ∈ d.compileEntries hook, e.compiles = true) ↔
      ∀ t ∈ d.technologies, d.compiles hook t = true := by
  rw [compileEntries_eq, List.forall_mem_map]
  rfl

theorem compile_skipInvalid (d : RuleDocument) (hook : Hook) :
    d.compile .skipInvalid hook = .ok (.ofSignatures (d.compiled hook)) := by
  rw [compile, signatures_skipInvalid, kept_compileEntries]
  rfl

theorem compile_strict_ok {c : Catalogue} :
    d.compile .strict hook = .ok c ↔ (∀ t ∈ d.technologies, d.compiles hook t = true) ∧
      .ofSignatures (d.compiled hook) = c := by
  rw [← forall_compileEntries, ← kept_compileEntries, compile]
  constructor
  · intro h
    obtain ⟨ss, hss, rfl⟩ := ok_of_map h
    obtain ⟨hall, rfl⟩ := signatures_strict_ok.1 hss
    exact ⟨hall, rfl⟩
  · rintro ⟨hall, rfl⟩
    rw [signatures_strict_ok.2 ⟨hall, rfl⟩]
    rfl

theorem compile_strict_error {err : CompileError} :
    d.compile .strict hook = .error err ↔ ∃ before t after, d.technologies = before ++ t :: after ∧
      (∀ u ∈ before, d.compiles hook u = true) ∧ d.outcome hook t = .error err := by
  have hmap : d.compile .strict hook = .error err ↔
      signatures .strict (d.compileEntries hook) = .error err := by
    rw [compile]
    cases signatures .strict (d.compileEntries hook) <;> simp [Except.map]
  rw [hmap, signatures_strict_error, compileEntries_eq]
  constructor
  · rintro ⟨before, e, after, heq, hbefore, he⟩
    obtain ⟨us, rest, htechnologies, rfl, hrest⟩ := List.map_eq_append_iff.1 heq
    obtain ⟨t, ts, rfl, rfl, rfl⟩ := List.map_eq_cons_iff.1 hrest
    exact ⟨us, t, ts, htechnologies, List.forall_mem_map.1 hbefore, he⟩
  · rintro ⟨before, t, after, heq, hbefore, ht⟩
    refine ⟨before.map (d.entryOf hook), d.entryOf hook t, after.map (d.entryOf hook), ?_, ?_, ht⟩
    · rw [heq, List.map_append, List.map_cons]
    · exact List.forall_mem_map.2 hbefore

theorem compile_restrict (d : RuleDocument) (hook : Hook) :
    (d.restrict (d.compiles hook)).compile .strict hook = d.compile .skipInvalid hook := by
  have hall : ∀ t ∈ (d.restrict (d.compiles hook)).technologies,
      (d.restrict (d.compiles hook)).compiles hook t = true := fun t ht => (List.mem_filter.1 ht).2
  have hsame : (d.restrict (d.compiles hook)).compiled hook = d.compiled hook := by
    rw [← kept_compileEntries, compileEntries_restrict, kept_filter, kept_compileEntries]
  rw [compile_skipInvalid]
  exact compile_strict_ok.2 ⟨hall, by rw [hsame]⟩

/-! ## The order of the definitions -/

theorem compiled_names (d : RuleDocument) (hook : Hook) :
    ((d.compiled hook).map Signature.name).Nodup := by
  have hsub : ((d.compiled hook).map Signature.name).Sublist (d.technologies.map Prod.fst) := by
    unfold compiled
    induction d.technologies with
    | nil => exact .refl _
    | cons t ts ih =>
      cases h : d.outcome hook t with
      | error err =>
        rw [List.filterMap_cons_none (by rw [h]; rfl)]
        exact ih.cons _
      | ok s =>
        rw [List.filterMap_cons_some (by rw [h]; rfl), List.map_cons, List.map_cons,
          Definition.name_of_compile h]
        exact ih.cons_cons _
  exact d.technologies_nodup.sublist hsub

variable {e : RuleDocument}

theorem outcome_congr (h : e.categories = d.categories) : e.outcome hook = d.outcome hook := by
  have hnames : e.categoryNames = d.categoryNames := by
    rw [categoryNames, categoryNames, h]
  funext t
  rw [outcome, outcome, hnames]

theorem compile_perm {mode : CompileMode} {c : Catalogue} (hcategories : e.categories = d.categories)
    (htechnologies : e.technologies.Perm d.technologies) (h : d.compile mode hook = .ok c) :
    e.compile mode hook = .ok c := by
  have hcompiled : (e.compiled hook).Perm (d.compiled hook) := by
    rw [compiled, compiled, outcome_congr hcategories]
    exact htechnologies.filterMap _
  have hsame := Catalogue.ofSignatures_perm (e.compiled_names hook) hcompiled
  cases mode with
  | skipInvalid =>
    rw [compile_skipInvalid] at h ⊢
    rw [hsame, h]
  | strict =>
    obtain ⟨hall, rfl⟩ := compile_strict_ok.1 h
    refine compile_strict_ok.2 ⟨fun t ht => ?_, hsame⟩
    have ht' := hall t (htechnologies.mem_iff.1 ht)
    rwa [compiles, outcome_congr hcategories]

/-- Leaving broken definitions out comes to compiling strictly what is left without them. Strictly a
document compiles if and only if no definition is broken, and then to the same catalogue; what it fails
with otherwise is the error of the first broken definition. Documents with the same categories and
definitions, in whatever order, compile to the same catalogue and give the same detections. -/
theorem compile_by_definitions (d : RuleDocument) (hook : Hook) :
    (∃ c, d.compile .skipInvalid hook = .ok c ∧
      (d.restrict (d.compiles hook)).compile .strict hook = .ok c) ∧
    ((∃ c, d.compile .strict hook = .ok c) ↔ ∀ t ∈ d.technologies, d.compiles hook t = true) ∧
    (∀ c, d.compile .strict hook = .ok c → d.compile .skipInvalid hook = .ok c) ∧
    (∀ err, d.compile .strict hook = .error err ↔
      ∃ before t after, d.technologies = before ++ t :: after ∧
        (∀ u ∈ before, d.compiles hook u = true) ∧ d.outcome hook t = .error err) ∧
    ∀ e : RuleDocument, e.categories = d.categories → e.technologies.Perm d.technologies →
      ∀ mode c, d.compile mode hook = .ok c →
        e.compile mode hook = .ok c ∧
          ∀ s, (e.compile mode hook).map (Analysis.analyze · s) = .ok (Analysis.analyze c s) := by
  have hskip := d.compile_skipInvalid hook
  refine ⟨⟨_, hskip, by rw [compile_restrict, hskip]⟩, ⟨?_, ?_⟩, ?_, fun _ => compile_strict_error, ?_⟩
  · rintro ⟨c, hc⟩
    exact (compile_strict_ok.1 hc).1
  · intro hall
    exact ⟨_, compile_strict_ok.2 ⟨hall, rfl⟩⟩
  · intro c hc
    rw [hskip, (compile_strict_ok.1 hc).2]
  · intro e hcategories htechnologies mode c hc
    have he := compile_perm hcategories htechnologies hc
    exact ⟨he, fun s => by rw [he]; rfl⟩

def textRule (technology expression : String) : String × Definition :=
  (technology, { fields := SortedMap.empty.insert .html (.string expression) })

def ofRules (ts : List (String × Definition)) (h : (ts.map Prod.fst).Nodup) : RuleDocument :=
  ⟨[], ts, List.nodup_nil, h⟩

def brokenBetween : RuleDocument :=
  ofRules [textRule "Zeta" "zeta", textRule "Broken" "(", textRule "Alpha" "alpha"] (by decide)

def brokenFirst : RuleDocument :=
  ofRules [textRule "Broken" "(", textRule "Alpha" "alpha", textRule "Zeta" "zeta"] (by decide)

theorem compile_by_definitions_broken :
    ∃ c, brokenBetween.compile .skipInvalid Hook.none = .ok c ∧
      brokenFirst.compile .skipInvalid Hook.none = .ok c ∧ c.names = ["Alpha", "Zeta"] := by
  obtain ⟨⟨c, hc, -⟩, -, -, -, horder⟩ := compile_by_definitions brokenBetween Hook.none
  have hmoved : brokenFirst.technologies.Perm brokenBetween.technologies :=
    List.perm_append_singleton (textRule "Zeta" "zeta")
      [textRule "Broken" "(", textRule "Alpha" "alpha"]
  have hnames : (brokenBetween.compile .skipInvalid Hook.none).toOption.map Catalogue.names =
      some ["Alpha", "Zeta"] := by decide +kernel
  rw [hc] at hnames
  exact ⟨c, hc, (horder brokenFirst rfl hmoved .skipInvalid c hc).1, Option.some.inj hnames⟩

end RuleDocument

end Webprint
