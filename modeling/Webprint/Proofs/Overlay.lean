import Webprint.Loader
import Webprint.Proofs.Construction

set_option autoImplicit false

/-!
# Documents laid over others

An overlay takes the categories that it has no entries for from the document that it is laid over, and
is compiled by itself. In the catalogue that is built from both, a definition of the overlay that
compiles stands in the place of the other one as a whole; one that does not compile either makes the
build fail or leaves the other one where it is.
-/

namespace Webprint

namespace RuleDocument

variable {d : RuleDocument} {hook : Hook} {name : String} {sig : Signature}

def compiled? (d : RuleDocument) (hook : Hook) (name : String) : Option Signature :=
  (d.technologies.find? fun t => t.1 = name).bind fun t => (d.outcome hook t).toOption

theorem compiled?_eq_some :
    d.compiled? hook name = some sig ↔
      ∃ t, (name, t) ∈ d.technologies ∧ d.outcome hook (name, t) = .ok sig := by
  rw [compiled?, Option.bind_eq_some_iff]
  constructor
  · rintro ⟨⟨n, t⟩, ht, hsig⟩
    obtain ⟨hmem, rfl⟩ := (find?_eq_some_iff_of_nodup d.technologies_nodup).1 ht
    exact ⟨t, hmem, ok_of_toOption hsig⟩
  · rintro ⟨t, ht, hsig⟩
    refine ⟨(name, t), (find?_eq_some_iff_of_nodup d.technologies_nodup).2 ⟨ht, rfl⟩, ?_⟩
    rw [hsig]
    rfl

theorem mem_compiled :
    sig ∈ d.compiled hook ∧ sig.name = name ↔ d.compiled? hook name = some sig := by
  rw [compiled?_eq_some, compiled, List.mem_filterMap]
  constructor
  · rintro ⟨⟨⟨n, t⟩, ht, hsig⟩, rfl⟩
    have hok : d.outcome hook (n, t) = .ok sig := ok_of_toOption hsig
    obtain rfl : sig.name = n := Definition.name_of_compile hok
    exact ⟨t, ht, hok⟩
  · rintro ⟨t, ht, hok⟩
    exact ⟨⟨(name, t), ht, by rw [hok]; rfl⟩, Definition.name_of_compile hok⟩

/-- A compiled document has under each name what its definition of that name compiles to. -/
theorem get?_compile {mode : CompileMode} {c : Catalogue} (h : d.compile mode hook = .ok c)
    (name : String) : c.get? name = d.compiled? hook name := by
  rw [Catalogue.of_compile h, Catalogue.get?_ofSignatures,
    filter_eq_find?_of_nodup (d.compiled_names hook)]
  ext sig
  rw [← mem_compiled, ← find?_eq_some_iff_of_nodup (d.compiled_names hook)]
  cases (d.compiled hook).find? fun s => s.name = name <;> simp

end RuleDocument

namespace Loader

variable {l : Loader} {c : Config} {s : Store} {o : Overlay} {primary overlay : RuleDocument}

theorem build_ok_iff (ho : c.overlay = some o) (hprimary : c.readSource s = .ok primary)
    (hoverlay : o.readDocument s = .ok overlay) (cat : Catalogue) :
    l.build c s = .ok cat ↔ ∃ lower upper,
      primary.compile c.mode (l.hook.getD .none) = .ok lower ∧
      (overlay.inheritCategories primary).compile c.mode (l.hook.getD .none) = .ok upper ∧
      lower.merge upper = cat := by
  have hbuild : l.build c s = (l.compile c primary >>= fun lower =>
      l.compile c (overlay.inheritCategories primary) >>= fun upper =>
        .ok (lower.merge upper)) := by
    rw [build, hprimary, ho]
    simp only [hoverlay]
    rfl
  rw [hbuild]
  constructor
  · intro h
    obtain ⟨lower, hlower, h⟩ := ok_of_bind h
    obtain ⟨upper, hupper, h⟩ := ok_of_bind h
    exact ⟨lower, upper, ok_mapError_iff.1 hlower, ok_mapError_iff.1 hupper, Except.ok.inj h⟩
  · rintro ⟨lower, upper, hlower, hupper, rfl⟩
    have hlower' : l.compile c primary = .ok lower := ok_mapError_iff.2 hlower
    have hupper' : l.compile c (overlay.inheritCategories primary) = .ok upper :=
      ok_mapError_iff.2 hupper
    rw [hlower', hupper']
    rfl

/-- The catalogue that is built from two documents has under each name what the overlay's definition of
it compiles to, as a whole, or else what the other document's does, or else nothing; what the overlay's
definitions compile to does not depend on the other's definitions. Strictly a build succeeds if and
only if all definitions of both documents compile, and with broken ones left out it always does. -/
theorem built_from_both (l : Loader) {c : Config} {s : Store} {o : Overlay}
    {primary overlay : RuleDocument} (ho : c.overlay = some o)
    (hprimary : c.readSource s = .ok primary) (hoverlay : o.readDocument s = .ok overlay) :
    (∀ cat, l.build c s = .ok cat → ∀ name, cat.get? name =
      ((overlay.inheritCategories primary).compiled? (l.hook.getD .none) name).or
        (primary.compiled? (l.hook.getD .none) name)) ∧
    (∀ other : RuleDocument, other.categories = primary.categories →
      (overlay.inheritCategories other).compiled? (l.hook.getD .none) =
        (overlay.inheritCategories primary).compiled? (l.hook.getD .none)) ∧
    (c.skipInvalid = false → ((∃ cat, l.build c s = .ok cat) ↔
      (∀ t ∈ primary.technologies, primary.compiles (l.hook.getD .none) t = true) ∧
        ∀ t ∈ overlay.technologies,
          (overlay.inheritCategories primary).compiles (l.hook.getD .none) t = true)) ∧
    (c.skipInvalid = true → ∃ cat, l.build c s = .ok cat) := by
  have hbuild := build_ok_iff (l := l) ho hprimary hoverlay
  refine ⟨fun cat hcat name => ?_, fun other hother => ?_, fun hstrict => ?_, fun hskip => ?_⟩
  · obtain ⟨lower, upper, hlower, hupper, rfl⟩ := (hbuild cat).1 hcat
    simp [RuleDocument.get?_compile hupper, RuleDocument.get?_compile hlower]
  · have hsame : overlay.inheritCategories other = overlay.inheritCategories primary := by
      simp only [RuleDocument.inheritCategories, hother]
    rw [hsame]
  · have hmode : c.mode = .strict := by simp [Config.mode, hstrict]
    simp only [hmode] at hbuild
    constructor
    · rintro ⟨cat, hcat⟩
      obtain ⟨lower, upper, hlower, hupper, -⟩ := (hbuild cat).1 hcat
      exact ⟨(RuleDocument.compile_strict_ok.1 hlower).1, (RuleDocument.compile_strict_ok.1 hupper).1⟩
    · rintro ⟨hlower, hupper⟩
      exact ⟨_, (hbuild _).2 ⟨_, _, RuleDocument.compile_strict_ok.2 ⟨hlower, rfl⟩,
        RuleDocument.compile_strict_ok.2 ⟨hupper, rfl⟩, rfl⟩⟩
  · have hmode : c.mode = .skipInvalid := by simp [Config.mode, hskip]
    simp only [hmode] at hbuild
    exact ⟨_, (hbuild _).2 ⟨_, _, primary.compile_skipInvalid _,
      (overlay.inheritCategories primary).compile_skipInvalid _, rfl⟩⟩

def foundInText : String :=
  "\x7b\"technologies\":\x7b\"Foo\":\x7b\"html\":\"foo\"\x7d,\"Bar\":\x7b\"html\":\"bar\"\x7d\x7d\x7d"

def foundInAddress : String :=
  "\x7b\"technologies\":\x7b\"Foo\":\x7b\"url\":\"(\"\x7d,\"Bar\":\x7b\"url\":\"bar\"\x7d\x7d\x7d"

def laidConfig : Config :=
  { source := .inline foundInText, overlay := some (.inline foundInAddress), cachePath := "kept.json"
    skipInvalid := true }

def matchedFields (sig : Signature) : List Field := sig.matchers.keys

/-- The broken definition leaves the other document's in force, and the sound one replaces it. -/
theorem built_from_both_broken :
    ∃ cat, build {} laidConfig .empty = .ok cat ∧
      (cat.get? "Foo").map matchedFields = some [.html] ∧
      (cat.get? "Bar").map matchedFields = some [.url] := by
  obtain ⟨primary, hprimary⟩ : ∃ d, laidConfig.readSource .empty = .ok d :=
    exists_ok_of_isSome (by decide +kernel)
  obtain ⟨overlay, hoverlay⟩ : ∃ d, (Overlay.inline foundInAddress).readDocument .empty = .ok d :=
    exists_ok_of_isSome (by decide +kernel)
  obtain ⟨hget, -, -, hskip⟩ := built_from_both {} rfl hprimary hoverlay
  obtain ⟨cat, hcat⟩ := hskip rfl
  have hfields : (laidConfig.readSource .empty).toOption.bind (fun p =>
      ((Overlay.inline foundInAddress).readDocument .empty).toOption.map fun o =>
        ["Foo", "Bar"].map fun name =>
          (((o.inheritCategories p).compiled? Hook.none name).or
            (p.compiled? Hook.none name)).map matchedFields) =
      some [some [.html], some [.url]] := by decide +kernel
  rw [hprimary, hoverlay] at hfields
  obtain ⟨hfoo, hrest⟩ := List.cons.inj (Option.some.inj hfields)
  obtain ⟨hbar, -⟩ := List.cons.inj hrest
  refine ⟨cat, hcat, ?_, ?_⟩
  · rw [hget cat hcat]
    exact hfoo
  · rw [hget cat hcat]
    exact hbar

end Loader

end Webprint
