import Webprint.Proofs.Overlay

set_option autoImplicit false

/-!
# Names of categories

Of the categories that a document lists under one number the last one names it. An overlay takes over
the categories whose ids it does not have, where ids are compared as they are spelled. So the name that
the overlay gives a number stays in force as long as the other document spells that number like the
overlay does; an id with a zero or a blank more is taken over and, standing behind, wins.
-/

namespace Webprint

section Lookup

variable {α β : Type} [DecidableEq α] [BEq α] [LawfulBEq α]

theorem lookup_cons_eq_if (key j : α) (value : β) (es : List (α × β)) :
    ((key, value) :: es).lookup j = if key = j then some value else es.lookup j := by
  by_cases h : key = j
  · simp [h]
  · have hne : (j == key) = false := by simpa using Ne.symm h
    simp [List.lookup_cons, hne, h]

theorem Json.lookup_put (key j : α) (value : β) (es : List (α × β)) :
    (put key value es).lookup j = if key = j then some value else es.lookup j := by
  induction es with
  | nil => exact lookup_cons_eq_if key j value []
  | cons e es ih =>
    obtain ⟨k, v⟩ := e
    unfold put
    by_cases hk : k = key
    · subst hk
      by_cases hj : k = j <;> simp [lookup_cons_eq_if, hj]
    · rw [if_neg hk, lookup_cons_eq_if, ih, lookup_cons_eq_if]
      by_cases hj : k = j
      · have hne : key ≠ j := fun h => hk (hj.trans h.symm)
        simp [hj, hne]
      · simp [hj]

end Lookup

namespace RuleDocument

def listed (d : RuleDocument) (k : UInt32) : List (String × Category) :=
  d.categories.filter fun e => categoryId? e.1 = some k

/-- The name of the last category with an id that stands for a number. -/
def categoryName? (d : RuleDocument) (k : UInt32) : Option String :=
  (d.listed k).getLast?.map fun e => e.2.label

def Defines (d : RuleDocument) (k : UInt32) : Prop := ∃ e ∈ d.categories, categoryId? e.1 = some k

def noteName (names : CategoryNames) (e : String × Category) : CategoryNames :=
  match categoryId? e.1 with
  | some n => Json.put n e.2.label names
  | none => names

theorem categoryNames_eq (d : RuleDocument) : d.categoryNames = d.categories.foldl noteName [] := rfl

theorem lookup_noteName (names : CategoryNames) (e : String × Category) (k : UInt32) :
    (noteName names e).lookup k =
      if categoryId? e.1 = some k then some e.2.label else names.lookup k := by
  unfold noteName
  cases categoryId? e.1 with
  | none => simp
  | some n => simp [Json.lookup_put]

theorem lookup_foldl_noteName (es : List (String × Category)) (names : CategoryNames) (k : UInt32) :
    (es.foldl noteName names).lookup k =
      ((es.filter fun e => categoryId? e.1 = some k).getLast?.map fun e => e.2.label).or
        (names.lookup k) := by
  induction es generalizing names with
  | nil => rfl
  | cons e es ih =>
    rw [List.foldl_cons, ih, lookup_noteName, List.filter_cons]
    by_cases h : categoryId? e.1 = some k
    · rw [if_pos h, if_pos (by simpa using h), List.getLast?_cons]
      cases (es.filter fun e => categoryId? e.1 = some k).getLast? <;> rfl
    · rw [if_neg h, if_neg (by simpa using h)]

theorem lookup_categoryNames (d : RuleDocument) (k : UInt32) :
    d.categoryNames.lookup k = d.categoryName? k := by
  rw [categoryNames_eq, lookup_foldl_noteName]
  exact Option.or_none

theorem exists_categoryName {d : RuleDocument} {k : UInt32} (h : d.Defines k) :
    ∃ name, d.categoryName? k = some name := by
  obtain ⟨e, he, hid⟩ := h
  have hin : e ∈ d.listed k := List.mem_filter.2 ⟨he, decide_eq_true hid⟩
  rw [← Option.isSome_iff_exists, categoryName?, Option.isSome_map, Option.isSome_iff_ne_none, Ne,
    List.getLast?_eq_none_iff]
  exact List.ne_nil_of_mem hin

instance (d : RuleDocument) (k : UInt32) : Decidable (d.Defines k) :=
  inferInstanceAs (Decidable (∃ e ∈ d.categories, categoryId? e.1 = some k))

/-! ## Categories that are taken over -/

variable {d primary : RuleDocument} {k : UInt32}

/-- Every id that stands for a number in one document is an id of the other one too, as it is
spelled. -/
def SpelledAlike (d primary : RuleDocument) (k : UInt32) : Prop :=
  ∀ e ∈ primary.categories, categoryId? e.1 = some k → e.1 ∈ d.categories.map Prod.fst

instance : Decidable (SpelledAlike d primary k) :=
  inferInstanceAs (Decidable (∀ e ∈ primary.categories, categoryId? e.1 = some k → _))

theorem categoryName?_inherit (d primary : RuleDocument) (k : UInt32) :
    (d.inheritCategories primary).categoryName? k =
      (((primary.listed k).filter fun e => (d.categories.lookup e.1).isNone).getLast?.map
        fun e => e.2.label).or (d.categoryName? k) := by
  have hlisted : (d.inheritCategories primary).listed k =
      d.listed k ++ (primary.listed k).filter fun e => (d.categories.lookup e.1).isNone := by
    rw [listed, listed, listed, inheritCategories, List.filter_append, List.filter_filter,
      List.filter_filter]
    simp only [Bool.and_comm]
  -- the last one counts, so what is taken over comes first
  rw [categoryName?, categoryName?, hlisted, List.getLast?_append, Option.map_or]

theorem lookup_isNone {id : String} :
    (d.categories.lookup id).isNone = true ↔ id ∉ d.categories.map Prod.fst := by
  rw [Option.isNone_iff_eq_none, List.lookup_eq_none_iff, List.mem_map]
  constructor
  · rintro h ⟨e, he, rfl⟩
    simpa using h e he
  · intro h e he
    have hne : id ≠ e.1 := fun heq => h ⟨e, he, heq.symm⟩
    simpa using hne

theorem categoryName?_of_spelledAlike (h : SpelledAlike d primary k) :
    (d.inheritCategories primary).categoryName? k = d.categoryName? k := by
  have hnone : ((primary.listed k).filter fun e => (d.categories.lookup e.1).isNone) = [] := by
    rw [List.filter_eq_nil_iff]
    intro e he
    obtain ⟨hin, hid⟩ := List.mem_filter.1 he
    rw [lookup_isNone, not_not]
    exact h e hin (of_decide_eq_true hid)
  rw [categoryName?_inherit, hnone]
  rfl

theorem categoryName?_of_not_spelledAlike (h : ¬ SpelledAlike d primary k) :
    ∃ e ∈ primary.categories, categoryId? e.1 = some k ∧ e.1 ∉ d.categories.map Prod.fst ∧
      (d.inheritCategories primary).categoryName? k = some e.2.label := by
  obtain ⟨x, hx, hid, hnew⟩ :
      ∃ x ∈ primary.categories, categoryId? x.1 = some k ∧ x.1 ∉ d.categories.map Prod.fst := by
    simpa [SpelledAlike] using h
  have htaken : x ∈ (primary.listed k).filter fun e => (d.categories.lookup e.1).isNone :=
    List.mem_filter.2 ⟨List.mem_filter.2 ⟨hx, decide_eq_true hid⟩, lookup_isNone.2 hnew⟩
  obtain ⟨e, he⟩ := Option.ne_none_iff_exists'.1 fun hnone =>
    List.ne_nil_of_mem htaken (List.getLast?_eq_none_iff.1 hnone)
  obtain ⟨hlisted, hmissing⟩ := List.mem_filter.1 (List.mem_of_getLast? he)
  obtain ⟨hin, hk⟩ := List.mem_filter.1 hlisted
  refine ⟨e, hin, of_decide_eq_true hk, lookup_isNone.1 hmissing, ?_⟩
  rw [categoryName?_inherit, he]
  rfl

theorem categoryName?_of_not_defines (h : ¬ d.Defines k) :
    (d.inheritCategories primary).categoryName? k = primary.categoryName? k := by
  have hall : ((primary.listed k).filter fun e => (d.categories.lookup e.1).isNone) =
      primary.listed k := by
    rw [List.filter_eq_self]
    intro e he
    rw [lookup_isNone]
    intro hin
    obtain ⟨x, hx, heq⟩ := List.mem_map.1 hin
    refine h ⟨x, hx, ?_⟩
    rw [heq]
    exact of_decide_eq_true (List.mem_filter.1 he).2
  have hnone : d.categoryName? k = none := by
    rw [categoryName?, Option.map_eq_none_iff, List.getLast?_eq_none_iff, listed,
      List.filter_eq_nil_iff]
    intro e he hid
    exact h ⟨e, he, of_decide_eq_true hid⟩
  rw [categoryName?_inherit, hall, hnone, Option.or_none]
  rfl

/-- The numbers of the categories that a definition of a document lists once the hook has changed it. -/
def numbersOf (d : RuleDocument) (hook : Hook) (t : String × Definition) : List UInt32 :=
  (hook t.1 t.2 d.categoryNames).categories

theorem categories_of_outcome {hook : Hook} {t : String × Definition} {sig : Signature}
    (h : d.outcome hook t = .ok sig) :
    sig.profile.categories = (d.numbersOf hook t).filterMap d.categoryName? := by
  rw [Definition.profile_of_compile h, Definition.profile]
  exact List.filterMap_congr fun k _ => d.lookup_categoryNames k

end RuleDocument

namespace Loader

/-- A technology that is compiled from an overlay has the overlay's names for the categories that it
lists, where the other document spells their numbers like the overlay does. Otherwise a name of the
other document is in force, as it is for categories that the overlay does not define. -/
theorem categories_of_overlay (l : Loader) {c : Config} {s : Store} {o : Overlay}
    {primary overlay : RuleDocument} {cat : Catalogue} (ho : c.overlay = some o)
    (hprimary : c.readSource s = .ok primary) (hoverlay : o.readDocument s = .ok overlay)
    (hbuild : l.build c s = .ok cat) :
    (∀ t ∈ overlay.technologies, ∀ sig,
      (overlay.inheritCategories primary).outcome (l.hook.getD .none) t = .ok sig →
        cat.get? t.1 = some sig ∧
        sig.profile.categories =
          ((overlay.inheritCategories primary).numbersOf (l.hook.getD .none) t).filterMap
            (overlay.inheritCategories primary).categoryName?) ∧
    ∀ k,
      (overlay.Defines k → overlay.SpelledAlike primary k →
        ∃ name, overlay.categoryName? k = some name ∧
          (overlay.inheritCategories primary).categoryName? k = some name) ∧
      (¬ overlay.SpelledAlike primary k →
        ∃ e ∈ primary.categories, RuleDocument.categoryId? e.1 = some k ∧
          e.1 ∉ overlay.categories.map Prod.fst ∧
          (overlay.inheritCategories primary).categoryName? k = some e.2.label) ∧
      (¬ overlay.Defines k →
        (overlay.inheritCategories primary).categoryName? k = primary.categoryName? k) := by
  refine ⟨fun t ht sig hsig => ⟨?_, RuleDocument.categories_of_outcome hsig⟩, fun k => ⟨?_, ?_, ?_⟩⟩
  · obtain ⟨lower, upper, -, hupper, rfl⟩ := (build_ok_iff ho hprimary hoverlay cat).1 hbuild
    have hcompiled : (overlay.inheritCategories primary).compiled? (l.hook.getD .none) t.1 = some sig :=
      RuleDocument.compiled?_eq_some.2 ⟨t.2, ht, hsig⟩
    simp [RuleDocument.get?_compile hupper, hcompiled]
  · intro hdefines hspelled
    obtain ⟨name, hname⟩ := RuleDocument.exists_categoryName hdefines
    exact ⟨name, hname, (RuleDocument.categoryName?_of_spelledAlike hspelled).trans hname⟩
  · exact RuleDocument.categoryName?_of_not_spelledAlike
  · exact RuleDocument.categoryName?_of_not_defines

def renamed : Overlay := .inline
  "\x7b\"categories\":\x7b\"1\":\"Blogs\"\x7d,\"technologies\":\x7b\"Foo\":\x7b\"cats\":[1,2]\x7d\x7d\x7d"

def renamedConfig : Config :=
  { source := .inline "\x7b\"categories\":\x7b\"1\":\"CMS\",\"2\":\"Shops\"\x7d\x7d"
    overlay := some renamed, cachePath := "kept.json" }

theorem categories_of_overlay_renamed :
    ∃ cat, build {} renamedConfig .empty = .ok cat ∧
      (cat.get? "Foo").map (fun sig => sig.profile.categories) = some ["Blogs", "Shops"] := by
  obtain ⟨primary, hprimary⟩ : ∃ d, renamedConfig.readSource .empty = .ok d :=
    exists_ok_of_isSome (by decide +kernel)
  obtain ⟨overlay, hoverlay⟩ : ∃ d, renamed.readDocument .empty = .ok d :=
    exists_ok_of_isSome (by decide +kernel)
  obtain ⟨cat, hcat⟩ : ∃ cat, build {} renamedConfig .empty = .ok cat :=
    exists_ok_of_isSome (by decide +kernel)
  have hfacts : ∀ p ∈ (renamedConfig.readSource .empty).toOption,
      ∀ o ∈ (renamed.readDocument .empty).toOption,
        (∃ t ∈ o.technologies, t.1 = "Foo" ∧
          ((o.inheritCategories p).outcome Hook.none t).toOption.isSome = true ∧
          (o.inheritCategories p).numbersOf Hook.none t = [1, 2]) ∧
        o.Defines 1 ∧ o.SpelledAlike p 1 ∧ o.categoryName? 1 = some "Blogs" ∧
        ¬ o.Defines 2 ∧ p.categoryName? 2 = some "Shops" := by
    decide +kernel
  obtain ⟨⟨t, ht, hfoo, hcompiles, hlists⟩, hone, halike, hblogs, htwo, hshops⟩ :=
    hfacts primary (by rw [hprimary]; rfl) overlay (by rw [hoverlay]; rfl)
  obtain ⟨sig, hsig⟩ := exists_ok_of_isSome hcompiles
  obtain ⟨hcompiled, hnames⟩ := categories_of_overlay {} rfl hprimary hoverlay hcat
  obtain ⟨hget, hcategories⟩ := hcompiled t ht sig hsig
  obtain ⟨name, hname, hkept⟩ := (hnames 1).1 hone halike
  obtain rfl : name = "Blogs" := Option.some.inj (hname.symm.trans hblogs)
  refine ⟨cat, hcat, ?_⟩
  have hinherited := ((hnames 2).2.2 htwo).trans hshops
  have hboth : ([1, 2] : List UInt32).filterMap
      (overlay.inheritCategories primary).categoryName? = ["Blogs", "Shops"] := by
    simp [hkept, hinherited]
  rw [← hfoo, hget, Option.map_some, hcategories, ← hboth, ← hlists]
  rfl

def respelled : Overlay := .inline
  "\x7b\"categories\":\x7b\"01\":\"Blogs\"\x7d,\"technologies\":\x7b\"Foo\":\x7b\"cats\":[1]\x7d\x7d\x7d"

/-- The overlay has a name of its own for a category but spells its number with a zero more. -/
def respelledConfig : Config :=
  { source := .inline "\x7b\"categories\":\x7b\"1\":\"CMS\"\x7d\x7d"
    overlay := some respelled, cachePath := "kept.json" }

theorem overlay_category_renamed :
    (∀ o ∈ (respelled.readDocument .empty).toOption,
      o.Defines 1 ∧ o.categoryName? 1 = some "Blogs" ∧
        o.technologies.map (fun t => (t.1, t.2.categories)) = [("Foo", [1])]) ∧
    (respelled.readDocument .empty).toOption.isSome = true ∧
    (build {} respelledConfig .empty).toOption.bind (fun cat =>
      (cat.get? "Foo").map fun sig => sig.profile.categories) = some ["CMS"] := by
  decide +kernel

end Loader

end Webprint
