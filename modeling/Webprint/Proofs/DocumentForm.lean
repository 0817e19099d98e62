import Webprint.Catalogue
import Webprint.Proofs.Rereading

set_option autoImplicit false

/-!
# The text of a document

A document that was read is given back whole by reading its text. The two halves meet at what a
definition holds once it was read: its values are read again, none of them is `null` where that
would not be told from nothing, and what it says beyond the known members has names of its own.
-/

namespace Webprint

open Json (Value Reading Fault Decoder Undoes)

namespace Json.Decode

/-! ## Categories -/

theorem integer_ofValue {lo hi i : Int} (h : lo ≤ i ∧ i < hi) (depth : Nat) :
    integer lo hi depth (.ofValue (.int i)) = .ok i := by
  cases depth <;> exact if_pos h

theorem word32_undoes : Undoes word32 (fun n => .int n.toNat) 0 := by
  intro depth _ n
  have hin : (0 : Int) ≤ n.toNat ∧ (n.toNat : Int) < Nat.pow 2 32 :=
    ⟨Int.natCast_nonneg _, by exact_mod_cast n.toNat_lt⟩
  rw [word32, integer_ofValue hin, ok_bind, Int.toNat_natCast, UInt32.ofNat_toNat]
  rfl

theorem category_undoes : Undoes category Category.toJson 1 := by
  refine undoes_succ fun depth _ c => ?_
  cases c with
  | name n => rfl
  | entry n p =>
    have hname := text_undoes 126 (by decide) n
    have hpriority := nullable_undoes word32_undoes (fun _ => by simp [Value.int]) 126 (by decide) p
    have hvalue : ∃ v, value (depth + 1) (.ofValue (Category.entry n p).toJson) = .ok v := by
      cases p <;> exact ⟨_, rfl⟩
    have hobject : object categoryStep {} maxDepth (.ofValue (Category.entry n p).toJson) =
        .ok ⟨some n, some p⟩ := by
      rw [Category.toJson, maxDepth, object_ofValue]
      simp [readingsOfMembers, foldMembers, categoryStep, hname, hpriority]
    obtain ⟨v, hv⟩ := hvalue
    change (value (depth + 1) (.ofValue (Category.entry n p).toJson) >>= fun _ =>
      object categoryStep {} maxDepth (.ofValue (Category.entry n p).toJson) >>= fun d =>
        required d.name >>= fun name => pure (Category.entry name (d.priority.getD none))) = _
    rw [hv, ok_bind, hobject]
    rfl

/-! ## Definitions -/

theorem entries_presentFields (m : SortedMap Field (Option Value)) :
    (presentFields m).entries = m.entries.filterMap fun e => e.2.map fun v => (e.1, v) := by
  have hascending :
      Ascending Prod.fst (m.entries.filterMap fun e => e.2.map fun v => (e.1, v)) := by
    rw [Ascending, List.pairwise_filterMap]
    refine m.ascending.imp fun {a b} hab x hx y hy => ?_
    obtain ⟨_, -, rfl⟩ := Option.map_eq_some_iff.1 hx
    obtain ⟨_, -, rfl⟩ := Option.map_eq_some_iff.1 hy
    exact hab
  rw [presentFields, SortedMap.ofList, SortedMap.entries_foldl_insert]
  exact foldl_insertBy_append [] _ hascending

theorem get?_presentFields {m : SortedMap Field (Option Value)} {f : Field} {v : Value} :
    (presentFields m).get? f = some v ↔ m.get? f = some (some v) := by
  rw [SortedMap.get?_eq_some, SortedMap.get?_eq_some, entries_presentFields]
  simp

/-- A value that is read again and is not `null`. -/
structure Present (depth : Nat) (v : Value) : Prop where
  ne_null : v ≠ .null
  again : value depth (.ofValue v) = .ok v

def ownNames : List String :=
  ["cats", "website", "description", "icon", "cpe", "implies", "excludes"]

/-- A value under a name that is no known member. -/
structure Unknown (depth : Nat) (key : String) (v : Value) : Prop where
  no_field : definitionField? key = none
  not_own : key ∉ ownNames
  again : value depth (.ofValue v) = .ok v

theorem nullable_of_ne_null {α : Type} {item : Decoder α} {depth : Nat} {r : Reading}
    (h : r ≠ .null) : nullable item depth r = (item depth r).map some := by
  cases r with
  | null => exact absurd rfl h
  | _ => cases depth <;> rfl

theorem present_of_nullable {depth : Nat} {r : Reading} {v : Value}
    (h : nullable value depth r = .ok (some v)) : Present depth v := by
  by_cases hr : r = .null
  · subst hr
    cases depth <;> cases h
  · rw [nullable_of_ne_null hr] at h
    obtain ⟨w, hw, heq⟩ := ok_of_map h
    obtain rfl := Option.some.inj heq
    refine ⟨?_, value_again r depth w hw⟩
    rintro rfl
    exact hr (eq_ofValue_of_value (by simp) (by simp) hw)

structure DraftRead (depth : Nat) (d : DefinitionDraft) : Prop where
  field : ∀ f v, d.fields.get? f = some (some v) → Present depth v
  implies : ∀ v, d.implies = some (some v) → Present depth v
  excludes : ∀ v, d.excludes = some (some v) → Present depth v
  extra : ∀ key v, d.extra.get? key = some v → Unknown depth key v

theorem ok_of_map_once {α σ : Type} {old : Option α} {item : Decoder α} {depth : Nat} {r : Reading}
    {f : Option α → σ} {s : σ} (h : (once old item depth r).map f = .ok s) :
    ∃ a, item depth r = .ok a ∧ f (some a) = s := by
  obtain ⟨x, hx, rfl⟩ := ok_of_map h
  cases old with
  | some _ => cases hx
  | none =>
    obtain ⟨a, ha, rfl⟩ := ok_of_map hx
    exact ⟨a, ha, rfl⟩

theorem definitionStep_read {depth : Nat} {d d' : DefinitionDraft} {key : String} {r : Reading}
    (hd : DraftRead depth d) (h : definitionStep depth d key r = .ok d') : DraftRead depth d' := by
  unfold definitionStep at h
  split at h
  case h_1 f hfield =>
    obtain ⟨v, hv, rfl⟩ := ok_of_map_once h
    refine ⟨fun g w hw => ?_, hd.implies, hd.excludes, hd.extra⟩
    rw [SortedMap.get?_insert] at hw
    split_ifs at hw
    · obtain rfl : v = some w := Option.some.inj hw
      exact present_of_nullable hv
    · exact hd.field g w hw
  case h_2 hfield =>
    split at h
    case h_6 =>
      obtain ⟨v, hv, rfl⟩ := ok_of_map_once h
      refine ⟨hd.field, fun w hw => ?_, hd.excludes, hd.extra⟩
      obtain rfl : v = some w := Option.some.inj hw
      exact present_of_nullable hv
    case h_7 =>
      obtain ⟨v, hv, rfl⟩ := ok_of_map_once h
      refine ⟨hd.field, hd.implies, fun w hw => ?_, hd.extra⟩
      obtain rfl : v = some w := Option.some.inj hw
      exact present_of_nullable hv
    case h_8 hcats hwebsite hdescription hicon hcpe himplies hexcludes =>
      obtain ⟨v, hv, rfl⟩ := ok_of_map h
      refine ⟨hd.field, hd.implies, hd.excludes, fun k w hw => ?_⟩
      rw [SortedMap.get?_insert] at hw
      split_ifs at hw with hkey
      · obtain rfl := Option.some.inj hw
        subst hkey
        have hnot : key ∉ ownNames := by
          simp only [ownNames, List.mem_cons, List.not_mem_nil, or_false, not_or]
          exact ⟨hcats, hwebsite, hdescription, hicon, hcpe, himplies, hexcludes⟩
        exact ⟨hfield, hnot, value_again r depth v hv⟩
      · exact hd.extra k w hw
    all_goals
      obtain ⟨v, -, rfl⟩ := ok_of_map_once h
      exact ⟨hd.field, hd.implies, hd.excludes, hd.extra⟩

structure DefinitionRead (depth : Nat) (d : Definition) : Prop where
  field : ∀ f v, d.fields.get? f = some v → Present depth v
  implies : ∀ v, d.implies = some v → Present depth v
  excludes : ∀ v, d.excludes = some v → Present depth v
  extra : ∀ e ∈ d.extra.entries, Unknown depth e.1 e.2

theorem definition_read {depth : Nat} {r : Reading} {d : Definition}
    (h : definition depth r = .ok d) : DefinitionRead (depth - 1) d := by
  obtain ⟨draft, hdraft, hdone⟩ := ok_of_bind h
  have hstart : DraftRead (depth - 1) {} := ⟨nofun, nofun, nofun, nofun⟩
  have hread : DraftRead (depth - 1) draft :=
    object_invariant hstart (fun _ _ _ _ hs => definitionStep_read hs) hdraft
  cases hdone
  refine ⟨fun f v hv => hread.field f v (get?_presentFields.1 hv), fun v hv => hread.implies v ?_,
    fun v hv => hread.excludes v ?_, fun e he => hread.extra e.1 e.2 (SortedMap.get?_eq_some.2 he)⟩
  · cases himplies : draft.implies with
    | none => simp [himplies] at hv
    | some w => simpa [himplies] using hv
  · cases hexcludes : draft.excludes with
    | none => simp [hexcludes] at hv
    | some w => simpa [hexcludes] using hv

/-! ## Definitions that are read again -/

theorem definitionField?_name (f : Field) : definitionField? f.name = some f := by
  cases f <;> decide

theorem definitionStep_field {depth : Nat} {d : DefinitionDraft} {key : String} {r : Reading}
    {f : Field} (h : definitionField? key = some f) : definitionStep depth d key r =
      (once (d.fields.get? f) (nullable value) depth r).map fun v =>
        { d with fields := d.fields.insert f (v.getD none) } := by
  unfold definitionStep
  simp only [h]

theorem definitionStep_unknown {depth : Nat} {d : DefinitionDraft} {key : String} {v : Value}
    (h : Unknown depth key v) : definitionStep depth d key (.ofValue v) =
      .ok { d with extra := d.extra.insert key v } := by
  have hnot := h.not_own
  simp only [ownNames, List.mem_cons, List.not_mem_nil, or_false, not_or] at hnot
  unfold definitionStep
  simp only [h.no_field]
  split
  case h_8 =>
    rw [h.again]
    rfl
  all_goals simp at hnot

theorem Present.nullable {depth : Nat} {v : Value} (h : Present depth v) :
    Decode.nullable value depth (.ofValue v) = .ok (some v) := by
  have hnull : Reading.ofValue v ≠ .null := by
    have hne := h.ne_null
    cases v <;> simp_all [Reading.ofValue]
  rw [nullable_of_ne_null hnull, h.again]
  rfl

def headDraft (d : Definition) : DefinitionDraft where
  categories := some d.categories
  website := some d.website
  description := some d.description
  icon := some d.icon
  cpe := some d.cpe

theorem foldMembers_head (d : Definition) {depth : Nat} (hdepth : 1 ≤ depth) :
    foldMembers (definitionStep depth) {} (readingsOfMembers
      [("cats", .array (d.categories.map fun n => .int n.toNat)),
        ("website", .ofOption .string d.website), ("description", .ofOption .string d.description),
        ("icon", .ofOption .string d.icon), ("cpe", .ofOption .string d.cpe)]) =
      .ok (headDraft d) := by
  have hcats : list word32 depth (.ofValue (.array (d.categories.map fun n => .int n.toNat))) =
      .ok d.categories := list_undoes word32_undoes depth hdepth d.categories
  have hoption (s : Option String) := optionalText_undoes depth (Nat.zero_le _) s
  have hnone : ∀ key ∈ ["cats", "website", "description", "icon", "cpe"],
      definitionField? key = none := by decide
  simp [readingsOfMembers, foldMembers, definitionStep, hnone, hcats, hoption _, headDraft]

def takeFields (d : Definition) (m : SortedMap Field (Option Value)) (fs : List Field) :
    SortedMap Field (Option Value) :=
  fs.foldl (fun m f => match d.fields.get? f with
    | none => m
    | some v => m.insert f (some v)) m

theorem foldMembers_fields {d : Definition} {depth : Nat}
    (hfield : ∀ f v, d.fields.get? f = some v → Present depth v) {fs : List Field} (hfs : fs.Nodup)
    {draft : DefinitionDraft} (hnew : ∀ f ∈ fs, draft.fields.get? f = none) :
    foldMembers (definitionStep depth) draft (readingsOfMembers
      (fs.flatMap fun f => Definition.member f.name (d.fields.get? f))) =
      .ok { draft with fields := takeFields d draft.fields fs } := by
  induction fs generalizing draft with
  | nil => rfl
  | cons f fs ih =>
    obtain ⟨hf, hfs⟩ := List.nodup_cons.1 hfs
    have hfree := hnew f (by simp)
    cases hv : d.fields.get? f with
    | none =>
      have hrest := ih hfs fun g hg => hnew g (by simp [hg])
      rw [List.flatMap_cons, hv, Definition.member, List.nil_append, hrest, takeFields, takeFields,
        List.foldl_cons, hv]
    | some v =>
      have hstep : definitionStep depth draft f.name (.ofValue v) =
          .ok { draft with fields := draft.fields.insert f (some v) } := by
        rw [definitionStep_field (definitionField?_name f), hfree]
        simp [(hfield f v hv).nullable]
      have hfree' : ∀ g ∈ fs, (draft.fields.insert f (some v)).get? g = none := by
        intro g hg
        have hne : f ≠ g := fun heq => hf (heq ▸ hg)
        simpa [hne] using hnew g (by simp [hg])
      have hrest := @ih hfs { draft with fields := draft.fields.insert f (some v) } hfree'
      rw [List.flatMap_cons, hv, Definition.member, List.singleton_append, readingsOfMembers,
        foldMembers, hstep, ok_bind, hrest, takeFields, takeFields, List.foldl_cons, hv]

theorem get?_takeFields (d : Definition) (fs : List Field) (m : SortedMap Field (Option Value))
    (g : Field) : (takeFields d m fs).get? g =
      if g ∈ fs then ((d.fields.get? g).map some).or (m.get? g) else m.get? g := by
  induction fs generalizing m with
  | nil => rfl
  | cons f fs ih =>
    rw [takeFields, List.foldl_cons, ← takeFields, ih]
    by_cases hfg : f = g
    · subst hfg
      cases hv : d.fields.get? f <;> simp
    · have hgf : g ≠ f := fun h => hfg h.symm
      cases hv : d.fields.get? f <;> simp [hfg, hgf]

theorem presentFields_takeFields (d : Definition) :
    presentFields (takeFields d .empty Definition.writtenFields) = d.fields := by
  have hall (f : Field) : f ∈ Definition.writtenFields := by cases f <;> decide
  refine SortedMap.ext_get? fun f => Option.ext fun v => ?_
  rw [get?_presentFields, get?_takeFields, if_pos (hall f)]
  cases d.fields.get? f <;> simp [SortedMap.get?, SortedMap.empty]

theorem foldMembers_implies {d : Definition} {depth : Nat} (h : DefinitionRead depth d)
    (m : SortedMap Field (Option Value)) :
    foldMembers (definitionStep depth) { headDraft d with fields := m }
      (readingsOfMembers (Definition.member "implies" d.implies)) =
      .ok { headDraft d with fields := m, implies := d.implies.map some } := by
  have hkey : definitionField? "implies" = none := by decide
  cases himplies : d.implies with
  | none => rfl
  | some v =>
    have hv := (h.implies v himplies).nullable
    simp [Definition.member, readingsOfMembers, foldMembers, definitionStep, hkey, hv, headDraft]

theorem foldMembers_excludes {d : Definition} {depth : Nat} (h : DefinitionRead depth d)
    (m : SortedMap Field (Option Value)) :
    foldMembers (definitionStep depth)
      { headDraft d with fields := m, implies := d.implies.map some }
      (readingsOfMembers (Definition.member "excludes" d.excludes)) =
      .ok { headDraft d with
        fields := m, implies := d.implies.map some, excludes := d.excludes.map some } := by
  have hkey : definitionField? "excludes" = none := by decide
  cases hexcludes : d.excludes with
  | none => rfl
  | some v =>
    have hv := (h.excludes v hexcludes).nullable
    simp [Definition.member, readingsOfMembers, foldMembers, definitionStep, hkey, hv, headDraft]

theorem foldMembers_extra {depth : Nat} {es : List (String × Value)}
    (h : ∀ e ∈ es, Unknown depth e.1 e.2) (draft : DefinitionDraft) :
    foldMembers (definitionStep depth) draft (readingsOfMembers es) =
      .ok { draft with extra := es.foldl (fun m e => m.insert e.1 e.2) draft.extra } := by
  induction es generalizing draft with
  | nil => rfl
  | cons e es ih =>
    have hrest := ih (fun e he => h e (List.mem_cons_of_mem _ he))
      { draft with extra := draft.extra.insert e.1 e.2 }
    rw [readingsOfMembers, foldMembers, definitionStep_unknown (h e (by simp)), ok_bind, hrest]
    rfl

theorem foldMembers_parts {σ : Type} {step : σ → String → Reading → Except Fault σ} {s t u : σ}
    {as bs : List (String × Value)} (has : foldMembers step s (readingsOfMembers as) = .ok t)
    (hbs : foldMembers step t (readingsOfMembers bs) = .ok u) :
    foldMembers step s (readingsOfMembers (as ++ bs)) = .ok u := by
  rw [readingsOfMembers_append, foldMembers_append, has]
  exact hbs

theorem definition_ofValue {depth : Nat} (hdepth : 1 ≤ depth) {d : Definition}
    (h : DefinitionRead depth d) : definition (depth + 1) (.ofValue d.toJson) = .ok d := by
  have hempty : ∀ f ∈ Definition.writtenFields, (headDraft d).fields.get? f = none :=
    fun _ _ => rfl
  have hfields := foldMembers_fields h.field (by decide : Definition.writtenFields.Nodup) hempty
  have hrelated := foldMembers_parts (foldMembers_parts (foldMembers_parts
    (foldMembers_head d hdepth) hfields) (foldMembers_implies h _)) (foldMembers_excludes h _)
  have hmembers := foldMembers_parts hrelated (foldMembers_extra h.extra _)
  rw [definition, Definition.toJson, object_ofValue, hmembers, ok_bind]
  have himplies : (d.implies.map some).getD none = d.implies := by cases d.implies <;> rfl
  have hexcludes : (d.excludes.map some).getD none = d.excludes := by cases d.excludes <;> rfl
  have hextra : d.extra.entries.foldl (fun m e => m.insert e.1 e.2) SortedMap.empty = d.extra :=
    SortedMap.foldl_insert_entries d.extra
  simp only [headDraft, himplies, hexcludes, hextra]
  rw [presentFields_takeFields]
  rfl

/-! ## Documents -/

def TechnologiesRead (depth : Nat) (draft : DocumentDraft) : Prop :=
  ∀ es, draft.technologies = some es → ∀ t ∈ es.1, DefinitionRead depth t.2

theorem documentStep_read {n : Nat} {draft draft' : DocumentDraft} {key : String} {r : Reading}
    (hdraft : TechnologiesRead n draft) (h : documentStep (n + 2) draft key r = .ok draft') :
    TechnologiesRead n draft' := by
  have hread {r : Reading} {es : Entries Definition} (h : pairs definition (n + 2) r = .ok es) :
      TechnologiesRead n { draft with technologies := some es } := by
    intro es' heq
    obtain rfl := Option.some.inj heq
    exact pairs_items (fun r d => definition_read) h
  unfold documentStep at h
  split at h
  · obtain ⟨es, -, rfl⟩ := ok_of_map_once h
    exact hdraft
  · obtain ⟨es, hes, rfl⟩ := ok_of_map_once h
    exact hread hes
  · obtain ⟨es, hes, rfl⟩ := ok_of_map_once h
    exact hread hes
  · obtain ⟨-, -, rfl⟩ := ok_of_map h
    exact hdraft

theorem ruleDocument_read {n : Nat} {r : Reading} {d : RuleDocument}
    (h : ruleDocument (n + 3) r = .ok d) : ∀ t ∈ d.technologies, DefinitionRead n t.2 := by
  obtain ⟨draft, hdraft, hdone⟩ := ok_of_bind h
  have hstart : TechnologiesRead n {} := by simp [TechnologiesRead]
  have hread : TechnologiesRead n draft :=
    record_invariant hstart (fun _ _ _ _ hs => documentStep_read hs) hdraft
  cases hdone
  intro t ht
  change t ∈ (draft.technologies.getD .empty).1 at ht
  cases htechnologies : draft.technologies with
  | none => simp [htechnologies, Entries.empty] at ht
  | some es =>
    rw [htechnologies] at ht
    exact hread es htechnologies t ht

theorem ruleDocument_ofValue {n : Nat} (hn : 1 ≤ n) {d : RuleDocument}
    (h : ∀ t ∈ d.technologies, DefinitionRead n t.2) :
    ruleDocument (n + 3) (.ofValue d.toJson) = .ok d := by
  have hcategories : pairs category (n + 2)
      (.ofValue (.object (d.categories.map fun e => (e.1, e.2.toJson)))) =
      .ok ⟨d.categories, d.categories_nodup⟩ :=
    pairs_ofValue ⟨d.categories, d.categories_nodup⟩
      fun e _ => category_undoes (n + 1) (by omega) e.2
  have htechnologies : pairs definition (n + 2)
      (.ofValue (.object (d.technologies.map fun e => (e.1, e.2.toJson)))) =
      .ok ⟨d.technologies, d.technologies_nodup⟩ :=
    pairs_ofValue ⟨d.technologies, d.technologies_nodup⟩ fun e he => definition_ofValue hn (h e he)
  rw [ruleDocument, RuleDocument.toJson, record_ofValue]
  simp [readingsOfMembers, foldMembers, documentStep, hcategories, htechnologies]

end Json.Decode

open Json Json.Decode

/-! ## What is written -/

def Definition.knownKeys : List String :=
  ["cats", "website", "description", "icon", "cpe"] ++ Definition.writtenFields.map Field.name ++
    ["implies"] ++ ["excludes"]

def Definition.knownMembers (d : Definition) : List (String × Value) :=
  [("cats", .array (d.categories.map fun n => .int n.toNat)),
    ("website", .ofOption .string d.website), ("description", .ofOption .string d.description),
    ("icon", .ofOption .string d.icon), ("cpe", .ofOption .string d.cpe)] ++
  Definition.writtenFields.flatMap (fun f => member f.name (d.fields.get? f)) ++
  member "implies" d.implies ++ member "excludes" d.excludes

theorem Definition.keys_member (key : String) (v : Option Value) :
    ((member key v).map Prod.fst).Sublist [key] := by
  cases v with
  | none => exact List.nil_sublist _
  | some v => exact List.Sublist.refl _

theorem Definition.keys_known (d : Definition) :
    (d.knownMembers.map Prod.fst).Sublist knownKeys := by
  have hfields (fs : List Field) : ((fs.flatMap fun f => member f.name (d.fields.get? f)).map
      Prod.fst).Sublist (fs.map Field.name) := by
    induction fs with
    | nil => exact List.Sublist.refl _
    | cons f fs ih =>
      rw [List.flatMap_cons, List.map_append]
      exact (keys_member f.name _).append ih
  rw [knownMembers, knownKeys, List.map_append, List.map_append, List.map_append]
  exact (((List.Sublist.refl _).append (hfields _)).append (keys_member _ _)).append
    (keys_member _ _)

theorem Json.Decode.Unknown.ne_name {depth : Nat} {key : String} {v : Value}
    (h : Unknown depth key v) (f : Field) : key ≠ f.name := by
  rintro rfl
  have hnone := h.no_field
  rw [definitionField?_name] at hnone
  cases hnone

theorem Json.Decode.Unknown.not_known {depth : Nat} {key : String} {v : Value}
    (h : Unknown depth key v) : key ∉ Definition.knownKeys := by
  have hnot := h.not_own
  simp only [ownNames, List.mem_cons, List.not_mem_nil, or_false, not_or] at hnot
  simp only [Definition.knownKeys, List.mem_append, List.mem_cons, List.mem_map, List.not_mem_nil,
    or_false, not_or, not_exists, not_and]
  exact ⟨⟨⟨⟨hnot.1, hnot.2.1, hnot.2.2.1, hnot.2.2.2.1, hnot.2.2.2.2.1⟩,
    fun f _ heq => h.ne_name f heq.symm⟩, hnot.2.2.2.2.2.1⟩, hnot.2.2.2.2.2.2⟩

theorem Definition.ne_null_of_known {depth : Nat} {d : Definition} (h : DefinitionRead depth d)
    {m : String × Value} (hm : m ∈ d.knownMembers) (f : Field) (hkey : m.1 = f.name) :
    m.2 ≠ .null := by
  have hown (hin : m.1 ∈ ownNames) : m.2 ≠ .null := by
    have hnone : ∀ key ∈ ownNames, definitionField? key = none := by decide
    have hm := hnone m.1 hin
    rw [hkey, definitionField?_name] at hm
    cases hm
  have hmember {key : String} {v : Option Value} (hin : m ∈ member key v) : m.1 = key := by
    cases v with
    | none => cases hin
    | some v => rw [List.mem_singleton.1 hin]
  rw [knownMembers, List.mem_append, List.mem_append, List.mem_append] at hm
  rcases hm with ((hm | hm) | hm) | hm
  · refine hown ?_
    simp only [List.mem_cons, List.not_mem_nil, or_false] at hm
    rcases hm with rfl | rfl | rfl | rfl | rfl <;> simp [ownNames]
  · obtain ⟨g, -, hin⟩ := List.mem_flatMap.1 hm
    cases hv : d.fields.get? g with
    | none => simp [hv, member] at hin
    | some v =>
      rw [hv] at hin
      rw [List.mem_singleton.1 hin]
      exact (h.field g v hv).ne_null
  · exact hown (by simp [hmember hm, ownNames])
  · exact hown (by simp [hmember hm, ownNames])

/-- Members are written once, none of them under an old name, and no field as `null`. -/
theorem Definition.written {depth : Nat} {d : Definition} (h : DefinitionRead depth d) :
    ∃ members, d.toJson = .object members ∧ (members.map Prod.fst).Nodup ∧
      ∀ m ∈ members, m.1 ≠ "certIssuer" ∧ ∀ f : Field, m.1 = f.name → m.2 ≠ .null := by
  refine ⟨d.knownMembers ++ d.extra.entries, rfl, ?_, fun m hm => ?_⟩
  · rw [List.map_append, List.nodup_append]
    refine ⟨d.keys_known.nodup (by decide), nodup_of_ascending d.extra.ascending, ?_⟩
    rintro key hknown _ hextra rfl
    obtain ⟨e, he, rfl⟩ := List.mem_map.1 hextra
    exact (h.extra e he).not_known (d.keys_known.subset hknown)
  · rcases List.mem_append.1 hm with hm | hm
    · have hin : m.1 ∈ knownKeys := d.keys_known.subset (List.mem_map_of_mem hm)
      have hold : "certIssuer" ∉ knownKeys := by decide
      exact ⟨fun heq => hold (heq ▸ hin), ne_null_of_known h hm⟩
    · have hunknown := h.extra m hm
      refine ⟨fun heq => ?_, fun f hf => absurd hf (hunknown.ne_name f)⟩
      have hnone := hunknown.no_field
      rw [heq] at hnone
      exact absurd hnone (by decide)

/-- A document that was read from a text or from bytes is given back by its own text, so that it
compiles to the same in either mode. Members are written once, under their new names, and fields
that were `null` are not. The numbers of the document are taken to be such as are read back from
what is printed for them. -/
theorem RuleDocument.read_again {d : RuleDocument}
    (hread : (∃ s, decodeText ruleDocument s = .ok d) ∨
      ∃ bytes, decodeBytes ruleDocument bytes = .ok d)
    (hnumbers : ∀ n ∈ d.toJson.numbers, decodeText value n.text = .ok (.number n)) :
    decodeText ruleDocument d.toJson.compact = .ok d ∧
      decodeBytes ruleDocument (Text.utf8Bytes d.toJson.compact) = .ok d ∧
      (∀ mode hook, (decodeText ruleDocument d.toJson.compact).map (·.compile mode hook) =
        .ok (d.compile mode hook)) ∧
      (∃ categories technologies, d.toJson =
        .object [("categories", categories), ("technologies", technologies)]) ∧
      ∀ t ∈ d.technologies, ∃ members, t.2.toJson = .object members ∧
        (members.map Prod.fst).Nodup ∧
        ∀ m ∈ members, m.1 ≠ "certIssuer" ∧ ∀ f : Field, m.1 = f.name → m.2 ≠ .null := by
  have hdepth : maxDepth = 124 + 3 := rfl
  have hdefinitions : ∀ t ∈ d.technologies, DefinitionRead 124 t.2 := by
    rcases hread with ⟨s, h⟩ | ⟨bytes, h⟩ <;>
      · obtain ⟨d', hd', hdone⟩ := ok_of_bind h
        obtain rfl := finish_eq_ok hdone
        exact ruleDocument_read hd'
  have hreadable : d.toJson.Readable :=
    d.toJson.readable_of_numbers fun n hn => Number.readsBack (hnumbers n hn)
  have hvalue : ruleDocument maxDepth (.ofValue d.toJson) = .ok d := by
    rw [hdepth]
    exact ruleDocument_ofValue (by omega) hdefinitions
  have htext : decodeText ruleDocument d.toJson.compact = .ok d := by
    rw [decodeText_compact ruleDocument hreadable, hvalue]
  refine ⟨htext, ?_, fun mode hook => ?_, ⟨_, _, rfl⟩, fun t ht =>
    Definition.written (hdefinitions t ht)⟩
  · rw [decodeBytes_compact ruleDocument hreadable, hvalue]
  · rw [htext]
    rfl

def Json.Value.numbersReadBack (v : Value) : Bool :=
  v.numbers.all fun n => match decodeText value n.text with
    | .ok (.number m) => m = n
    | _ => false

theorem Json.Value.of_numbersReadBack {v : Value} (h : v.numbersReadBack = true) :
    ∀ n ∈ v.numbers, decodeText value n.text = .ok (.number n) := by
  intro n hn
  have hone := List.all_eq_true.1 h n hn
  split at hone
  · rename_i m hm
    rw [hm, of_decide_eq_true hone]
  · cases hone

/-- Both old spellings, both forms of a category, a field that is `null`, and a double. -/
def oldDocument : String :=
  "\x7b\"categories\":\x7b\"1\":\"CMS\",\"x\":\x7b\"name\":\"Shops\",\"priority\":3\x7d\x7d," ++
    "\"apps\":\x7b\"Shop\":\x7b\"cats\":[1],\"certIssuer\":\"ACME\",\"html\":null," ++
    "\"saas\":[-0.25,null]\x7d\x7d\x7d"

def oldDocumentRewritten : String :=
  "\x7b\"categories\":\x7b\"1\":\"CMS\",\"x\":\x7b\"name\":\"Shops\",\"priority\":3\x7d\x7d," ++
    "\"technologies\":\x7b\"Shop\":\x7b\"cats\":[1],\"website\":null,\"description\":null," ++
    "\"icon\":null,\"cpe\":null,\"cert_issuer\":\"ACME\",\"saas\":[-0.25,null]\x7d\x7d\x7d"

theorem RuleDocument.read_again_old : ∃ d, decodeText ruleDocument oldDocument = .ok d ∧
    d.toJson.compact = oldDocumentRewritten ∧
    decodeText ruleDocument oldDocumentRewritten = .ok d := by
  have hfacts : (decodeText ruleDocument oldDocument).toOption.map
      (fun d => (d.toJson.compact, d.toJson.numbersReadBack)) =
      some (oldDocumentRewritten, true) := by
    decide +kernel
  obtain ⟨d, hread, hd⟩ := Option.map_eq_some_iff.1 hfacts
  obtain ⟨htext, hnumbers⟩ := Prod.mk.inj hd
  have hold := ok_of_toOption hread
  have hagain := (read_again (.inl ⟨_, hold⟩) (Value.of_numbersReadBack hnumbers)).1
  rw [htext] at hagain
  exact ⟨d, hold, htext, hagain⟩

end Webprint
