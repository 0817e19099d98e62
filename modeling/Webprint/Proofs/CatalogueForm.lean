import Webprint.Analysis
import Webprint.Proofs.Catalogue
import Webprint.Proofs.Confidence
import Webprint.Proofs.Decoding

set_option autoImplicit false

/-!
# The text of a catalogue

A catalogue is given back whole by decoding its text. For each part of a signature, the decoder
undoes the JSON form; what the form leaves out is what the decoder puts in.
-/

namespace Webprint.Json.Decode

/-! ## Names -/

theorem ofName?_shape (h : Shape) : Shape.ofName? h.name = some h := by
  cases h <;> decide

theorem ofName?_field (f : Field) : Field.ofName? f.name = some f := by
  cases f <;> decide

/-! ## Patterns -/

theorem confidence_ofValue (depth : Nat) (c : Confidence) :
    confidence depth (.ofValue (.int c.value)) = .ok c := by
  have hlo := c.lower
  have hhi := c.upper
  have hin : Confidence.least ≤ c.value ∧ c.value < Confidence.greatest + 1 := by omega
  cases depth <;> simp [confidence, Value.int, Reading.ofValue, integer, hin, bind, Except.bind,
    pure, Except.pure, Confidence.clamp_value]

theorem eq_empty_of_isEmpty {m : SortedMap String String} (h : m.isEmpty) : m = .empty :=
  SortedMap.ext (List.isEmpty_iff.1 h)

theorem patternSpec_undoes : Undoes patternSpec PatternSpec.toJson 2 := by
  refine undoes_succ fun depth hd s => ?_
  obtain ⟨regex, weight, version, keyRegex, attributes⟩ := s
  have hregex := text_undoes depth (by omega) regex
  have hweight := confidence_ofValue depth weight
  have hversion := text_undoes depth (by omega) version
  have hattributes : sortedMap text depth (.ofValue (.object
      (attributes.entries.map fun e => (e.1, .string e.2)))) = .ok attributes :=
    sortedMap_undoes text_undoes depth hd attributes
  have hkey : bool depth (.ofValue (.bool true)) = .ok true := by
    cases depth <;> rfl
  rw [patternSpec, PatternSpec.toJson, record_ofValue]
  cases keyRegex <;> by_cases hempty : attributes.isEmpty <;>
    simp [readingsOfMembers, foldMembers, patternSpecStep, hregex, hweight, hversion, hkey,
      hattributes, required, hempty]
  all_goals exact (eq_empty_of_isEmpty hempty).symm

theorem pattern_undoes : Undoes pattern Pattern.toJson 2 := by
  intro depth hd p
  rw [pattern, Pattern.toJson, patternSpec_undoes depth hd p.spec, ok_bind, Pattern.ofSpec?_spec]
  rfl

theorem ofPatterns?_patterns (e : KeyedPatterns) :
    KeyedPatterns.ofPatterns? e.key e.patterns = .ok e := by
  unfold KeyedPatterns.ofPatterns?
  split
  · exact congrArg _ (KeyedPatterns.ext_patterns rfl rfl)
  · rename_i h
    rw [e.compiled] at h
    cases h

theorem keyedPatterns_undoes : Undoes keyedPatterns KeyedPatterns.toJson 4 := by
  refine undoes_succ fun depth hd e => ?_
  have hkey := text_undoes depth (by omega) e.key
  have hpatterns : list pattern depth (.ofValue (.array (e.patterns.map Pattern.toJson))) =
      .ok e.patterns := list_undoes pattern_undoes depth (by omega) e.patterns
  rw [keyedPatterns, KeyedPatterns.toJson, record_ofValue]
  simp [readingsOfMembers, foldMembers, keyedStep, hkey, hpatterns, required, ofPatterns?_patterns,
    compiled]

/-! ## Matchers -/

/-- What is written behind the shape of a matcher. -/
def patternsForm : Matcher → List Value
  | .scalar patterns => patterns.map Pattern.toJson
  | .list patterns => patterns.map Pattern.toJson
  | .keyed entries => entries.map KeyedPatterns.toJson

theorem matcherOf_shape (depth : Nat) (hd : 5 ≤ depth) (m : Matcher) :
    matcherOf m.shape depth (.ofValue (.array (patternsForm m))) = .ok m := by
  cases m with
  | scalar patterns =>
    have h : list pattern depth (.ofValue (.array (patterns.map Pattern.toJson))) = .ok patterns :=
      list_undoes pattern_undoes depth (by omega) patterns
    exact congrArg (Except.map Matcher.scalar) h
  | list patterns =>
    have h : list pattern depth (.ofValue (.array (patterns.map Pattern.toJson))) = .ok patterns :=
      list_undoes pattern_undoes depth (by omega) patterns
    exact congrArg (Except.map Matcher.list) h
  | keyed entries =>
    have h : list keyedPatterns depth (.ofValue (.array (entries.map KeyedPatterns.toJson))) =
        .ok entries := list_undoes keyedPatterns_undoes depth (by omega) entries
    exact congrArg (Except.map Matcher.keyed) h

theorem matcher_undoes : Undoes matcher Matcher.toJson 6 := by
  refine undoes_succ fun depth hd m => ?_
  have hshape : name Shape.ofName? depth (.ofValue (.string m.shape.name)) = .ok m.shape := by
    cases depth <;> simp [Reading.ofValue, name, ofName?_shape, required]
  have hpatterns := matcherOf_shape depth (by omega) m
  have hform : m.toJson =
      .object [("shape", .string m.shape.name), ("patterns", .array (patternsForm m))] := by
    cases m <;> rfl
  rw [matcher, hform, record_ofValue]
  simp [readingsOfMembers, foldMembers, matcherStep, once, hshape, hpatterns, Except.map, required]

theorem matchers_undoes :
    Undoes matchers (fun m => .object (m.entries.map fun e => (e.1.name, e.2.toJson))) 7 := by
  refine undoes_succ fun depth hd m => ?_
  rw [matchers, object_ofValue, foldMembers_map m.entries SortedMap.empty,
    SortedMap.foldl_insert_entries]
  intro n e _
  rw [ofName?_field, matcher_undoes depth (by omega) e.2]
  rfl

/-! ## Signatures -/

theorem relation_undoes : Undoes relation Relation.toJson 1 := by
  refine undoes_succ fun depth hd r => ?_
  have htarget := text_undoes depth (by omega) r.target
  have hweight := confidence_ofValue depth r.confidence
  rw [relation, Relation.toJson, record_ofValue]
  simp [readingsOfMembers, foldMembers, relationStep, htarget, hweight, required]

theorem strings_undoes : Undoes (list text) Value.strings 1 :=
  list_undoes text_undoes

theorem optionalText_undoes : Undoes (nullable text) (Value.ofOption .string) 0 :=
  nullable_undoes text_undoes fun _ => by simp

theorem profile_members (p : Profile) :
    ∃ d, foldMembers (profileStep maxDepth) {} (readingsOfMembers p.members) = .ok d ∧
      d.finish = .ok p := by
  have hname := text_undoes maxDepth (by decide) p.name
  have hslug := text_undoes maxDepth (by decide) p.slug
  have hdescription := optionalText_undoes maxDepth (by decide) p.description
  have hwebsite := optionalText_undoes maxDepth (by decide) p.website
  have hcpe := optionalText_undoes maxDepth (by decide) p.cpe
  have hicon := text_undoes maxDepth (by decide) p.icon
  have hcategories := strings_undoes maxDepth (by decide) p.categories
  refine ⟨⟨some p.name, some p.slug, some p.description, some p.website, some p.cpe, some p.icon,
    some p.categories⟩, ?_, rfl⟩
  simp [Profile.members, readingsOfMembers, foldMembers, profileStep, hname, hslug, hdescription,
    hwebsite, hcpe, hicon, hcategories]

theorem values_strings (depth : Nat) (ss : List String) :
    values depth (readingsOfValues (ss.map .string)) = .ok (ss.map .string) := by
  induction ss with
  | nil => rfl
  | cons s ss ih =>
    simp only [List.map_cons, readingsOfValues, values, ih]
    cases depth <;> rfl

theorem value_profile (depth : Nat) (hd : 1 ≤ depth) (p : Profile) :
    ∀ m ∈ p.members, value depth (.ofValue m.2) = .ok m.2 := by
  obtain ⟨depth, rfl⟩ : ∃ n, depth = n + 1 := ⟨depth - 1, by omega⟩
  have hstring (s : String) : value (depth + 1) (.ofValue (.string s)) = .ok (.string s) := rfl
  have hoption (s : Option String) :
      value (depth + 1) (.ofValue (.ofOption .string s)) = .ok (.ofOption .string s) := by
    cases s <;> rfl
  have hstrings (ss : List String) :
      value (depth + 1) (.ofValue (.strings ss)) = .ok (.strings ss) := by
    simp only [Value.strings, Reading.ofValue, value, values_strings]
    rfl
  simp [Profile.members, hstring, hoption, hstrings]

theorem foldMembers_kept {depth : Nat} (members : List (String × Value)) (d : SignatureDraft)
    (hkey : ∀ m ∈ members, m.1 ≠ "matchers" ∧ m.1 ≠ "implies" ∧ m.1 ≠ "excludes")
    (hvalue : ∀ m ∈ members, value depth (.ofValue m.2) = .ok m.2) :
    foldMembers (signatureStep depth) d (readingsOfMembers members) =
      .ok { d with others := d.others ++ readingsOfMembers members } := by
  induction members generalizing d with
  | nil => simp [readingsOfMembers, foldMembers]
  | cons m members ih =>
    obtain ⟨k, v⟩ := m
    obtain ⟨hm, hi, he⟩ := hkey (k, v) (by simp)
    have hv := hvalue (k, v) (by simp)
    have hrest := ih { d with others := d.others ++ [(some k, .ofValue v)] }
      (fun m hm => hkey m (by simp [hm])) (fun m hm => hvalue m (by simp [hm]))
    simp [readingsOfMembers, foldMembers, signatureStep, hv, Except.map, hrest]

theorem signature_undoes : Undoes signature Signature.toJson 8 := by
  refine undoes_succ fun depth hd s => ?_
  have hkept := foldMembers_kept s.profile.members {} (by simp [Profile.members])
    (value_profile depth (by omega) s.profile)
  have hmatchers : matchers depth (.ofValue (.object
      (s.matchers.entries.map fun e => (e.1.name, e.2.toJson)))) = .ok s.matchers :=
    matchers_undoes depth (by omega) s.matchers
  have himplies : list relation depth (.ofValue (.array (s.implies.map Relation.toJson))) =
      .ok s.implies := list_undoes relation_undoes depth (by omega) s.implies
  have hexcludes : list relation depth (.ofValue (.array (s.excludes.map Relation.toJson))) =
      .ok s.excludes := list_undoes relation_undoes depth (by omega) s.excludes
  obtain ⟨d, hd, hfinish⟩ := profile_members s.profile
  rw [signature, Signature.toJson, object_ofValue, readingsOfMembers_append, foldMembers_append,
    hkept]
  simp [Except.bind, readingsOfMembers, foldMembers, signatureStep, hmatchers, himplies, hexcludes,
    hd, hfinish]

/-! ## Catalogues -/

def byName (c : Catalogue) : SortedMap String Signature :=
  ⟨c.signatures.map fun s => (s.name, s), by
    rw [Ascending, List.pairwise_map]
    exact c.ascending⟩

theorem values_byName (c : Catalogue) : (byName c).values = c.signatures := by
  simp [byName, SortedMap.values, Function.comp_def]

theorem catalogue_undoes : Undoes catalogue Catalogue.toJson 9 := by
  intro depth hd c
  have hform : c.toJson = .object ((byName c).entries.map fun e => (e.1, e.2.toJson)) := by
    simp [Catalogue.toJson, byName, Function.comp_def]
  have hmap := sortedMap_undoes signature_undoes depth hd (byName c)
  rw [catalogue, hform, hmap, ok_bind, values_byName, Catalogue.ofSignatures_signatures]
  rfl

/-! ## The text -/

theorem readable_confidence (c : Confidence) : (Value.int c.value).Readable := by
  have hlo := c.lower
  have hhi := c.upper
  have hleast : -(Nat.pow 2 63 : Int) = Confidence.least := by decide
  have hgreatest : Confidence.greatest < (Nat.pow 2 64 : Int) := by decide
  exact .number (readsBack_integer (by omega) (by omega))

theorem readable_option (s : Option String) : (Value.ofOption .string s).Readable := by
  cases s with
  | none => exact .null
  | some s => exact .string s

@[simp] theorem readable_array {α : Type} {form : α → Value} (as : List α)
    (h : ∀ a, (form a).Readable) : (Value.array (as.map form)).Readable := by
  apply Value.Readable.array
  intro v hv
  obtain ⟨a, -, rfl⟩ := List.mem_map.1 hv
  exact h a

theorem readable_object {α : Type} {key : α → String} {form : α → Value} (as : List α)
    (h : ∀ a, (form a).Readable) :
    (Value.object (as.map fun a => (key a, form a))).Readable := by
  apply Value.Readable.object
  intro m hm
  obtain ⟨a, -, rfl⟩ := List.mem_map.1 hm
  exact h a

theorem readable_pattern (p : Pattern) : p.toJson.Readable := by
  have hattributes : (Value.object (p.spec.attributes.entries.map
      fun e => (e.1, .string e.2))).Readable := readable_object _ fun e => .string e.2
  have hweight := readable_confidence p.spec.confidence
  apply Value.Readable.object
  cases p.spec.keyRegex <;> cases p.spec.attributes.isEmpty <;>
    simp [Value.Readable.string, Value.Readable.bool, hattributes, hweight]

theorem readable_keyedPatterns (e : KeyedPatterns) : e.toJson.Readable := by
  have hpatterns := readable_array e.patterns readable_pattern
  apply Value.Readable.object
  simp [Value.Readable.string, hpatterns]

theorem readable_matcher (m : Matcher) : m.toJson.Readable := by
  apply Value.Readable.object
  cases m with
  | scalar patterns => simp [Value.Readable.string, readable_array patterns readable_pattern]
  | list patterns => simp [Value.Readable.string, readable_array patterns readable_pattern]
  | keyed entries => simp [Value.Readable.string, readable_array entries readable_keyedPatterns]

theorem readable_relation (r : Relation) : r.toJson.Readable := by
  have hweight := readable_confidence r.confidence
  apply Value.Readable.object
  simp [Value.Readable.string, hweight]

theorem readable_signature (s : Signature) : s.toJson.Readable := by
  have hcategories : (Value.strings s.profile.categories).Readable :=
    readable_array s.profile.categories .string
  have hmatchers : (Value.object (s.matchers.entries.map
      fun e => (e.1.name, e.2.toJson))).Readable := readable_object _ fun e => readable_matcher e.2
  have himplies := readable_array s.implies readable_relation
  have hexcludes := readable_array s.excludes readable_relation
  apply Value.Readable.object
  simp [Profile.members, Value.Readable.string, readable_option, hcategories, hmatchers, himplies,
    hexcludes]

theorem readable_catalogue (c : Catalogue) : c.toJson.Readable :=
  readable_object c.signatures readable_signature

theorem decodeText_catalogue (c : Catalogue) : decodeText catalogue c.toJson.compact = .ok c := by
  rw [decodeText_compact catalogue (readable_catalogue c)]
  exact catalogue_undoes maxDepth (by decide) c

/-- The text of a catalogue gives back its signatures in their order, with all that belongs to them,
so that every page is reported as before. -/
theorem catalogue_restored (c : Catalogue) :
    ∃ d, decodeText catalogue c.toJson.compact = .ok d ∧ d.signatures = c.signatures ∧
      d.hasRelations = c.hasRelations ∧
      ∀ s, Analysis.reports (Analysis.analyze d s) = Analysis.reports (Analysis.analyze c s) :=
  ⟨c, decodeText_catalogue c, rfl, rfl, fun _ => rfl⟩

end Webprint.Json.Decode
