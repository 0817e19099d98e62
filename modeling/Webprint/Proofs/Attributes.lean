import Mathlib.Data.List.TakeDrop
import Mathlib.Data.List.TakeWhile
import Webprint.Pattern.Text
import Webprint.Proofs.Ascending
import Webprint.Proofs.LenientInteger
import Webprint.Proofs.NumberText
import Webprint.Proofs.Search

set_option autoImplicit false

/-!
# Attributes of written patterns

What the attributes of a written pattern make of its specification depends on one thing only: the value
that was assigned last under each name. So pieces that assign nothing may stand anywhere, of several
pieces with one name the last counts, and a specification that is written as its expression and its
attributes, in whatever order, is read back.
-/

namespace Webprint

namespace Pattern

/-! ## Assignments -/

theorem attribute?_of_not_mem {piece : List Char} (h : ':' ∉ piece) : attribute? piece = none := by
  have hpass : ∀ c ∈ piece, (c != ':') = true := fun c hc => bne_iff_ne.2 (ne_of_mem_of_not_mem hc h)
  rw [attribute?, List.span_eq_takeWhile_dropWhile, List.dropWhile_eq_nil_iff.2 hpass]

theorem attribute?_append {name : List Char} (h : ':' ∉ name) (value : List Char) :
    attribute? (name ++ ':' :: value) = some (name, value) := by
  have hpass : ∀ c ∈ name, (c != ':') = true := fun c hc => bne_iff_ne.2 (ne_of_mem_of_not_mem hc h)
  rw [attribute?, List.span_eq_takeWhile_dropWhile, List.takeWhile_append_of_pos hpass,
    List.dropWhile_append_of_pos hpass]
  simp

def valueUnder? (name : String) (piece : List Char) : Option (List Char) :=
  (attribute? piece).bind fun a => if String.ofList a.1 = name then some a.2 else none

theorem valueUnder?_of_not_mem {piece : List Char} (h : ':' ∉ piece) (name : String) :
    valueUnder? name piece = none := by
  rw [valueUnder?, attribute?_of_not_mem h]
  rfl

def lastValue? (name : String) (pieces : List (List Char)) : Option (List Char) :=
  pieces.reverse.findSome? (valueUnder? name)

@[simp] theorem lastValue?_append (name : String) (ps qs : List (List Char)) :
    lastValue? name (ps ++ qs) = (lastValue? name qs).or (lastValue? name ps) := by
  rw [lastValue?, List.reverse_append, List.findSome?_append]
  rfl

@[simp] theorem lastValue?_singleton (name : String) (piece : List Char) :
    lastValue? name [piece] = valueUnder? name piece := by
  simp [lastValue?]

theorem lastValue?_cons (name : String) (piece : List Char) (ps : List (List Char)) :
    lastValue? name (piece :: ps) = (lastValue? name ps).or (valueUnder? name piece) := by
  rw [← List.singleton_append, lastValue?_append, lastValue?_singleton]

theorem lastValue?_eq_none {name : String} {ps : List (List Char)}
    (h : ∀ piece ∈ ps, valueUnder? name piece = none) : lastValue? name ps = none := by
  rw [lastValue?, List.findSome?_eq_none_iff]
  exact fun piece hpiece => h piece (List.mem_reverse.1 hpiece)

/-! ## What attributes make of a specification -/

/-- The names of attributes with a meaning of their own. -/
def knownNames : List String := ["confidence", "version", "key_regex"]

def assign (spec : PatternSpec) (name : String) (value : List Char) : PatternSpec :=
  match name with
  | "confidence" => { spec with confidence := lenientInteger value }
  | "version" => { spec with version := String.ofList value }
  | "key_regex" => { spec with keyRegex := isTruthy value }
  | name => { spec with attributes := spec.attributes.insert name (String.ofList value) }

theorem addPiece_eq (spec : PatternSpec) (piece : List Char) : addPiece spec piece =
    ((attribute? piece).map fun a => assign spec (String.ofList a.1) a.2).getD spec := by
  unfold addPiece
  cases attribute? piece <;> rfl

structure Unassigned (name : String) (spec result : PatternSpec) : Prop where
  regex : result.regex = spec.regex
  confidence : name ≠ "confidence" → result.confidence = spec.confidence
  version : name ≠ "version" → result.version = spec.version
  keyRegex : name ≠ "key_regex" → result.keyRegex = spec.keyRegex
  attributes : ∀ other, name ∈ knownNames ∨ name ≠ other →
    result.attributes.get? other = spec.attributes.get? other

theorem unassigned_assign (spec : PatternSpec) (name : String) (value : List Char) :
    Unassigned name spec (assign spec name value) := by
  unfold assign
  split
  case h_1 => exact ⟨rfl, fun h => absurd rfl h, fun _ => rfl, fun _ => rfl, fun _ _ => rfl⟩
  case h_2 => exact ⟨rfl, fun _ => rfl, fun h => absurd rfl h, fun _ => rfl, fun _ _ => rfl⟩
  case h_3 => exact ⟨rfl, fun _ => rfl, fun _ => rfl, fun h => absurd rfl h, fun _ _ => rfl⟩
  case h_4 hconfidence hversion hkeyRegex =>
    refine ⟨rfl, fun _ => rfl, fun _ => rfl, fun _ => rfl, ?_⟩
    rintro other (hknown | hother)
    · simp only [knownNames, List.mem_cons, List.not_mem_nil, or_false] at hknown
      exact (hknown.elim hconfidence fun h => h.elim hversion hkeyRegex).elim
    · simp [hother]

theorem assign_unknown (spec : PatternSpec) {name : String} (h : name ∉ knownNames)
    (value : List Char) : assign spec name value =
      { spec with attributes := spec.attributes.insert name (String.ofList value) } := by
  unfold assign
  split
  case h_4 => rfl
  all_goals exact absurd (by decide) h

section Runs

variable {β : Type} {π : PatternSpec → β}

/-- A part of the specification that only attributes of one name set is what was set last. -/
theorem foldl_addPiece_set {name : String} {read : List Char → β}
    (hset : ∀ spec value, π (assign spec name value) = read value)
    (hkept : ∀ spec other value, other ≠ name → π (assign spec other value) = π spec)
    (spec : PatternSpec) (ps : List (List Char)) :
    π (ps.foldl addPiece spec) = ((lastValue? name ps).map read).getD (π spec) := by
  induction ps generalizing spec with
  | nil => rfl
  | cons piece ps ih =>
    have hstep : π (addPiece spec piece) = ((valueUnder? name piece).map read).getD (π spec) := by
      rw [addPiece_eq, valueUnder?]
      cases attribute? piece with
      | none => rfl
      | some a =>
        by_cases hname : String.ofList a.1 = name
        · simp [hname, hset]
        · simp [hname, hkept spec _ a.2 hname]
    rw [List.foldl_cons, ih, hstep, lastValue?_cons]
    cases lastValue? name ps <;> rfl

theorem foldl_addPiece_kept (hkept : ∀ spec name value, π (assign spec name value) = π spec)
    (spec : PatternSpec) (ps : List (List Char)) : π (ps.foldl addPiece spec) = π spec := by
  induction ps generalizing spec with
  | nil => rfl
  | cons piece ps ih =>
    rw [List.foldl_cons, ih, addPiece_eq]
    cases attribute? piece with
    | none => rfl
    | some a => exact hkept spec (String.ofList a.1) a.2

end Runs

structure Assigned (spec : PatternSpec) (ps : List (List Char)) (result : PatternSpec) : Prop where
  regex : result.regex = spec.regex
  confidence : result.confidence =
    ((lastValue? "confidence" ps).map lenientInteger).getD spec.confidence
  version : result.version = ((lastValue? "version" ps).map String.ofList).getD spec.version
  keyRegex : result.keyRegex = ((lastValue? "key_regex" ps).map isTruthy).getD spec.keyRegex
  known : ∀ name ∈ knownNames, result.attributes.get? name = spec.attributes.get? name
  unknown : ∀ name, name ∉ knownNames → result.attributes.get? name =
    ((lastValue? name ps).map fun v => some (String.ofList v)).getD (spec.attributes.get? name)

theorem assigned_foldl (spec : PatternSpec) (ps : List (List Char)) :
    Assigned spec ps (ps.foldl addPiece spec) where
  regex := foldl_addPiece_kept (fun _ _ _ => (unassigned_assign ..).regex) spec ps
  confidence := foldl_addPiece_set (fun _ _ => rfl)
    (fun _ _ _ hne => (unassigned_assign ..).confidence hne) spec ps
  version := foldl_addPiece_set (fun _ _ => rfl)
    (fun _ _ _ hne => (unassigned_assign ..).version hne) spec ps
  keyRegex := foldl_addPiece_set (fun _ _ => rfl)
    (fun _ _ _ hne => (unassigned_assign ..).keyRegex hne) spec ps
  known name hname := by
    refine foldl_addPiece_kept (π := fun spec => spec.attributes.get? name) ?_ spec ps
    intro spec other value
    refine (unassigned_assign spec other value).attributes name ?_
    by_cases h : other = name
    · exact .inl (h ▸ hname)
    · exact .inr h
  unknown name hname := by
    refine foldl_addPiece_set (π := fun spec => spec.attributes.get? name) ?_ ?_ spec ps
    · intro spec value
      simp [assign_unknown spec hname]
    · exact fun spec other value hne => (unassigned_assign spec other value).attributes name (.inr hne)

theorem Assigned.unique {spec p q : PatternSpec} {ps : List (List Char)} (hp : Assigned spec ps p)
    (hq : Assigned spec ps q) : p = q := by
  have hattributes : p.attributes = q.attributes := by
    refine SortedMap.ext_get? fun name => ?_
    by_cases h : name ∈ knownNames
    · rw [hp.known name h, hq.known name h]
    · rw [hp.unknown name h, hq.unknown name h]
  have hregex := hp.regex.trans hq.regex.symm
  have hconfidence := hp.confidence.trans hq.confidence.symm
  have hversion := hp.version.trans hq.version.symm
  have hkey := hp.keyRegex.trans hq.keyRegex.symm
  cases p
  cases q
  simp_all

/-- Pieces that give every name the same last value make the same specification. -/
theorem foldl_addPiece_congr {ps qs : List (List Char)}
    (h : ∀ name, lastValue? name ps = lastValue? name qs) (spec : PatternSpec) :
    ps.foldl addPiece spec = qs.foldl addPiece spec := by
  have hps := assigned_foldl spec ps
  have hqs : Assigned spec qs (ps.foldl addPiece spec) :=
    ⟨hps.regex, h "confidence" ▸ hps.confidence, h "version" ▸ hps.version,
      h "key_regex" ▸ hps.keyRegex, hps.known, fun name hname => h name ▸ hps.unknown name hname⟩
  exact hqs.unique (assigned_foldl spec qs)

/-! ## Written attributes -/

def assignment (a : String × String) : String := a.1 ++ ":" ++ a.2

def written (expression : String) (pieces : List String) : String :=
  "\\;".intercalate (expression :: pieces)

@[simp] theorem toList_assignment (a : String × String) :
    (assignment a).toList = a.1.toList ++ ':' :: a.2.toList := by
  rw [assignment, String.toList_append, String.toList_append, List.append_assoc]
  rfl

theorem valueUnder?_assignment {a : String × String} (h : ':' ∉ a.1.toList) (name : String) :
    valueUnder? name (assignment a).toList = if a.1 = name then some a.2.toList else none := by
  rw [valueUnder?, toList_assignment, attribute?_append h, Option.bind_some, String.ofList_toList]

theorem lastValue?_assignments {as : List (String × String)} (hcolon : ∀ a ∈ as, ':' ∉ a.1.toList)
    (hnames : (as.map Prod.fst).Nodup) (name : String) :
    lastValue? name (as.map fun a => (assignment a).toList) =
      (as.find? fun a => a.1 = name).map fun a => a.2.toList := by
  induction as with
  | nil => rfl
  | cons a as ih =>
    obtain ⟨ha, hrest⟩ := List.nodup_cons.1 hnames
    have hlast := ih (fun b hb => hcolon b (by simp [hb])) hrest
    rw [List.map_cons, lastValue?_cons, hlast, valueUnder?_assignment (hcolon a (by simp)),
      List.find?_cons]
    by_cases hname : a.1 = name
    · have hnone : (as.find? fun b => b.1 = name) = none := by
        rw [List.find?_eq_none]
        intro b hb heq
        exact ha (List.mem_map.2 ⟨b, hb, (of_decide_eq_true heq).trans hname.symm⟩)
      simp [hname, hnone]
    · simp [hname]

theorem splitAll_written (expression : String) (pieces : List String) :
    Text.splitAll separator (written expression pieces).toList =
      Text.splitAll separator expression.toList ++
        pieces.flatMap fun piece => Text.splitAll separator piece.toList := by
  have hjoin : (written expression pieces).toList =
      Text.joinWith separator (expression.toList :: pieces.map String.toList) := by
    rw [written, String.toList_intercalate]
    rfl
  rw [hjoin, separator, Text.splitAll_joinWith (by decide), List.flatMap_cons, List.flatMap_map]

theorem parse_written_congr {ps qs : List String} (h : ∀ name,
      lastValue? name (ps.flatMap fun piece => Text.splitAll separator piece.toList) =
        lastValue? name (qs.flatMap fun piece => Text.splitAll separator piece.toList))
    (expression : String) : parse (written expression ps) = parse (written expression qs) := by
  rw [parse, parse, splitAll_written, splitAll_written]
  cases hexpression : Text.splitAll separator expression.toList with
  | nil => exact absurd hexpression (Text.splitAll_ne_nil _ _)
  | cons value pieces =>
    simp only [List.cons_append]
    refine foldl_addPiece_congr (fun name => ?_) _
    simp [h]

theorem pieces_of_whole {pieces : List String}
    (h : ∀ piece ∈ pieces, ¬ separator <:+: piece.toList) :
    (pieces.flatMap fun piece => Text.splitAll separator piece.toList) =
      pieces.map String.toList := by
  induction pieces with
  | nil => rfl
  | cons piece pieces ih =>
    rw [List.flatMap_cons, Text.splitAll_of_not_infix (h piece (by simp)),
      ih fun next hnext => h next (by simp [hnext])]
    rfl

/-! ## Inserted and repeated pieces -/

theorem parse_inserted {piece : String} (h : ':' ∉ piece.toList) (expression : String)
    (before after : List String) :
    parse (written expression (before ++ piece :: after)) =
      parse (written expression (before ++ after)) := by
  refine parse_written_congr (fun name => ?_) expression
  have hnone : lastValue? name (Text.splitAll separator piece.toList) = none :=
    lastValue?_eq_none fun part hpart =>
      valueUnder?_of_not_mem (fun hin => h (Text.mem_of_mem_splitAll hpart hin)) name
  simp only [List.flatMap_append, List.flatMap_cons, lastValue?_append, hnone, Option.or_none]

theorem parse_repeated {name value later : String} (hname : ':' ∉ name.toList)
    (hvalue : ¬ separator <:+: (assignment (name, value)).toList)
    (hlater : ¬ separator <:+: (assignment (name, later)).toList) (expression : String)
    (before between after : List String) :
    parse (written expression
        (before ++ assignment (name, value) :: between ++ assignment (name, later) :: after)) =
      parse (written expression (before ++ between ++ assignment (name, later) :: after)) := by
  refine parse_written_congr (fun other => ?_) expression
  have hunder (v : String) : valueUnder? other (assignment (name, v)).toList =
      if name = other then some v.toList else none := valueUnder?_assignment hname other
  simp only [List.append_assoc, List.cons_append, List.nil_append, List.flatMap_append,
    List.flatMap_cons, Text.splitAll_of_not_infix hvalue, Text.splitAll_of_not_infix hlater,
    lastValue?_append, lastValue?_cons, hunder]
  by_cases hother : name = other
  · simp [hother]
  · simp [hother]

/-! ## Round trip -/

/-- The attributes of a specification, with the flag as `true` or `0`. -/
def assignments (p : PatternSpec) : List (String × String) :=
  [("confidence", toString p.confidence), ("version", p.version),
    ("key_regex", if p.keyRegex then "true" else "0")] ++ p.attributes.entries

/-- What can be said of a specification in a written pattern: its expression needs no change, its
confidence is not the least one, the names of its own attributes have no colon and no meaning, and no
text has a separator in it. -/
structure Writable (p : PatternSpec) : Prop where
  normal : normalize p.regex.toList = p.regex.toList
  confidence : Confidence.least < p.confidence.value
  colons : ∀ name ∈ p.attributes.keys, ':' ∉ name.toList
  unknown : ∀ name ∈ p.attributes.keys, name ∉ knownNames
  whole : ∀ s ∈ p.regex :: p.version :: (p.attributes.keys ++ p.attributes.values),
    ¬ separator <:+: s.toList

theorem not_infix_assignment {a : String × String} (hname : ¬ separator <:+: a.1.toList)
    (hvalue : ¬ separator <:+: a.2.toList) : ¬ separator <:+: (assignment a).toList := by
  rw [toList_assignment]
  intro h
  exact (Text.infix_append_cons (by decide) h).elim hname hvalue

theorem not_infix_of_not_mem {s : List Char} (h : ';' ∉ s) : ¬ separator <:+: s :=
  fun hin => h (hin.subset (by decide))

theorem not_infix_toString (c : Confidence) : ¬ separator <:+: (toString c).toList := by
  have hnumber : Json.NumberText (toString c).toList := Json.numberText_integer c.value
  refine not_infix_of_not_mem fun hin => ?_
  exact absurd (hnumber ';' hin) (by simp [Json.NumberSign])

variable {p : PatternSpec}

theorem Writable.mem_entries (h : Writable p) {e : String × String} (he : e ∈ p.attributes.entries) :
    ':' ∉ e.1.toList ∧ e.1 ∉ knownNames ∧ ¬ separator <:+: (assignment e).toList := by
  have hkey : e.1 ∈ p.attributes.keys := List.mem_map_of_mem he
  have hvalue : e.2 ∈ p.attributes.values := List.mem_map_of_mem he
  refine ⟨h.colons _ hkey, h.unknown _ hkey, not_infix_assignment (h.whole _ ?_) (h.whole _ ?_)⟩
  · simp [hkey]
  · simp [hvalue]

theorem Writable.nodup_names (h : Writable p) : ((assignments p).map Prod.fst).Nodup := by
  have hentries : (p.attributes.entries.map Prod.fst).Nodup :=
    nodup_of_ascending p.attributes.ascending
  rw [assignments, List.map_append, List.nodup_append]
  refine ⟨(by decide : knownNames.Nodup), hentries, fun known hknown name hname => ?_⟩
  exact ne_of_mem_of_not_mem (s := knownNames) hknown (h.unknown name hname)

theorem Writable.colon_not_mem (h : Writable p) : ∀ a ∈ assignments p, ':' ∉ a.1.toList := by
  intro a ha
  rcases List.mem_append.1 ha with ha | ha
  · have hknown : ∀ name ∈ knownNames, ':' ∉ name.toList := by decide
    exact hknown a.1 (List.mem_map_of_mem (f := Prod.fst) ha)
  · exact (h.mem_entries ha).1

theorem Writable.whole_assignments (h : Writable p) :
    ∀ a ∈ assignments p, ¬ separator <:+: (assignment a).toList := by
  have hknown : ∀ name ∈ knownNames, ¬ separator <:+: name.toList := by
    have hmem : ∀ name ∈ knownNames, ';' ∉ name.toList := by decide
    exact fun name hname => not_infix_of_not_mem (hmem name hname)
  intro a ha
  simp only [assignments, List.mem_append, List.mem_cons, List.not_mem_nil, or_false] at ha
  rcases ha with (rfl | rfl | rfl) | ha
  · exact not_infix_assignment (hknown "confidence" (by decide)) (not_infix_toString p.confidence)
  · exact not_infix_assignment (hknown "version" (by decide)) (h.whole _ (by simp))
  · refine not_infix_assignment (hknown "key_regex" (by decide)) (not_infix_of_not_mem ?_)
    cases p.keyRegex <;> decide
  · exact (h.mem_entries ha).2.2

theorem parse_assignments (h : Writable p) {as : List (String × String)}
    (has : as.Perm (assignments p)) :
    parse (written p.regex (as.map assignment)) = p := by
  have hnames : (as.map Prod.fst).Nodup := (has.map Prod.fst).nodup_iff.2 h.nodup_names
  have hlast := lastValue?_assignments (fun a ha => h.colon_not_mem a (has.mem_iff.1 ha)) hnames
  have hvalue : ∀ a ∈ assignments p,
      lastValue? a.1 (as.map fun a => (assignment a).toList) = some a.2.toList := by
    intro a ha
    have hfind := (find?_eq_some_iff_of_nodup hnames).2 ⟨has.mem_iff.2 ha, rfl⟩
    rw [hlast, hfind]
    rfl
  have hnone : ∀ name ∉ (assignments p).map Prod.fst,
      lastValue? name (as.map fun a => (assignment a).toList) = none := by
    intro name hname
    rw [hlast, Option.map_eq_none_iff, List.find?_eq_none]
    intro a ha heq
    exact hname (List.mem_map.2 ⟨a, has.mem_iff.1 ha, of_decide_eq_true heq⟩)
  have hpieces : (as.map assignment).flatMap (fun piece => Text.splitAll separator piece.toList) =
      as.map fun a => (assignment a).toList := by
    rw [pieces_of_whole, List.map_map]
    · rfl
    · exact List.forall_mem_map.2 fun a ha => h.whole_assignments a (has.mem_iff.1 ha)
  rw [parse, splitAll_written, Text.splitAll_of_not_infix (h.whole p.regex (by simp)), hpieces,
    List.singleton_append]
  dsimp only
  rw [h.normal, String.ofList_toList]
  refine (assigned_foldl _ _).unique ⟨rfl, ?_, ?_, ?_, fun name hname => ?_, fun name hname => ?_⟩
  · rw [hvalue ("confidence", toString p.confidence) (by simp [assignments]), Option.map_some,
      Option.getD_some, lenientInteger_toString h.confidence]
  · rw [hvalue ("version", p.version) (by simp [assignments]), Option.map_some, Option.getD_some,
      String.ofList_toList]
  · have hflag : ∀ b : Bool, isTruthy (if b then "true" else "0").toList = b := by decide +kernel
    rw [hvalue ("key_regex", if p.keyRegex then "true" else "0") (by simp [assignments]),
      Option.map_some, Option.getD_some, hflag]
  · -- the known names are not among the attributes that the specification keeps
    have hkept : p.attributes.get? name = none := by
      rw [Option.eq_none_iff_forall_ne_some]
      intro v hv
      exact h.unknown name (List.mem_map_of_mem (SortedMap.get?_eq_some.1 hv)) hname
    exact hkept
  · cases hget : p.attributes.get? name with
    | some v =>
      have hin : (name, v) ∈ assignments p :=
        List.mem_append.2 (.inr (SortedMap.get?_eq_some.1 hget))
      rw [hvalue (name, v) hin, Option.map_some, Option.getD_some, String.ofList_toList]
    | none =>
      have hout : name ∉ (assignments p).map Prod.fst := by
        rw [assignments, List.map_append, List.mem_append, not_or]
        refine ⟨hname, fun hin => ?_⟩
        obtain ⟨e, he, rfl⟩ := List.mem_map.1 hin
        have hfound := SortedMap.get?_eq_some.2 he
        rw [hget] at hfound
        cases hfound
      rw [hnone name hout]
      rfl

/-- Written patterns can be relied on: a specification is read back from its expression with its
attributes behind it in whatever order, a piece without a colon may be put anywhere behind the
expression, and of two attributes with one name the first may be left out. -/
theorem parse_written :
    (∀ p : PatternSpec, Writable p → ∀ as : List (String × String), as.Perm (assignments p) →
      parse (written p.regex (as.map assignment)) = p) ∧
    (∀ (expression : String) (before : List String) (piece : String) (after : List String),
      ':' ∉ piece.toList →
        parse (written expression (before ++ piece :: after)) =
          parse (written expression (before ++ after))) ∧
    ∀ (expression : String) (before : List String) (name value : String) (between : List String)
      (later : String) (after : List String), ':' ∉ name.toList →
        ¬ separator <:+: (assignment (name, value)).toList →
        ¬ separator <:+: (assignment (name, later)).toList →
        parse (written expression
            (before ++ assignment (name, value) :: between ++ assignment (name, later) :: after)) =
          parse (written expression (before ++ between ++ assignment (name, later) :: after)) :=
  ⟨fun _ h _ has => parse_assignments h has,
    fun expression before _ after h => parse_inserted h expression before after,
    fun expression before _ _ between _ after hname hvalue hlater =>
      parse_repeated hname hvalue hlater expression before between after⟩

def thorny : PatternSpec :=
  { regex := "^a\\"
    confidence := .clamp (-7)
    version := "\\1?b:;"
    keyRegex := true
    attributes := (SortedMap.empty.insert ";\\" ":c\\").insert "" "" }

theorem parse_written_thorny :
    Writable thorny ∧
      parse "^a\\\\;;\\::c\\\\;:\\;key_regex:true\\;version:\\1?b:;\\;confidence:-7" = thorny ∧
      parse "a\\;note\\;confidence:5" = parse "a\\;confidence:5" ∧
      parse "a\\;confidence:9\\;version:1\\;confidence:5" = parse "a\\;version:1\\;confidence:5" := by
  have hthorny : Writable thorny :=
    ⟨by decide +kernel, by decide +kernel, by decide +kernel, by decide +kernel, by decide +kernel⟩
  obtain ⟨hread, hinserted, hrepeated⟩ := parse_written
  have hbackwards : written thorny.regex ((assignments thorny).reverse.map assignment) =
      "^a\\\\;;\\::c\\\\;:\\;key_regex:true\\;version:\\1?b:;\\;confidence:-7" := by decide +kernel
  have hnote : written "a" ([] ++ "note" :: ["confidence:5"]) = "a\\;note\\;confidence:5" := by
    decide +kernel
  have htwice : written "a" ([] ++ assignment ("confidence", "9") :: ["version:1"] ++
      assignment ("confidence", "5") :: []) = "a\\;confidence:9\\;version:1\\;confidence:5" := by
    decide +kernel
  have honce : written "a" (["confidence:5"]) = "a\\;confidence:5" := by decide +kernel
  have hlast : written "a" ([] ++ ["version:1"] ++ assignment ("confidence", "5") :: []) =
      "a\\;version:1\\;confidence:5" := by decide +kernel
  refine ⟨hthorny, ?_, ?_, ?_⟩
  · rw [← hbackwards]
    exact hread thorny hthorny _ (List.reverse_perm _)
  · rw [← hnote, ← honce]
    exact hinserted "a" [] "note" ["confidence:5"] (by decide +kernel)
  · rw [← htwice, ← hlast]
    exact hrepeated "a" [] "confidence" "9" ["version:1"] "5" [] (by decide +kernel)
      (by decide +kernel) (by decide +kernel)

end Pattern

end Webprint
