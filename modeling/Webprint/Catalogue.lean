import Webprint.Rule.Compile

set_option autoImplicit false

/-!
# Catalogues

The signatures that pages are matched against, sorted by name, with an index of the names. A catalogue
is compiled from a rule document, strictly or with the definitions that do not compile left out;
catalogues can be merged and have a JSON form.
-/

namespace Webprint

def Catalogue.placesOf (ss : List Signature) : List (String × Nat) := ss.zipIdx.map fun (s, i) => (s.name, i)

theorem Catalogue.ascending_placesOf {ss : List Signature} (h : Ascending Signature.name ss) :
    Ascending Prod.fst (Catalogue.placesOf ss) := by
  rw [← List.zipIdx_map_fst 0 ss, Ascending, List.pairwise_map] at h
  rw [Ascending, Catalogue.placesOf, List.pairwise_map]
  exact h

structure Catalogue where
  signatures : List Signature
  ascending : Ascending Signature.name signatures
  places : SortedMap String Nat
  hasRelations : Bool
  places_eq : places.entries = Catalogue.placesOf signatures
  hasRelations_eq : hasRelations = signatures.any (·.hasRelations)

inductive CompileMode where
  | strict
  | skipInvalid
deriving DecidableEq, Repr

abbrev Hook := String → Definition → CategoryNames → Definition

def Hook.none : Hook := fun _ d _ => d

namespace Catalogue

def ofAscending (ss : List Signature) (h : Ascending Signature.name ss) : Catalogue where
  signatures := ss
  ascending := h
  places := ⟨placesOf ss, ascending_placesOf h⟩
  hasRelations := ss.any (·.hasRelations)
  places_eq := rfl
  hasRelations_eq := rfl

def empty : Catalogue := ofAscending [] List.Pairwise.nil

instance : Inhabited Catalogue := ⟨empty⟩

def insert (c : Catalogue) (s : Signature) : Catalogue :=
  ofAscending (insertBy Signature.name s c.signatures) (ascending_insertBy s c.ascending)

def ofSignatures (ss : List Signature) : Catalogue := ss.foldl insert empty

/-- The signatures of both; where both have one, that of `other`. -/
def merge (c other : Catalogue) : Catalogue := other.signatures.foldl insert c

def get? (c : Catalogue) (name : String) : Option Signature :=
  (c.places.get? name).bind fun i => c.signatures[i]?

def size (c : Catalogue) : Nat := c.signatures.length

def isEmpty (c : Catalogue) : Bool := c.signatures.isEmpty

def names (c : Catalogue) : List String := c.signatures.map (·.name)

def toJson (c : Catalogue) : Json.Value := .object (c.signatures.map fun s => (s.name, s.toJson))

end Catalogue

def Json.Decode.catalogue : Json.Decoder Catalogue := fun depth r => do
  let byKey ← Json.Decode.sortedMap Json.Decode.signature depth r
  return .ofSignatures byKey.values

structure Compilation.Entry where
  technology : String
  outcome : Except CompileError Signature

namespace RuleDocument

def compileEntries (d : RuleDocument) (hook : Hook) : List Compilation.Entry :=
  let names := d.categoryNames
  d.technologies.map fun (technology, definition) =>
    ⟨technology, (hook technology definition names).compile technology names⟩

end RuleDocument

namespace Compilation

/-- The signatures that compile; in strict mode, or the first error. -/
def signatures (mode : CompileMode) : List Entry → Except CompileError (List Signature)
  | [] => .ok []
  | e :: rest =>
    match e.outcome with
    | .ok s => (signatures mode rest).map (s :: ·)
    | .error err =>
      match mode with
      | .strict => .error err
      | .skipInvalid => signatures mode rest

def failures (es : List Entry) : List (String × CompileError) :=
  es.filterMap fun e =>
    match e.outcome with
    | .ok _ => none
    | .error err => some (e.technology, err)

def log (d : RuleDocument) (es : List Entry) (c : Catalogue) : List LogRecord :=
  d.categoryWarnings
    ++ (failures es).map (fun (technology, err) =>
      ⟨.warn, "Skipping technology " ++ technology ++ ": " ++ err.message⟩)
    ++ [⟨.info, "Rule database compiled: " ++ toString c.size ++ " technologies, "
      ++ toString (failures es).length ++ " skipped, relations=" ++ toString c.hasRelations⟩]

end Compilation

namespace RuleDocument

def compile (d : RuleDocument) (mode : CompileMode) (hook : Hook) :
    Except CompileError Catalogue :=
  (Compilation.signatures mode (d.compileEntries hook)).map Catalogue.ofSignatures

def compileLogged (d : RuleDocument) (mode : CompileMode) (hook : Hook) :
    Except CompileError (Catalogue × List LogRecord) :=
  (d.compile mode hook).map fun c => (c, Compilation.log d (d.compileEntries hook) c)

end RuleDocument

end Webprint
