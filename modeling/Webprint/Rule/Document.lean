import Webprint.Field
import Webprint.Json.Decode
import Webprint.Log
import Webprint.Text.Blank
import Webprint.Text.Quoted

set_option autoImplicit false

/-!
# Rule documents

The rules as they are written: categories by number, and the definition of each technology with the
patterns of its fields as plain JSON values, to be compiled later. Both keep the order of the text.
What a definition says beyond its known members is kept as well.
-/

namespace Webprint

open Json (Value)

inductive Category where
  | name (name : String)
  | entry (name : String) (priority : Option UInt32)
deriving DecidableEq, Repr

def Category.label : Category → String
  | .name n => n
  | .entry n _ => n

structure Definition where
  categories : List UInt32 := []
  website : Option String := none
  description : Option String := none
  icon : Option String := none
  cpe : Option String := none
  fields : SortedMap Field Value := .empty
  implies : Option Value := none
  excludes : Option Value := none
  extra : SortedMap String Value := .empty

structure RuleDocument where
  categories : List (String × Category) := []
  technologies : List (String × Definition) := []
  categories_nodup : (categories.map Prod.fst).Nodup
  technologies_nodup : (technologies.map Prod.fst).Nodup

abbrev CategoryNames := List (UInt32 × String)

def parseWord? (s : List Char) : Option UInt32 :=
  let digits := match s with
    | '+' :: s => s
    | s => s
  if digits.isEmpty || !digits.all Char.isDigit then none
  else
    let n := digits.foldl (fun n c => 10 * n + (c.toNat - 48)) 0
    if n < Nat.pow 2 32 then some (UInt32.ofNat n) else none

namespace RuleDocument

def categoryId? (id : String) : Option UInt32 := parseWord? (Text.trim id.toList)

/-- The categories by number. Of several ids with one number the last counts. -/
def categoryNames (d : RuleDocument) : CategoryNames :=
  d.categories.foldl (fun names (id, category) =>
    match categoryId? id with
    | some n => Json.put n category.label names
    | none => names) []

def categoryWarnings (d : RuleDocument) : List LogRecord :=
  d.categories.filterMap fun (id, _) =>
    match categoryId? id with
    | some _ => none
    | none => some ⟨.warn, "Ignoring category with non-numeric id " ++ Text.quoted id⟩

end RuleDocument

/-! ## JSON form -/

def Category.toJson : Category → Value
  | .name n => .string n
  | .entry n p =>
    .object [("name", .string n), ("priority", .ofOption (fun p => .int p.toNat) p)]

namespace Definition

def writtenFields : List Field :=
  [.url, .headers, .cookies, .html, .css, .certIssuer, .robots, .metaTags, .scripts, .js]

def member (key : String) : Option Value → List (String × Value)
  | none => []
  | some v => [(key, v)]

def toJson (d : Definition) : Value :=
  .object <|
    [("cats", .array (d.categories.map fun n => .int n.toNat)),
      ("website", .ofOption .string d.website),
      ("description", .ofOption .string d.description), ("icon", .ofOption .string d.icon),
      ("cpe", .ofOption .string d.cpe)]
    ++ writtenFields.flatMap (fun f => member f.name (d.fields.get? f))
    ++ member "implies" d.implies ++ member "excludes" d.excludes
    ++ d.extra.entries

end Definition

def RuleDocument.toJson (d : RuleDocument) : Value :=
  .object [("categories", .object (d.categories.map fun e => (e.1, e.2.toJson))),
    ("technologies", .object (d.technologies.map fun e => (e.1, e.2.toJson)))]

namespace Json.Decode

def word32 : Decoder UInt32 := fun depth r => do
  let i ← integer 0 (Nat.pow 2 32) depth r
  return UInt32.ofNat i.toNat

structure CategoryDraft where
  name : Option String := none
  priority : Option (Option UInt32) := none

def categoryStep (depth : Nat) (d : CategoryDraft) (key : String) (r : Reading) :
    Except Fault CategoryDraft :=
  match key with
  | "name" => (once d.name text depth r).map fun v => { d with name := v }
  | "priority" => (once d.priority (nullable word32) depth r).map fun v => { d with priority := v }
  | _ => .ok d

/-- A category in either form. The value is read to its end before its form is decided. -/
def category : Decoder Category := fun depth r => do
  let _ ← value depth r
  match r with
  | .string s => return .name s
  | r => do
    let d ← object categoryStep {} maxDepth r
    let name ← required d.name
    return .entry name (d.priority.getD none)

/-- What has been read of a definition. A field that holds `null` counts as read. -/
structure DefinitionDraft where
  categories : Option (List UInt32) := none
  website : Option (Option String) := none
  description : Option (Option String) := none
  icon : Option (Option String) := none
  cpe : Option (Option String) := none
  fields : SortedMap Field (Option Value) := .empty
  implies : Option (Option Value) := none
  excludes : Option (Option Value) := none
  extra : SortedMap String Value := .empty

def definitionField? (key : String) : Option Field :=
  if key = "certIssuer" then some .certIssuer else Field.ofName? key

def definitionStep (depth : Nat) (d : DefinitionDraft) (key : String) (r : Reading) :
    Except Fault DefinitionDraft :=
  match definitionField? key with
  | some f => (once (d.fields.get? f) (nullable value) depth r).map fun v =>
      { d with fields := d.fields.insert f (v.getD none) }
  | none =>
    match key with
    | "cats" =>
      (once d.categories (list word32) depth r).map fun v => { d with categories := v }
    | "website" => (once d.website (nullable text) depth r).map fun v => { d with website := v }
    | "description" =>
      (once d.description (nullable text) depth r).map fun v => { d with description := v }
    | "icon" => (once d.icon (nullable text) depth r).map fun v => { d with icon := v }
    | "cpe" => (once d.cpe (nullable text) depth r).map fun v => { d with cpe := v }
    | "implies" =>
      (once d.implies (nullable value) depth r).map fun v => { d with implies := v }
    | "excludes" =>
      (once d.excludes (nullable value) depth r).map fun v => { d with excludes := v }
    | key => (value depth r).map fun v => { d with extra := d.extra.insert key v }

def presentFields (m : SortedMap Field (Option Value)) : SortedMap Field Value :=
  .ofList (m.entries.filterMap fun (f, v) => v.map fun v => (f, v))

def definition : Decoder Definition := fun depth r => do
  let d ← object definitionStep {} depth r
  return {
    categories := d.categories.getD []
    website := d.website.getD none
    description := d.description.getD none
    icon := d.icon.getD none
    cpe := d.cpe.getD none
    fields := presentFields d.fields
    implies := d.implies.getD none
    excludes := d.excludes.getD none
    extra := d.extra }

structure DocumentDraft where
  categories : Option (Entries Category) := none
  technologies : Option (Entries Definition) := none

def documentStep (depth : Nat) (d : DocumentDraft) (key : String) (r : Reading) :
    Except Fault DocumentDraft :=
  match key with
  | "categories" =>
    (once d.categories (pairs category) depth r).map fun v => { d with categories := v }
  | "technologies" | "apps" =>
    (once d.technologies (pairs definition) depth r).map fun v => { d with technologies := v }
  | _ => (skip r).map fun _ => d

def ruleDocument : Decoder RuleDocument := fun depth r => do
  let d ← record ["categories", "technologies"] documentStep {} depth r
  let categories := d.categories.getD .empty
  let technologies := d.technologies.getD .empty
  return ⟨categories.1, technologies.1, categories.2, technologies.2⟩

end Json.Decode

end Webprint
