import Webprint.Cache

set_option autoImplicit false

/-!
# Loading rules

A catalogue is built from a rule document and maybe an overlay, or taken from where an earlier one is
kept. What has been built is kept; that this fails is no error.
-/

namespace Webprint

theorem nodup_append_missing {α : Type} {es more : List (String × α)}
    (h : (es.map Prod.fst).Nodup) (hmore : (more.map Prod.fst).Nodup) :
    ((es ++ more.filter fun e => (es.lookup e.1).isNone).map Prod.fst).Nodup := by
  rw [List.map_append, List.nodup_append]
  refine ⟨h, hmore.sublist (List.filter_sublist.map _), ?_⟩
  rintro k hk _ hk' rfl
  obtain ⟨e, he, rfl⟩ := List.mem_map.1 hk
  obtain ⟨e', he', heq⟩ := List.mem_map.1 hk'
  have hnone := (List.mem_filter.1 he').2
  rw [Option.isNone_iff_eq_none, List.lookup_eq_none_iff] at hnone
  have hne := hnone e he
  simp [heq] at hne

namespace RuleDocument

/-- Takes over the categories of another document that this one has no entry for. -/
def inheritCategories (d primary : RuleDocument) : RuleDocument :=
  { d with
    categories := d.categories
      ++ primary.categories.filter fun c => (d.categories.lookup c.1).isNone
    categories_nodup := nodup_append_missing d.categories_nodup primary.categories_nodup }

def ofText (text : String) : Except ScanError RuleDocument :=
  (Json.decodeText Json.Decode.ruleDocument text).mapError fun f => .compile (.unreadable f)

def ofBytes (bytes : List UInt8) : Except ScanError RuleDocument :=
  (Json.decodeBytes Json.Decode.ruleDocument bytes).mapError fun f => .compile (.unreadable f)

end RuleDocument

namespace Config

def mode (c : Config) : CompileMode := if c.skipInvalid then .skipInvalid else .strict

def readSource (c : Config) (s : Store) : Except ScanError RuleDocument :=
  match c.source with
  | .file path => (s.read path).mapError (.rules path) >>= RuleDocument.ofBytes
  | .inline text => RuleDocument.ofText text
  | .remote address => .error (.remote address)

end Config

def Overlay.readDocument (o : Overlay) (s : Store) : Except ScanError RuleDocument :=
  match o with
  | .file path => (s.read path).mapError .io >>= RuleDocument.ofBytes
  | .inline text => RuleDocument.ofText text

structure Loader where
  hook : Option Hook := none

namespace Loader

def compile (l : Loader) (c : Config) (d : RuleDocument) : Except ScanError Catalogue :=
  (d.compile c.mode (l.hook.getD .none)).mapError fun e => .compile (.compile e)

def build (l : Loader) (c : Config) (s : Store) : Except ScanError Catalogue := do
  let primary ← c.readSource s
  let catalogue ← l.compile c primary
  match c.overlay with
  | none => return catalogue
  | some o =>
    let document ← o.readDocument s
    let laid ← l.compile c (document.inheritCategories primary)
    return catalogue.merge laid

/-- The catalogue that is kept, if it may be used and can be read. -/
def kept? (c : Config) (s : Store) : Option Catalogue :=
  if c.refresh || !s.isFile c.cachePath then none else (Cache.load s c.cachePath).toOption

def load (l : Loader) (c : Config) (s : Store) : Except ScanError Catalogue × Store :=
  match kept? c s with
  | some catalogue => (.ok catalogue, s)
  | none =>
    match l.build c s with
    | .error e => (.error e, s)
    | .ok catalogue => (.ok catalogue, (Cache.save s c.cachePath catalogue).2)

def description (l : Loader) : String :=
  "RuleLoader \x7b hook: " ++ (if l.hook.isSome then "true" else "false") ++ " \x7d"

end Loader

end Webprint
