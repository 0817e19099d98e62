import Webprint.Snapshot
import Webprint.Text.Search

set_option autoImplicit false

/-!
# Global variables of a page

A key of a technology's rules names a property by a path of segments, written with dots or brackets.
The values of such paths come from outside, from a page's scripts or from a table.
-/

namespace Webprint

namespace Page

/-- Brackets written as dots: `a[b]` becomes `a.b`, and a bracket that is never closed stays. The flag
tells whether a bracket is open. -/
def unbracket : Bool → List Char → List Char
  | _, [] => []
  | true, c :: s => if c == ']' then unbracket false s else c :: unbracket true s
  | false, c :: s =>
    if c == '[' && s.contains ']' then '.' :: unbracket true s else c :: unbracket false s

def jsPath (key : String) : List String :=
  ((Text.splitWhere (· == '.') (unbracket false key.toList)).filter (!·.isEmpty)).map String.ofList

end Page

abbrev JsLookup := List String → Option JsValue

structure JsTable where
  values : SortedMap String JsValue
deriving DecidableEq

namespace JsTable

def ofList (vs : List (String × JsValue)) : JsTable := ⟨.ofList vs⟩

def size (t : JsTable) : Nat := t.values.entries.length

def isEmpty (t : JsTable) : Bool := t.values.isEmpty

def evaluate (t : JsTable) : JsLookup := fun path => t.values.get? (".".intercalate path)

end JsTable

end Webprint
