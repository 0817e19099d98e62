import Webprint.Html.Tag
import Webprint.Snapshot

set_option autoImplicit false

/-!
# What markup tells

The sources of a document's scripts, and its meta tags under the name they give or, without one, under
the property.
-/

namespace Webprint.Page

open Html (Tag)

def isStart (name : String) (t : Tag) : Bool := !t.closing && t.name == name

def scripts (ts : List Tag) : List String :=
  (ts.filter (isStart "script")).filterMap (·.attribute? "src")

def metaTag? (t : Tag) : Option (String × String) :=
  match (t.attribute? "name").orElse fun _ => t.attribute? "property", t.attribute? "content" with
  | some name, some content => some (Snapshot.lowerName name, content)
  | _, _ => none

def metaMap (ts : List Tag) : MultiMap String :=
  ((ts.filter (isStart "meta")).filterMap metaTag?).foldl (fun m t => m.push t.1 t.2) .empty

end Webprint.Page
