import Webprint.Html.Reference

set_option autoImplicit false

/-!
# Tags of a document

The tags in a text, found one character at a time as the standard for HTML prescribes, without the
elements that they make. So the contents of scripts and text areas are searched for tags like all
else; comments and declarations are not. A tag that the text does not close is none.
-/

namespace Webprint.Html

structure Tag where
  /-- An end tag, which begins with a slash. -/
  closing : Bool
  /-- ASCII letters are in lower case, here and in the names of attributes. -/
  name : String
  /-- No two have the same name. -/
  attributes : List (String × String)
deriving DecidableEq, Repr

inductive Quote where
  | double
  | single
  | none
deriving DecidableEq, Repr

inductive State where
  | text
  | tagOpen
  | endTagOpen
  | tagName
  | beforeKey
  | key
  | afterKey
  | beforeValue
  | value (quote : Quote)
  /-- In markup that is no tag and ends at the next `>`. -/
  | skipped
  | declaration
  | declarationDash
  | commentStart
  | commentStartDash
  | comment
  | commentDash
  | commentEnd
  | commentBang
deriving DecidableEq, Repr

/-- A tag that is being read; texts are reversed, and so is the list of finished attributes. -/
structure Draft where
  closing : Bool := false
  name : List Char := []
  attributes : List (String × String) := []
  key : List Char := []
  value : List Char := []

namespace Draft

/-- Finishes the attribute that is being read. The first of one name counts. -/
def finishAttribute (d : Draft) : Draft :=
  let key := String.ofList d.key.reverse
  let kept := if d.key.isEmpty || (d.attributes.lookup key).isSome then d.attributes
    else (key, String.ofList (decodeReferences d.value.reverse)) :: d.attributes
  { d with attributes := kept, key := [], value := [] }

def startKey (d : Draft) (c : Char) : Draft := { d.finishAttribute with key := [c.toLower] }

def finish (d : Draft) : Tag :=
  ⟨d.closing, String.ofList d.name.reverse, d.finishAttribute.attributes.reverse⟩

end Draft

/-- A document read so far; the finished tags are reversed. -/
structure Scan where
  state : State := .text
  draft : Draft := {}
  tags : List Tag := []

def isSpace (c : Char) : Bool := c == ' ' || c == '\t' || c == '\n' || c == '\x0c'

def isLetter (c : Char) : Bool := 'a' ≤ c.toLower && c.toLower ≤ 'z'

namespace Scan

def goto (x : Scan) (s : State) : Scan := { x with state := s }

def openTag (x : Scan) (closing : Bool) (c : Char) : Scan :=
  { x with state := .tagName, draft := { closing, name := [c.toLower] } }

def closeTag (x : Scan) : Scan := { x with state := .text, tags := x.draft.finish :: x.tags }

def pushName (x : Scan) (c : Char) : Scan :=
  { x with draft := { x.draft with name := c.toLower :: x.draft.name } }

def startKey (x : Scan) (c : Char) : Scan :=
  { x with state := .key, draft := x.draft.startKey c }

def pushKey (x : Scan) (c : Char) : Scan :=
  { x with draft := { x.draft with key := c.toLower :: x.draft.key } }

def pushValue (x : Scan) (c : Char) : Scan :=
  { x with draft := { x.draft with value := c :: x.draft.value } }

def step (x : Scan) (c : Char) : Scan :=
  match x.state with
  | .text => if c == '<' then x.goto .tagOpen else x
  | .tagOpen =>
    if c == '!' then x.goto .declaration
    else if c == '/' then x.goto .endTagOpen
    else if c == '?' then x.goto .skipped
    else if isLetter c then x.openTag false c
    else if c == '<' then x
    else x.goto .text
  | .endTagOpen =>
    if c == '>' then x.goto .text
    else if isLetter c then x.openTag true c
    else x.goto .skipped
  | .tagName =>
    if isSpace c || c == '/' then x.goto .beforeKey
    else if c == '>' then x.closeTag
    else x.pushName c
  | .beforeKey =>
    if isSpace c || c == '/' then x
    else if c == '>' then x.closeTag
    else x.startKey c
  | .key =>
    if isSpace c then x.goto .afterKey
    else if c == '/' then x.goto .beforeKey
    else if c == '=' then x.goto .beforeValue
    else if c == '>' then x.closeTag
    else x.pushKey c
  | .afterKey =>
    if isSpace c then x
    else if c == '/' then x.goto .beforeKey
    else if c == '=' then x.goto .beforeValue
    else if c == '>' then x.closeTag
    else x.startKey c
  | .beforeValue =>
    if isSpace c then x
    else if c == '"' then x.goto (.value .double)
    else if c == '\x27' then x.goto (.value .single)
    else if c == '>' then x.closeTag
    else (x.goto (.value .none)).pushValue c
  | .value .double => if c == '"' then x.goto .beforeKey else x.pushValue c
  | .value .single => if c == '\x27' then x.goto .beforeKey else x.pushValue c
  | .value .none =>
    if isSpace c then x.goto .beforeKey
    else if c == '>' then x.closeTag
    else x.pushValue c
  | .skipped => if c == '>' then x.goto .text else x
  | .declaration =>
    if c == '-' then x.goto .declarationDash
    else if c == '>' then x.goto .text
    else x.goto .skipped
  | .declarationDash =>
    if c == '-' then x.goto .commentStart
    else if c == '>' then x.goto .text
    else x.goto .skipped
  | .commentStart =>
    if c == '-' then x.goto .commentStartDash
    else if c == '>' then x.goto .text
    else x.goto .comment
  | .commentStartDash =>
    if c == '-' then x.goto .commentEnd
    else if c == '>' then x.goto .text
    else x.goto .comment
  | .comment => if c == '-' then x.goto .commentDash else x
  | .commentDash => if c == '-' then x.goto .commentEnd else x.goto .comment
  | .commentEnd =>
    if c == '>' then x.goto .text
    else if c == '!' then x.goto .commentBang
    else if c == '-' then x
    else x.goto .comment
  | .commentBang =>
    if c == '>' then x.goto .text
    else if c == '-' then x.goto .commentDash
    else x.goto .comment

end Scan

def unifyLineEnds : List Char → List Char
  | [] => []
  | '\x0d' :: '\n' :: s => '\n' :: unifyLineEnds s
  | c :: s => (if c == '\x0d' then '\n' else c) :: unifyLineEnds s

/-- The characters of a document: without a byte order mark, and with U+FFFD for U+0000. -/
def characters (s : List Char) : List Char :=
  let s := match s with
    | '\ufeff' :: s => s
    | s => s
  (unifyLineEnds s).map fun c => if c == '\x00' then '\ufffd' else c

def tags (document : String) : List Tag :=
  ((characters document.toList).foldl Scan.step {}).tags.reverse

def Tag.attribute? (t : Tag) (name : String) : Option String := t.attributes.lookup name

end Webprint.Html
