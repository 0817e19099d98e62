import Webprint.Regex.Basic
import Webprint.Text.Blank
import Webprint.Text.Search

set_option autoImplicit false

/-!
# Version templates

A template says how the groups of a match make up a version: `\1` stands for the first group, and
`\1?a:b` for `a` if that group has taken something and for `b` otherwise, where `b` runs to the end.
Groups are filled in one after the other. The choice for a group is looked up in the template as it
was written, and both replacements are made in what the groups before have left.
-/

namespace Webprint.Version

def reference (i : Nat) : List Char := '\\' :: Nat.toDigits 10 i

structure Choice where
  whole : List Char
  whenTaken : List Char
  otherwise : List Char
deriving Repr, DecidableEq

/-- A choice on group `i` at the start of a text. The first part is not empty and ends before the
first colon; the second one holds no line end. -/
def choiceAt? (i : Nat) (s : List Char) : Option Choice :=
  match Text.after? (reference i ++ ['?']) s with
  | none => none
  | some rest =>
    let whenTaken := rest.takeWhile (· != ':')
    match rest.dropWhile (· != ':') with
    | [] => none
    | _ :: otherwise =>
      if whenTaken.isEmpty || otherwise.contains '\n' then none
      else some ⟨s, whenTaken, otherwise⟩

def choice? (i : Nat) : List Char → Option Choice
  | [] => none
  | c :: s =>
    match choiceAt? i (c :: s) with
    | some t => some t
    | none => choice? i s

def fillGroup (template resolved : List Char) (i : Nat) (capture : Option (List Char)) :
    List Char :=
  let resolved := match choice? i template with
    | none => resolved
    | some t =>
      let branch := match capture with
        | some (_ :: _) => t.whenTaken
        | _ => t.otherwise
      Text.replaceFirst t.whole branch resolved
  Text.replaceAll (reference i) (capture.getD []) resolved

def fillFrom (template : List Char) : Nat → List (Option (List Char)) → List Char → List Char
  | _, [], resolved => resolved
  | i, capture :: rest, resolved =>
    fillFrom template (i + 1) rest (fillGroup template resolved i capture)

def fill (template : List Char) (groups : List (Option (List Char))) : List Char :=
  Text.trim (fillFrom template 1 groups template)

def resolve? (template : String) (regex : Regex) (value : String) : Option String :=
  (regex.captures value.toList).map fun captures =>
    String.ofList (fill template.toList captures.tail)

end Webprint.Version
