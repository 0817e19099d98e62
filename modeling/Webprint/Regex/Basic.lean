import Webprint.Regex.Parser
import Webprint.Regex.Search

set_option autoImplicit false

/-!
# Compiled expressions

A regular expression together with its program. `Regex.ofString?` compiles a text without regard to
letter case; `captures` gives the texts of the groups of the first match.
-/

namespace Webprint

structure Regex where
  /-- How many groups there are, the whole match among them. -/
  groups : Nat
  program : Array Regex.Instruction
deriving Repr, DecidableEq

namespace Regex

def ofNode (n : Node) : Regex := ⟨n.lastGroup + 1, n.program.toArray⟩

def ofChars? (s : List Char) : Except Fault Regex := (parse s).map ofNode

def ofString? (s : String) : Except Fault Regex := ofChars? s.toList

def slice (s : List Char) (first stop : Nat) : List Char := (s.drop first).take (stop - first)

def capture (s : List Char) (slots : Slots) (i : Nat) : Option (List Char) :=
  match slots[2 * i]?, slots[2 * i + 1]? with
  | some (some a), some (some b) => some (slice s a b)
  | _, _ => none

/-- The groups of the first match, the whole match as group zero; nothing without a match. -/
def captures (r : Regex) (s : List Char) : Option (List (Option (List Char))) :=
  (search r.program r.groups s).map fun slots => (List.range r.groups).map (capture s slots)

def isMatch (r : Regex) (s : List Char) : Bool := (search r.program r.groups s).isSome

end Regex

end Webprint
