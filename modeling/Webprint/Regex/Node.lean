import Webprint.Regex.CharSet

set_option autoImplicit false

/-!
# Regular expressions

Expressions as they are searched for, with every flag resolved: which characters a position admits,
which assertions hold between two characters, and which repetitions are greedy.
-/

namespace Webprint.Regex

inductive Look where
  | textStart
  | textEnd
  | lineStart
  | lineEnd
  | lineStartCrlf
  | lineEndCrlf
  | wordBoundary (unicode : Bool)
  | notWordBoundary (unicode : Bool)
  | wordStart (unicode : Bool)
  | wordEnd (unicode : Bool)
  | wordStartHalf (unicode : Bool)
  | wordEndHalf (unicode : Bool)
deriving Repr, DecidableEq

inductive Node where
  | empty
  | chars (set : CharSet)
  | look (l : Look)
  | seq (a b : Node)
  | alt (a b : Node)
  | group (index : Nat) (body : Node)
  /-- At least `min` and at most `max` times the body, as often or as seldom as possible. -/
  | loop (min : Nat) (max : Option Nat) (greedy : Bool) (body : Node)
deriving Repr, DecidableEq

namespace Node

def nullable : Node → Bool
  | .empty => true
  | .chars _ => false
  | .look _ => true
  | .seq a b => a.nullable && b.nullable
  | .alt a b => a.nullable || b.nullable
  | .group _ a => a.nullable
  | .loop min _ _ a => min = 0 || a.nullable

def takesNothing : Node → Bool
  | .empty => true
  | .chars _ => false
  | .look _ => true
  | .seq a b => a.takesNothing && b.takesNothing
  | .alt a b => a.takesNothing && b.takesNothing
  | .group _ a => a.takesNothing
  | .loop _ max _ a => max = some 0 || a.takesNothing

/-- A repetition in its simplest form: nothing is matched more than once if it takes nothing, and a
body that is repeated no time or just once needs no loop. -/
def repeated (min : Nat) (max : Option Nat) (greedy : Bool) (body : Node) : Node :=
  let (min, max) :=
    if body.takesNothing then (Nat.min min 1, some (match max with | some m => Nat.min m 1 | none => 1))
    else (min, max)
  if min = 0 && max = some 0 then .empty
  else if min = 1 && max = some 1 then body
  else .loop min max greedy body

def lastGroup : Node → Nat
  | .empty => 0
  | .chars _ => 0
  | .look _ => 0
  | .seq a b => Nat.max a.lastGroup b.lastGroup
  | .alt a b => Nat.max a.lastGroup b.lastGroup
  | .group i a => Nat.max i a.lastGroup
  | .loop _ _ _ a => a.lastGroup

def weight : Node → Nat
  | .empty => 32
  | .chars s => 32 + s.weight
  | .look _ => 32
  | .seq a b => a.weight + b.weight
  | .alt a b => a.weight + b.weight + 32
  | .group _ a => a.weight + 64
  | .loop min max _ a => (a.weight + 32) * Nat.max 1 (Nat.max min (max.getD (min + 1)))

end Node

end Webprint.Regex
