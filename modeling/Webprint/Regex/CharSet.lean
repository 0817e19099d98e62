import Webprint.Unicode.Case

set_option autoImplicit false

/-!
# Sets of characters

The sets that a pattern can name for one position, built from ranges and tables by the operations
of a bracketed class. Membership is computed from the expression: a folded set holds whatever folds
like one of its members.
-/

namespace Webprint.Regex

inductive CharSet where
  | empty
  | range (lo hi : Nat)
  | table (set : Unicode.CodeSet)
  | union (a b : CharSet)
  | inter (a b : CharSet)
  | diff (a b : CharSet)
  | compl (a : CharSet)
  /-- All characters that fold like a member. -/
  | folded (a : CharSet)
  /-- The members, and the other case of those that are ASCII letters. -/
  | asciiFolded (a : CharSet)
deriving Repr, DecidableEq

namespace CharSet

def isAsciiLetter (n : Nat) : Bool := (0x41 ≤ n && n ≤ 0x5a) || (0x61 ≤ n && n ≤ 0x7a)

def asciiSwap (n : Nat) : Nat := if n ≤ 0x5a then n + 32 else n - 32

def mem : CharSet → Nat → Bool
  | .empty, _ => false
  | .range lo hi, n => lo ≤ n && n ≤ hi
  | .table s, n => s.contains n
  | .union a b, n => a.mem n || b.mem n
  | .inter a b, n => a.mem n && b.mem n
  | .diff a b, n => a.mem n && !b.mem n
  | .compl a, n => !a.mem n
  | .folded a, n => (Unicode.foldOrbit n).any fun m => a.mem m
  | .asciiFolded a, n => a.mem n || (isAsciiLetter n && a.mem (asciiSwap n))

/-- The space that a range takes once it is compiled, in bytes and roughly: characters are told apart
by the bytes that encode them. -/
def rangeWeight (hi : Nat) : Nat := if hi < 0x80 then 32 else if hi < 0x10000 then 64 else 900

def weight : CharSet → Nat
  | .empty => 32
  | .range _ hi => rangeWeight hi
  | .table s => 30 * s.size
  | .union a b => a.weight + b.weight
  | .inter a b => a.weight + b.weight
  | .diff a b => a.weight + b.weight
  | .compl a => a.weight + 900
  | .folded a => a.weight + 64
  | .asciiFolded a => a.weight + 32

def single (n : Nat) : CharSet := .range n n

def ofRanges : List (Nat × Nat) → CharSet
  | [] => .empty
  | [(lo, hi)] => .range lo hi
  | (lo, hi) :: rest => .union (.range lo hi) (ofRanges rest)

def ofCodes (ns : List Nat) : CharSet := ofRanges (ns.map fun n => (n, n))

def unions : List CharSet → CharSet
  | [] => .empty
  | [a] => a
  | a :: rest => .union a (unions rest)

def symmetricDiff (a b : CharSet) : CharSet := .union (.diff a b) (.diff b a)

def orbit (n : Nat) : CharSet := ofCodes (Unicode.foldOrbit n)

def any : CharSet := .range 0 0x10ffff

def ofCategories (codes : List String) : CharSet :=
  unions (codes.map fun code => .table (Unicode.categorySet code))

def binary (name : String) : CharSet := .table (Unicode.binarySet name)

def letterCategories : List String := ["Lu", "Ll", "Lt", "Lm", "Lo"]

def alphabetic : CharSet :=
  .union (ofCategories (letterCategories ++ ["Nl"])) (binary "otheralphabetic")

def decimalDigit : CharSet := .union (.range 0x30 0x39) (ofCategories ["Nd"])

/-- Letters, marks, decimal digits, connecting punctuation and the join controls. -/
def word : CharSet :=
  .union (ofRanges [(0x61, 0x7a), (0x41, 0x5a), (0x30, 0x39), (0x5f, 0x5f)])
    (.union alphabetic
      (.union (ofCategories ["Mn", "Mc", "Me", "Nd", "Pc"]) (binary "joinc")))

def blank : CharSet :=
  ofRanges [(9, 13), (0x20, 0x20), (0x85, 0x85), (0xa0, 0xa0), (0x1680, 0x1680),
    (0x2000, 0x200a), (0x2028, 0x2029), (0x202f, 0x202f), (0x205f, 0x205f), (0x3000, 0x3000)]

def asciiDigit : CharSet := .range 0x30 0x39

def asciiBlank : CharSet := ofRanges [(9, 13), (0x20, 0x20)]

def asciiWord : CharSet := ofRanges [(0x30, 0x39), (0x41, 0x5a), (0x5f, 0x5f), (0x61, 0x7a)]

def ascii? (name : String) : Option CharSet :=
  match name with
  | "alnum" => some (ofRanges [(0x30, 0x39), (0x41, 0x5a), (0x61, 0x7a)])
  | "alpha" => some (ofRanges [(0x41, 0x5a), (0x61, 0x7a)])
  | "ascii" => some (.range 0 0x7f)
  | "blank" => some (ofCodes [0x09, 0x20])
  | "cntrl" => some (ofRanges [(0, 0x1f), (0x7f, 0x7f)])
  | "digit" => some asciiDigit
  | "graph" => some (.range 0x21 0x7e)
  | "lower" => some (.range 0x61 0x7a)
  | "print" => some (.range 0x20 0x7e)
  | "punct" => some (ofRanges [(0x21, 0x2f), (0x3a, 0x40), (0x5b, 0x60), (0x7b, 0x7e)])
  | "space" => some asciiBlank
  | "upper" => some (.range 0x41 0x5a)
  | "word" => some asciiWord
  | "xdigit" => some (ofRanges [(0x30, 0x39), (0x41, 0x46), (0x61, 0x66)])
  | _ => none

end CharSet

end Webprint.Regex
