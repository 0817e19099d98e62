set_option autoImplicit false

/-!
# Sets of code points

A set is an ascending array of disjoint runs, and a table gives names to such sets. A run may skip
every other code point, which is how the cased letters of most alphabets are laid out. Tables are
written as text: rows end in a semicolon, a row's first word is its name, and each further word is
one run in hexadecimal (`61`, `61-7a`, or `100-12e/2` for a step of two).
-/

namespace Webprint.Unicode

/-- The code points `first`, `first + step`, up to `last`. -/
structure Run where
  first : Nat
  last : Nat
  step : Nat
deriving Repr, DecidableEq

def Run.contains (r : Run) (n : Nat) : Bool :=
  r.first ≤ n && n ≤ r.last && (n - r.first) % r.step == 0

abbrev CodeSet := Array Run

namespace CodeSet

def seek (s : CodeSet) (n : Nat) : Nat → Nat → Nat → Bool
  | 0, _, _ => false
  | fuel + 1, lo, hi =>
    if lo < hi then
      let mid := (lo + hi) / 2
      match s[mid]? with
      | none => false
      | some r =>
        if n < r.first then seek s n fuel lo mid
        else if r.last < n then seek s n fuel (mid + 1) hi
        else r.contains n
    else false

def contains (s : CodeSet) (n : Nat) : Bool := s.seek n (s.size + 1) 0 s.size

def hexDigit? (c : Char) : Option Nat :=
  if '0' ≤ c && c ≤ '9' then some (c.toNat - 48)
  else if 'a' ≤ c && c ≤ 'f' then some (c.toNat - 87)
  else if 'A' ≤ c && c ≤ 'F' then some (c.toNat - 55)
  else none

/-- The value of hexadecimal digits; other characters count as zeros. -/
def hexValue (s : String) : Nat :=
  s.toList.foldl (fun n c => 16 * n + (hexDigit? c).getD 0) 0

def runOfText (word : String) : Run :=
  let (span, step) := match word.splitOn "/" with
    | [span, step] => (span, hexValue step)
    | _ => (word, 1)
  match span.splitOn "-" with
  | [first, last] => ⟨hexValue first, hexValue last, step⟩
  | _ => ⟨hexValue span, hexValue span, step⟩

def wordsOfText (text : String) : List String :=
  ((text.splitOn "\n").flatMap (·.splitOn " ")).filter (· ≠ "")

def tableOfText (text : String) : List (String × CodeSet) :=
  (text.splitOn ";").filterMap fun row =>
    match wordsOfText row with
    | [] => none
    | name :: runs => some (name, (runs.map runOfText).toArray)

end CodeSet

end Webprint.Unicode
