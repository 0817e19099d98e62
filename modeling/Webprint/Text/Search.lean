set_option autoImplicit false

/-!
# Searching in texts

Parting a text at the occurrences of a fixed word, and replacing them. Occurrences are found from
the left and do not overlap.
-/

namespace Webprint.Text

def after? : List Char → List Char → Option (List Char)
  | [], s => some s
  | _ :: _, [] => none
  | w :: word, c :: s => if w = c then after? word s else none

def partAt? (word : List Char) : List Char → Option (List Char × List Char)
  | [] => if word.isEmpty then some ([], []) else none
  | c :: s =>
    match after? word (c :: s) with
    | some rest => some ([], rest)
    | none => (partAt? word s).map fun (before, rest) => (c :: before, rest)

/-- Walks through a text and passes over `skip` characters of an occurrence found before. -/
def piecesFrom (word : List Char) : Nat → List Char → List Char × List (List Char)
  | _, [] => ([], [])
  | skip + 1, _ :: s => piecesFrom word skip s
  | 0, c :: s =>
    if word.isPrefixOf (c :: s) then
      let (piece, pieces) := piecesFrom word (word.length - 1) s
      ([], piece :: pieces)
    else
      let (piece, pieces) := piecesFrom word 0 s
      (c :: piece, pieces)

/-- The pieces between the occurrences of a nonempty word: always one more than there are. -/
def splitAll (word s : List Char) : List (List Char) :=
  let (piece, pieces) := piecesFrom word 0 s
  piece :: pieces

def joinWith (sep : List Char) (pieces : List (List Char)) : List Char :=
  sep.intercalate pieces

def replaceAll (word new s : List Char) : List Char :=
  joinWith new (splitAll word s)

def replaceFirst (word new s : List Char) : List Char :=
  match partAt? word s with
  | some (before, rest) => before ++ new ++ rest
  | none => s

def splitWhere (p : Char → Bool) : List Char → List (List Char)
  | [] => [[]]
  | c :: s =>
    match splitWhere p s with
    | [] => [[c]]
    | piece :: pieces => if p c then [] :: piece :: pieces else (c :: piece) :: pieces

/-- The lines of a text: a last line that is empty does not count, and a carriage return before a
line feed belongs to the line's end. -/
def lines (s : List Char) : List (List Char) :=
  let pieces := splitWhere (· == '\n') s
  let (closed, last) := (pieces.dropLast, pieces.getLast?.getD [])
  closed.map (fun line => if line.getLast? = some '\r' then line.dropLast else line)
    ++ if last.isEmpty then [] else [last]

end Webprint.Text
