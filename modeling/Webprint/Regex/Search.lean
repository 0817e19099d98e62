import Webprint.Regex.Program

set_option autoImplicit false

/-!
# Searching

The leftmost match of a program, and of the matches that begin there the preferred one. The search
walks through the text once. At each position it holds the places in the program that can be reached,
in order of preference and each of them once; a place behind one that accepts is dropped, since it
could only lead to matches that are less preferred.
-/

namespace Webprint.Regex

structure Place where
  before : Option Char
  after : Option Char
  position : Nat

namespace Place

def isWord (unicode : Bool) (c : Option Char) : Bool :=
  match c with
  | none => false
  | some c => (if unicode then CharSet.word else CharSet.asciiWord).mem c.toNat

end Place

def Look.holds (l : Look) (p : Place) : Bool :=
  match l with
  | .textStart => p.before.isNone
  | .textEnd => p.after.isNone
  | .lineStart => p.before.isNone || p.before = some '\n'
  | .lineEnd => p.after.isNone || p.after = some '\n'
  | .lineStartCrlf =>
    p.before.isNone || p.before = some '\n' || (p.before = some '\r' && p.after ≠ some '\n')
  | .lineEndCrlf =>
    p.after.isNone || p.after = some '\r' || (p.after = some '\n' && p.before ≠ some '\r')
  | .wordBoundary u => Place.isWord u p.before != Place.isWord u p.after
  | .notWordBoundary u => Place.isWord u p.before == Place.isWord u p.after
  | .wordStart u => !Place.isWord u p.before && Place.isWord u p.after
  | .wordEnd u => Place.isWord u p.before && !Place.isWord u p.after
  | .wordStartHalf u => !Place.isWord u p.before
  | .wordEndHalf u => !Place.isWord u p.after

abbrev Slots := List (Option Nat)

structure Thread where
  pc : Nat
  slots : Slots

/-- For each address, one more than the last position at which it was reached. -/
abbrev Marks := Array Nat

/-- Follows the threads in order through everything that takes no character. A thread whose address
was reached at this position before is dropped. The threads that wait for a character, or accept,
come out last first. Each round drops a thread or marks an address, so twice the length of the
program plus the number of threads is fuel enough. -/
def follow (program : Array Instruction) (place : Place) :
    Nat → List Thread → Marks → List Thread → Marks × List Thread
  | 0, _, marks, out => (marks, out)
  | _, [], marks, out => (marks, out)
  | fuel + 1, t :: work, marks, out =>
    if marks[t.pc]? = some (place.position + 1) then follow program place fuel work marks out
    else
      let marks := marks.setIfInBounds t.pc (place.position + 1)
      match program[t.pc]? with
      | none => follow program place fuel work marks out
      | some (.jump n) => follow program place fuel (⟨n, t.slots⟩ :: work) marks out
      | some (.split a b) =>
        follow program place fuel (⟨a, t.slots⟩ :: ⟨b, t.slots⟩ :: work) marks out
      | some (.save k) =>
        follow program place fuel (⟨t.pc + 1, t.slots.set k (some place.position)⟩ :: work) marks out
      | some (.look l) =>
        if l.holds place then follow program place fuel (⟨t.pc + 1, t.slots⟩ :: work) marks out
        else follow program place fuel work marks out
      | some (.chars _) => follow program place fuel work marks (t :: out)
      | some .accept => follow program place fuel work marks (t :: out)

/-- The threads before the first one that accepts, and what that one has noted. -/
def cut (program : Array Instruction) : List Thread → List Thread × Option Slots
  | [] => ([], none)
  | t :: rest =>
    if program[t.pc]? = some .accept then ([], some t.slots)
    else
      let (kept, found) := cut program rest
      (t :: kept, found)

def advance (program : Array Instruction) (c : Char) (ts : List Thread) : List Thread :=
  ts.filterMap fun (t : Thread) =>
    match program[t.pc]? with
    | some (.chars s) => if s.mem c.toNat then some ⟨t.pc + 1, t.slots⟩ else none
    | _ => none

/-- Goes on from a position with the threads that have reached it. While nothing is found, a match
may begin here too. -/
def searchFrom (program : Array Instruction) (blank : Slots) :
    List Char → Option Char → Nat → List Thread → Marks → Option Slots → Option Slots
  | rest, before, position, threads, marks, found =>
    let work := if found.isNone then threads ++ [⟨0, blank⟩] else threads
    if work.isEmpty then found
    else
      let place : Place := ⟨before, rest.head?, position⟩
      let (marks, out) := follow program place (2 * program.size + work.length) work marks []
      let (kept, accepted) := cut program out.reverse
      let found := accepted.or found
      match rest with
      | [] => found
      | c :: rest =>
        searchFrom program blank rest (some c) (position + 1) (advance program c kept) marks found

def search (program : Array Instruction) (groups : Nat) (s : List Char) : Option Slots :=
  searchFrom program (List.replicate (2 * groups) none) s none 0 []
    (Array.replicate program.size 0) none

end Webprint.Regex
