import Webprint.Regex.Node

set_option autoImplicit false

/-!
# Programs

An expression as a list of instructions. An instruction that names no target goes on to the next
one. Code is placed at an address, and everything that it jumps to is an absolute address.
-/

namespace Webprint.Regex

inductive Instruction where
  | chars (set : CharSet)
  | look (l : Look)
  | save (slot : Nat)
  /-- Goes on at both targets; the first one is preferred. -/
  | split (first second : Nat)
  | jump (target : Nat)
  | accept
deriving Repr, DecidableEq

/-- A piece of code that can be placed at any address. -/
structure Fragment where
  size : Nat
  code : Nat → List Instruction

namespace Fragment

def nothing : Fragment := ⟨0, fun _ => []⟩

def single (i : Instruction) : Fragment := ⟨1, fun _ => [i]⟩

def seq (a b : Fragment) : Fragment :=
  ⟨a.size + b.size, fun start => a.code start ++ b.code (start + a.size)⟩

def alt (a b : Fragment) : Fragment :=
  ⟨a.size + b.size + 2, fun start =>
    .split (start + 1) (start + a.size + 2) :: a.code (start + 1)
      ++ .jump (start + a.size + b.size + 2) :: b.code (start + a.size + 2)⟩

def branch (greedy : Bool) (inside outside : Nat) : Instruction :=
  if greedy then .split inside outside else .split outside inside

def copies (a : Fragment) : Nat → Fragment
  | 0 => nothing
  | n + 1 => seq a (copies a n)

/-- Up to `n` copies, each of which may leave to the common end. -/
def upTo (greedy : Bool) (a : Fragment) (n : Nat) : Fragment :=
  let size := n * (a.size + 1)
  let rec go (finish : Nat) : Nat → Nat → List Instruction
    | 0, _ => []
    | n + 1, start =>
      branch greedy (start + 1) finish :: a.code (start + 1) ++ go finish n (start + a.size + 1)
  ⟨size, fun start => go (start + size) n start⟩

def plus (greedy : Bool) (a : Fragment) : Fragment :=
  ⟨a.size + 1, fun start => a.code start ++ [branch greedy start (start + a.size + 1)]⟩

/-- Any number of times. A body that may take nothing is entered through `plus`, so that a round
without progress is left behind and keeps its place among the alternatives. -/
def star (greedy nullable : Bool) (a : Fragment) : Fragment :=
  if nullable then
    let p := plus greedy a
    ⟨p.size + 1, fun start => branch greedy (start + 1) (start + p.size + 1) :: p.code (start + 1)⟩
  else
    ⟨a.size + 2, fun start =>
      branch greedy (start + 1) (start + a.size + 2) :: a.code (start + 1) ++ [.jump start]⟩

end Fragment

def Node.fragment : Node → Fragment
  | .empty => .nothing
  | .chars s => .single (.chars s)
  | .look l => .single (.look l)
  | .seq a b => a.fragment.seq b.fragment
  | .alt a b => a.fragment.alt b.fragment
  | .group i a => (Fragment.single (.save (2 * i))).seq
      (a.fragment.seq (.single (.save (2 * i + 1))))
  | .loop min max greedy a =>
    let body := a.fragment
    match max with
    | some max => (body.copies min).seq (.upTo greedy body (max - min))
    | none =>
      if min = 0 then .star greedy a.nullable body
      else (body.copies (min - 1)).seq (.plus greedy body)

def Node.program (n : Node) : List Instruction :=
  (Node.group 0 n).fragment.code 0 ++ [.accept]

end Webprint.Regex
