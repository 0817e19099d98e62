import Webprint.Json.Reading
import Webprint.SortedMap

set_option autoImplicit false

/-!
# Decoding JSON

A decoder turns a reading into a value of a given type and meets faults in reading order. Text that
is not JSON, or that nests too deeply, is `malformed`; a value of the wrong kind, a missing member
and one that stands twice are a `mismatch`.

A record may be written as an object, whose unknown members are passed over, or as an array of its
members in order. What is passed over has to be JSON, but it may nest to any depth and its numbers
and strings need not make sense.
-/

namespace Webprint.Json

inductive Fault where
  | malformed
  | mismatch
deriving Repr, DecidableEq

/-- A decoder is told how many levels of arrays and objects it may still enter. -/
abbrev Decoder (α : Type) := Nat → Reading → Except Fault α

def maxDepth : Nat := 127

def wrongKind {α : Type} : Reading → Except Fault α
  | .broken => .error .malformed
  | .senseless => .error .malformed
  | _ => .error .mismatch

namespace Decode

variable {α σ : Type}

def text : Decoder String
  | _, .string s => .ok s
  | _, r => wrongKind r

def bool : Decoder Bool
  | _, .bool b => .ok b
  | _, r => wrongKind r

def integer (lo hi : Int) : Decoder Int
  | _, .number (.integer i) => if lo ≤ i ∧ i < hi then .ok i else .error .mismatch
  | _, r => wrongKind r

def null : Decoder Unit
  | _, .null => .ok ()
  | _, r => wrongKind r

def nullable (item : Decoder α) : Decoder (Option α)
  | _, .null => .ok none
  | depth, r => (item depth r).map some

def finish (closed : Bool) (a : α) : Except Fault α :=
  if closed then .ok a else .error .malformed

def items (item : Decoder α) (depth : Nat) : List Reading → Except Fault (List α)
  | [] => .ok []
  | r :: rest => do
    let a ← item depth r
    let more ← items item depth rest
    return a :: more

def list (item : Decoder α) : Decoder (List α)
  | 0, .array _ _ => .error .malformed
  | depth + 1, .array rs closed => do
    let as ← items item depth rs
    finish closed as
  | _, r => wrongKind r

def foldMembers (step : σ → String → Reading → Except Fault σ) :
    σ → List (Option String × Reading) → Except Fault σ
  | s, [] => .ok s
  | _, (none, _) :: _ => .error .malformed
  | s, (some key, r) :: rest => do
    let s ← step s key r
    foldMembers step s rest

def object (step : Nat → σ → String → Reading → Except Fault σ) (start : σ) : Decoder σ
  | 0, .object _ _ => .error .malformed
  | depth + 1, .object members closed => do
    let s ← foldMembers (step depth) start members
    finish closed s
  | _, r => wrongKind r

/-- An object as pairs in which a later key replaces an equal one before it. -/
def pairs (item : Decoder α) : Decoder (Entries α) :=
  object (fun depth s key r => (item depth r).map fun a => s.put key a) .empty

def sortedMap (item : Decoder α) : Decoder (SortedMap String α) :=
  object (fun depth m key r => (item depth r).map fun a => m.insert key a) .empty

mutual

def skip : Reading → Except Fault Unit
  | .broken => .error .malformed
  | .array rs closed => do
    skipItems rs
    finish closed ()
  | .object members closed => do
    skipMembers members
    finish closed ()
  | _ => .ok ()

def skipItems : List Reading → Except Fault Unit
  | [] => .ok ()
  | r :: rest => do
    skip r
    skipItems rest

def skipMembers : List (Option String × Reading) → Except Fault Unit
  | [] => .ok ()
  | (_, r) :: rest => do
    skip r
    skipMembers rest

end

/-- A record: an object, or an array of the members named in `names`, in that order. -/
def record (names : List String) (step : Nat → σ → String → Reading → Except Fault σ)
    (start : σ) : Decoder σ
  | 0, .array _ _ => .error .malformed
  | depth + 1, .array rs closed => do
    let s ← foldMembers (step depth) start ((names.map some).zip rs)
    finish (closed && rs.length ≤ names.length) s
  | depth, r => object step start depth r

def once (old : Option α) (item : Decoder α) (depth : Nat) (r : Reading) :
    Except Fault (Option α) :=
  match old with
  | some _ => .error .mismatch
  | none => (item depth r).map some

def required (a : Option α) : Except Fault α :=
  match a with
  | some a => .ok a
  | none => .error .mismatch

mutual

/-- Any value. In an object, a later member replaces an equal one before it. -/
def value : Nat → Reading → Except Fault Value
  | _, .null => .ok .null
  | _, .bool b => .ok (.bool b)
  | _, .number n => .ok (.number n)
  | _, .string s => .ok (.string s)
  | _, .senseless => .error .malformed
  | _, .broken => .error .malformed
  | 0, .array _ _ => .error .malformed
  | 0, .object _ _ => .error .malformed
  | depth + 1, .array rs closed => do
    let vs ← values depth rs
    finish closed (.array vs)
  | depth + 1, .object members closed => do
    let kvs ← valueMembers depth members []
    finish closed (.object kvs)

def values (depth : Nat) : List Reading → Except Fault (List Value)
  | [] => .ok []
  | r :: rest => do
    let v ← value depth r
    let vs ← values depth rest
    return v :: vs

def valueMembers (depth : Nat) :
    List (Option String × Reading) → List (String × Value) → Except Fault (List (String × Value))
  | [], kvs => .ok kvs
  | (none, _) :: _, _ => .error .malformed
  | (some key, r) :: rest, kvs => do
    let v ← value depth r
    valueMembers depth rest (put key v kvs)

end

/-- One of several names, written as a string or as the only key of an object that holds `null`. -/
def name (known : String → Option α) : Decoder α
  | _, .string s => required (known s)
  | 0, .object _ _ => .error .malformed
  | depth + 1, .object members closed =>
    match members with
    | [] => .error .malformed
    | (none, _) :: _ => .error .malformed
    | (some key, r) :: rest => do
      let a ← required (known key)
      null depth r
      finish (closed && rest.isEmpty) a
  | _, r => wrongKind r

def document (item : Decoder α) (d : Reading.Document) : Except Fault α := do
  let a ← item maxDepth d.value
  finish d.ended a

end Decode

def decodeText {α : Type} (item : Decoder α) (s : String) : Except Fault α :=
  Decode.document item (readText s.toList)

def decodeBytes {α : Type} (item : Decoder α) (bytes : List UInt8) : Except Fault α :=
  Decode.document item (readBytes bytes)

/-- Decodes a value that has been read before: whatever is wrong with it, it is not its text. -/
def decodeValue {α : Type} (item : Decoder α) (v : Value) : Except Fault α :=
  (item maxDepth (.ofValue v)).mapError fun _ => .mismatch

end Webprint.Json
