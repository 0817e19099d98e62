import Webprint.Decimal.Shortest

set_option autoImplicit false

/-!
# JSON values

A number is kept as an integer while it fits 64 bits, signed or not, and as a double otherwise.
Objects keep the order of their members. The printer writes the compact form, or the form that puts
each item on a line of its own.
-/

namespace Webprint.Json

inductive Number where
  | integer (value : Int)
  | double (value : Decimal.Binary64)
deriving Repr, DecidableEq

/-- Doubles are written out in full from 0.00001 up to 16 digits before the point. -/
def doubleFormat : Decimal.NumberFormat := ⟨-5, 15, "+"⟩

def Number.text : Number → String
  | .integer i => toString i
  | .double x => doubleFormat.text x

inductive Value where
  | null
  | bool (value : Bool)
  | number (value : Number)
  | string (value : String)
  | array (items : List Value)
  | object (members : List (String × Value))
deriving Repr

namespace Value

def int (i : Int) : Value := .number (.integer i)

def ofOption {α : Type} (f : α → Value) : Option α → Value
  | none => .null
  | some a => f a

def strings (ss : List String) : Value := .array (ss.map .string)

end Value

/-- Lists of pairs in which a key stands once: a new key goes to the end, a known one keeps its
place and takes the new value. -/
def put {α β : Type} [DecidableEq α] (key : α) (value : β) : List (α × β) → List (α × β)
  | [] => [(key, value)]
  | (k, v) :: rest => if k = key then (k, value) :: rest else (k, v) :: put key value rest

theorem mem_keys_put {α β : Type} [DecidableEq α] {key k : α} {value : β} {kvs : List (α × β)}
    (h : k ∈ (put key value kvs).map Prod.fst) : k = key ∨ k ∈ kvs.map Prod.fst := by
  induction kvs with
  | nil => exact .inl (by simpa [put] using h)
  | cons kv kvs ih =>
    unfold put at h
    split at h
    · exact .inr h
    · rcases List.mem_cons.1 h with rfl | h
      · exact .inr (List.mem_cons_self ..)
      · exact (ih h).imp_right (List.mem_cons_of_mem _)

theorem nodup_put {α β : Type} [DecidableEq α] (key : α) (value : β) {kvs : List (α × β)}
    (h : (kvs.map Prod.fst).Nodup) : ((put key value kvs).map Prod.fst).Nodup := by
  induction kvs with
  | nil => simp [put]
  | cons kv kvs ih =>
    obtain ⟨hk, hkvs⟩ := List.nodup_cons.1 h
    unfold put
    split
    · exact h
    · rename_i hne
      refine List.nodup_cons.2 ⟨fun hin => ?_, ih hkvs⟩
      rcases mem_keys_put hin with heq | hin
      · exact hne heq
      · exact hk hin

abbrev Entries (α : Type) := { es : List (String × α) // (es.map Prod.fst).Nodup }

namespace Entries

variable {α : Type}

def empty : Entries α := ⟨[], List.nodup_nil⟩

def put (es : Entries α) (key : String) (a : α) : Entries α :=
  ⟨Json.put key a es.1, nodup_put key a es.2⟩

end Entries

def escapeChar (c : Char) : List Char :=
  if c = '"' then ['\\', '"']
  else if c = '\\' then ['\\', '\\']
  else if c = '\n' then ['\\', 'n']
  else if c = '\r' then ['\\', 'r']
  else if c = '\t' then ['\\', 't']
  else if c.toNat = 8 then ['\\', 'b']
  else if c.toNat = 12 then ['\\', 'f']
  else if c.toNat < 0x20 then
    ['\\', 'u', '0', '0', Nat.digitChar (c.toNat / 16), Nat.digitChar (c.toNat % 16)]
  else [c]

/-- A string between quotes; only quotes, backslashes and control characters are escaped. -/
def quote (s : String) : String := String.ofList ('"' :: s.toList.flatMap escapeChar ++ ['"'])

mutual

def Value.compact : Value → String
  | .null => "null"
  | .bool b => if b then "true" else "false"
  | .number n => n.text
  | .string s => quote s
  | .array items => "[" ++ ",".intercalate (compactItems items) ++ "]"
  | .object members => "\x7b" ++ ",".intercalate (compactMembers members) ++ "\x7d"

def compactItems : List Value → List String
  | [] => []
  | v :: rest => v.compact :: compactItems rest

def compactMembers : List (String × Value) → List String
  | [] => []
  | (k, v) :: rest => (quote k ++ ":" ++ v.compact) :: compactMembers rest

end

def newline (depth : Nat) : String := String.ofList ('\n' :: List.replicate (2 * depth) ' ')

def block (opening closing : String) (depth : Nat) : List String → String
  | [] => opening ++ closing
  | items => opening ++ newline (depth + 1) ++ ("," ++ newline (depth + 1)).intercalate items
      ++ newline depth ++ closing

mutual

def Value.prettyAt (depth : Nat) : Value → String
  | .null => "null"
  | .bool b => if b then "true" else "false"
  | .number n => n.text
  | .string s => quote s
  | .array items => block "[" "]" depth (prettyItems (depth + 1) items)
  | .object members => block "\x7b" "\x7d" depth (prettyMembers (depth + 1) members)

def prettyItems (depth : Nat) : List Value → List String
  | [] => []
  | v :: rest => v.prettyAt depth :: prettyItems depth rest

def prettyMembers (depth : Nat) : List (String × Value) → List String
  | [] => []
  | (k, v) :: rest => (quote k ++ ": " ++ v.prettyAt depth) :: prettyMembers depth rest

end

def Value.pretty (v : Value) : String := v.prettyAt 0

end Webprint.Json
