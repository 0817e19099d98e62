import Webprint.Json.Value
import Webprint.Text.Utf8

set_option autoImplicit false

/-!
# Reading JSON text

A text is read into a tree as far as it is JSON. Where it stops being JSON the tree says so: a value
that cannot be read is `broken`, and a list or an object that goes wrong after some of its items is
not `closed`. A decoder walks through the tree in reading order, so of several faults in a text it
meets the first one first, whether that is a fault of the text or a value of the wrong kind.
-/

namespace Webprint.Json

/-- As much of a text as is JSON. `senseless` is a number beyond all doubles or a string with half
a surrogate pair or a stray byte: it has the form of a value but stands for none. -/
inductive Reading where
  | null
  | bool (value : Bool)
  | number (value : Number)
  | string (value : String)
  | senseless
  | array (items : List Reading) (closed : Bool)
  | object (members : List (Option String × Reading)) (closed : Bool)
  | broken
deriving Repr

/-- A reading with the rest of the text behind it, if the reading got that far. -/
abbrev Read (α : Type) := α × Option (List Char)

def isSpace (c : Char) : Bool := c == ' ' || c == '\n' || c == '\t' || c == '\r'

def skipSpace (s : List Char) : List Char := s.dropWhile isSpace

/-! ## Numbers -/

def digit? (c : Char) : Option Nat :=
  if '0' ≤ c && c ≤ '9' then some (c.toNat - 48) else none

def digitsOf (s : List Char) : List Nat := (s.takeWhile Char.isDigit).filterMap digit?

def afterDigits (s : List Char) : List Char := s.dropWhile Char.isDigit

/-- Takes digits while the number that they make with those before fits 64 bits. Gives that number
and how many digits were taken. -/
def takeDigits (significand : Nat) : List Nat → Nat × Nat
  | [] => (significand, 0)
  | d :: ds =>
    if significand * 10 + d < Nat.pow 2 64 then
      let (n, taken) := takeDigits (significand * 10 + d) ds
      (n, taken + 1)
    else (significand, 0)

def tenTo? (n : Nat) : Option Decimal.Binary64 := Decimal.Binary64.ofNat? (Nat.pow 10 n)

/-- A double times a power of ten: one rounded product or quotient where the power is a double, with
steps of 308 places before it. Nothing if the result is too large. -/
def scaleDouble : Nat → Decimal.Binary64 → Int → Option Decimal.Binary64
  | 0, x, _ => some x
  | fuel + 1, x, e =>
    if e.natAbs ≤ 308 then
      (tenTo? e.natAbs).bind fun p => if 0 ≤ e then x.mul? p else x.div? p
    else if x.isZero then some x
    else if 0 ≤ e then none
    else (tenTo? 308).bind fun p => (x.div? p).bind fun y => scaleDouble fuel y (e + 308)

def doubleOf? (negative : Bool) (significand : Nat) (e : Int) : Option Decimal.Binary64 :=
  ((Decimal.Binary64.ofNat? significand).bind fun x => scaleDouble 4 x e).map fun x =>
    if negative then x.negate else x

/-- The exponent's digits, clamped to what 32 bits hold. -/
def exponentOf (ds : List Nat) : Option Nat :=
  let n := ds.foldl (fun n d => 10 * n + d) 0
  if n < Nat.pow 2 31 then some n else none

def numberOf (negative : Bool) (whole : List Nat) (fraction : Option (List Nat))
    (exponent : Option (Bool × List Nat)) : Option Number :=
  let (first, taken) := takeDigits 0 whole
  let dropped := whole.length - taken
  match fraction, exponent with
  | none, none =>
    if dropped ≠ 0 then (doubleOf? negative first dropped).map .double
    else if !negative then some (.integer first)
    else if first = 0 || Nat.pow 2 63 < first then (doubleOf? true first 0).map .double
    else some (.integer (-first))
  | _, _ =>
    let (significand, places) := takeDigits first (fraction.getD [])
    let base : Int := (dropped : Int) - places
    match exponent with
    | none => (doubleOf? negative significand base).map .double
    | some (down, ds) =>
      match exponentOf ds with
      | some e => (doubleOf? negative significand (if down then base - e else base + e)).map .double
      | none =>
        if significand ≠ 0 && !down then none else some (.double (.ofParts negative 0))

def readExponent (s : List Char) : Option (Option (Bool × List Nat) × List Char) :=
  match s with
  | e :: s =>
    if e = 'e' || e = 'E' then
      let (down, s) := match s with
        | '+' :: s => (false, s)
        | '-' :: s => (true, s)
        | s => (false, s)
      if (digitsOf s).isEmpty then none else some (some (down, digitsOf s), afterDigits s)
    else some (none, e :: s)
  | [] => some (none, [])

def readFraction (s : List Char) : Option (Option (List Nat) × List Char) :=
  match s with
  | '.' :: s => if (digitsOf s).isEmpty then none else some (some (digitsOf s), afterDigits s)
  | s => some (none, s)

def readNumber (negative : Bool) (s : List Char) : Read Reading :=
  let whole := digitsOf s
  if whole.isEmpty || (whole.head? = some 0 && whole.length ≠ 1) then (.broken, none)
  else
    match readFraction (afterDigits s) with
    | none => (.broken, none)
    | some (fraction, s) =>
      match readExponent s with
      | none => (.broken, none)
      | some (exponent, s) =>
        match numberOf negative whole fraction exponent with
        | some n => (.number n, some s)
        | none => (.senseless, some s)

/-! ## Strings -/

def hexDigit? (c : Char) : Option Nat :=
  if '0' ≤ c && c ≤ '9' then some (c.toNat - 48)
  else if 'a' ≤ c && c ≤ 'f' then some (c.toNat - 87)
  else if 'A' ≤ c && c ≤ 'F' then some (c.toNat - 55)
  else none

def hexFour? : List Char → Option (Nat × List Char)
  | a :: b :: c :: d :: rest => do
    let a ← hexDigit? a
    let b ← hexDigit? b
    let c ← hexDigit? c
    let d ← hexDigit? d
    return (a * 4096 + b * 256 + c * 16 + d, rest)
  | _ => none

def simpleEscape? (c : Char) : Option Char :=
  if c = '"' || c = '\\' || c = '/' then some c
  else if c = 'b' then some (Char.ofNat 8)
  else if c = 'f' then some (Char.ofNat 12)
  else if c = 'n' then some '\n'
  else if c = 'r' then some '\r'
  else if c = 't' then some '\t'
  else none

/-- What stands for bytes that are no characters where a text was given by its bytes. -/
def stray : Char := '\x01'

/-- One character of a string, an escaped half of a surrogate pair, or a stray byte. -/
inductive StringUnit where
  | char (c : Char)
  | highSurrogate (n : Nat)
  | lowSurrogate (n : Nat)
  | strayByte

/-- The units of a string up to its closing quote; `strays` says whether stray bytes may occur. -/
def readUnits (strays : Bool) : Nat → List Char → Option (List StringUnit × List Char)
  | 0, _ => none
  | fuel + 1, s =>
    match s with
    | [] => none
    | '"' :: rest => some ([], rest)
    | '\\' :: 'u' :: rest => do
      let (n, rest) ← hexFour? rest
      let (units, rest) ← readUnits strays fuel rest
      let unit : StringUnit :=
        if 0xd800 ≤ n && n < 0xdc00 then .highSurrogate n
        else if 0xdc00 ≤ n && n < 0xe000 then .lowSurrogate n
        else .char (Char.ofNat n)
      return (unit :: units, rest)
    | '\\' :: c :: rest => do
      let c ← simpleEscape? c
      let (units, rest) ← readUnits strays fuel rest
      return (.char c :: units, rest)
    | c :: rest => do
      if (c.toNat < 0x20 && !(strays && c = stray)) || c = '\\' then none
      let (units, rest) ← readUnits strays fuel rest
      return ((if c = stray then .strayByte else .char c) :: units, rest)

/-- The characters of a string's units; nothing if half of a surrogate pair stands alone or there is
a stray byte. -/
def charsOfUnits : List StringUnit → Option (List Char)
  | [] => some []
  | .char c :: rest => (charsOfUnits rest).map (c :: ·)
  | .highSurrogate h :: .lowSurrogate l :: rest =>
    (charsOfUnits rest).map (Char.ofNat ((h - 0xd800) * 1024 + (l - 0xdc00) + 0x10000) :: ·)
  | _ => none

def readString (strays : Bool) (s : List Char) : Option (Option String × List Char) :=
  (readUnits strays (s.length + 1) s).map fun (units, rest) =>
    ((charsOfUnits units).map String.ofList, rest)

/-! ## Values -/

def readWord (word : List Char) (value : Reading) (s : List Char) : Read Reading :=
  if word.isPrefixOf s then (value, some (s.drop word.length)) else (.broken, none)

mutual

/-- One value. Each call takes a character or hands on less fuel, so fuel that exceeds twice the
length of the text never runs out. -/
def readValue (strays : Bool) : Nat → List Char → Read Reading
  | 0, _ => (.broken, none)
  | fuel + 1, s =>
    match skipSpace s with
    | [] => (.broken, none)
    | '"' :: rest =>
      match readString strays rest with
      | none => (.broken, none)
      | some (some text, rest) => (.string text, some rest)
      | some (none, rest) => (.senseless, some rest)
    | '[' :: rest =>
      match skipSpace rest with
      | ']' :: rest => (.array [] true, some rest)
      | rest =>
        let (items, after) := readItems strays fuel rest
        (.array items after.isSome, after)
    | '\x7b' :: rest =>
      match skipSpace rest with
      | '\x7d' :: rest => (.object [] true, some rest)
      | rest =>
        let (members, after) := readMembers strays fuel rest
        (.object members after.isSome, after)
    | '-' :: rest => readNumber true rest
    | 't' :: rest => readWord ['r', 'u', 'e'] (.bool true) rest
    | 'f' :: rest => readWord ['a', 'l', 's', 'e'] (.bool false) rest
    | 'n' :: rest => readWord ['u', 'l', 'l'] .null rest
    | rest => readNumber false rest

def readItems (strays : Bool) : Nat → List Char → Read (List Reading)
  | 0, _ => ([], none)
  | fuel + 1, s =>
    match readValue strays fuel s with
    | (.broken, _) => ([.broken], none)
    | (item, none) => ([item], none)
    | (item, some rest) =>
      match skipSpace rest with
      | ']' :: rest => ([item], some rest)
      | ',' :: rest =>
        let (items, after) := readItems strays fuel rest
        (item :: items, after)
      | _ => ([item], none)

def readMembers (strays : Bool) : Nat → List Char → Read (List (Option String × Reading))
  | 0, _ => ([], none)
  | fuel + 1, s =>
    match skipSpace s with
    | '"' :: rest =>
      match readString strays rest with
      | none => ([], none)
      | some (key, rest) =>
        match skipSpace rest with
        | ':' :: rest =>
          match readValue strays fuel rest with
          | (item, none) => ([(key, item)], none)
          | (item, some rest) =>
            match skipSpace rest with
            | '\x7d' :: rest => ([(key, item)], some rest)
            | ',' :: rest =>
              let (members, after) := readMembers strays fuel rest
              ((key, item) :: members, after)
            | _ => ([(key, item)], none)
        | _ => ([(key, .broken)], none)
    | _ => ([], none)

end

structure Reading.Document where
  value : Reading
  ended : Bool

def readDocument (strays : Bool) (s : List Char) : Reading.Document :=
  match readValue strays (2 * s.length + 2) s with
  | (value, some rest) => ⟨value, (skipSpace rest).isEmpty⟩
  | (value, none) => ⟨value, false⟩

def readText (s : List Char) : Reading.Document := readDocument false s

/-- A character of a text given by its bytes. No string may hold a control character, so another one
can take the place of that which stands for stray bytes. -/
def orStray : Option Char → Char
  | none => stray
  | some c => if c = stray then '\x00' else c

/-- A text given by its bytes. Bytes that are no characters may only stand in strings. -/
def readBytes (bytes : List UInt8) : Reading.Document :=
  readDocument true ((Text.decodeUtf8 bytes).map orStray)

mutual

def Reading.ofValue : Value → Reading
  | .null => .null
  | .bool b => .bool b
  | .number n => .number n
  | .string s => .string s
  | .array items => .array (readingsOfValues items) true
  | .object members => .object (readingsOfMembers members) true

def readingsOfValues : List Value → List Reading
  | [] => []
  | v :: rest => .ofValue v :: readingsOfValues rest

def readingsOfMembers : List (String × Value) → List (Option String × Reading)
  | [] => []
  | (k, v) :: rest => (some k, .ofValue v) :: readingsOfMembers rest

end

end Webprint.Json
