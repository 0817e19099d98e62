import Webprint.Text.Search
import Webprint.Unicode.CodeSet

set_option autoImplicit false

/-!
# IP addresses in hosts

An IPv4 address is read in all its spellings: one to four numbers, decimal, octal or hexadecimal, the
last of which fills all bytes that are left. An IPv6 address is eight groups of four hexadecimal
digits, of which a run of zeros may be left out once and the last two may be an IPv4 address; it is
written in its shortest form.
-/

namespace Webprint.Url

def digitsValue (base : Nat) (s : List Char) : Nat :=
  s.foldl (fun n c => base * n + (Unicode.CodeSet.hexDigit? c).getD 0) 0

def isHex (c : Char) : Bool := (Unicode.CodeSet.hexDigit? c).isSome

namespace Ipv4

/-- A number of an address: hexadecimal after `0x`, octal after another leading zero. -/
def number? (s : List Char) : Option Nat :=
  match s with
  | [] => none
  | '0' :: 'x' :: digits => if digits.all isHex then some (digitsValue 16 digits) else none
  | '0' :: 'X' :: digits => if digits.all isHex then some (digitsValue 16 digits) else none
  | '0' :: digits =>
    if digits.all fun c => '0' ≤ c && c ≤ '7' then some (digitsValue 8 digits) else none
  | digits => if digits.all Char.isDigit then some (digitsValue 10 digits) else none

def parts (name : List Char) : List (List Char) :=
  let all := Text.splitWhere (· == '.') name
  if 1 < all.length && all.getLast? == some [] then all.dropLast else all

/-- Whether a name has to be an address because its last part is a number. -/
def isMeant (name : List Char) : Bool :=
  match (parts name).getLast? with
  | none => false
  | some last => !last.isEmpty && (last.all Char.isDigit || (number? last).isSome)

def combine? (numbers : List Nat) : Option Nat :=
  match numbers.reverse with
  | [] => none
  | last :: before =>
    if 3 < before.length || before.any (255 < ·) || Nat.pow 256 (4 - before.length) ≤ last then none
    else some (before.reverse.foldl (fun n b => 256 * n + b) 0 * Nat.pow 256 (4 - before.length) + last)

def parse? (name : List Char) : Option Nat := ((parts name).mapM number?).bind combine?

def text (n : Nat) : List Char :=
  Text.joinWith ['.'] ([n / 16777216, n / 65536 % 256, n / 256 % 256, n % 256].map (Nat.toDigits 10))

end Ipv4

namespace Ipv6

def byte? (s : List Char) : Option Nat :=
  if s.isEmpty || !s.all Char.isDigit || 1 < s.length && s.head? == some '0' then none
  else
    let n := digitsValue 10 s
    if n ≤ 255 then some n else none

def embedded? (s : List Char) : Option (List Nat) :=
  match (Text.splitWhere (· == '.') s).mapM byte? with
  | some [a, b, c, d] => some [256 * a + b, 256 * c + d]
  | _ => none

/-- Reads groups while there is room for them; a gap takes the room of one. Returns the groups and
how many of them stand before the gap. -/
def groups? : Nat → List Nat → Option Nat → List Char → Option (List Nat × Option Nat)
  | _, done, gap, [] => some (done, gap)
  | 0, _, _, _ :: _ => none
  | room + 1, done, gap, ':' :: s =>
    if gap.isSome then none else groups? room done (some done.length) s
  | room + 1, done, gap, s =>
    let digits := (s.take 4).takeWhile isHex
    let group := digitsValue 16 digits
    match s.drop digits.length with
    | [] => some (done ++ [group], gap)
    | ':' :: rest => if rest.isEmpty then none else groups? room (done ++ [group]) gap rest
    | '.' :: _ =>
      if digits.isEmpty || room = 0 then none
      else (embedded? s).map fun last => (done ++ last, gap)
    | _ => none

def parse? (s : List Char) : Option (List Nat) :=
  let read := match s with
    | ':' :: ':' :: rest => groups? 7 [] (some 0) rest
    | ':' :: _ => none
    | [_] => none
    | [] => none
    | s => groups? 8 [] none s
  match read with
  | none => none
  | some (groups, none) => if groups.length = 8 then some groups else none
  | some (groups, some k) =>
    some (groups.take k ++ List.replicate (8 - groups.length) 0 ++ groups.drop k)

/-- Where the first of the longest runs of zeros begins and how long it is; a single zero is none. -/
def longestZeros (groups : List Nat) : Option (Nat × Nat) :=
  let (start, size) := (List.range groups.length).foldl (fun best i =>
    let size := ((groups.drop i).takeWhile (· == 0)).length
    if best.2 < size then (i, size) else best) (0, 1)
  if size < 2 then none else some (start, size)

def text (groups : List Nat) : List Char :=
  let join (gs : List Nat) := Text.joinWith [':'] (gs.map (Nat.toDigits 16))
  match longestZeros groups with
  | none => join groups
  | some (start, size) => join (groups.take start) ++ "::".toList ++ join (groups.drop (start + size))

end Ipv6

end Webprint.Url
