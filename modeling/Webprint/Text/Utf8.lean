set_option autoImplicit false

/-!
# Reading UTF-8

Bytes are read as characters; each longest run of bytes that begins like a character but does not
complete one is reported once, as `none`. A caller that mends such runs writes U+FFFD in their place.
-/

namespace Webprint.Text

/-- A character of which some bytes are still missing: how many, the bounds of the next one, and the
value of the bits so far. -/
structure Unfinished where
  missing : Nat
  lo : Nat
  hi : Nat
  bits : Nat

/-- What a first byte says: a whole character, a broken run, or the beginning of a character. -/
def leadByte (b : UInt8) : List (Option Char) × Option Unfinished :=
  let n := b.toNat
  if n < 0x80 then ([some (Char.ofNat n)], none)
  else if n < 0xc2 || 0xf4 < n then ([none], none)
  else if n < 0xe0 then ([], some ⟨1, 0x80, 0xbf, n - 0xc0⟩)
  else if n < 0xf0 then
    ([], some ⟨2, if n = 0xe0 then 0xa0 else 0x80, if n = 0xed then 0x9f else 0xbf, n - 0xe0⟩)
  else
    ([], some ⟨3, if n = 0xf0 then 0x90 else 0x80, if n = 0xf4 then 0x8f else 0xbf, n - 0xf0⟩)

def decodeUtf8From : Option Unfinished → List UInt8 → List (Option Char)
  | none, [] => []
  | some _, [] => [none]
  | none, b :: rest => (leadByte b).1 ++ decodeUtf8From (leadByte b).2 rest
  | some u, b :: rest =>
    if u.lo ≤ b.toNat && b.toNat ≤ u.hi then
      let bits := u.bits * 64 + (b.toNat - 0x80)
      if u.missing ≤ 1 then some (Char.ofNat bits) :: decodeUtf8From none rest
      else decodeUtf8From (some ⟨u.missing - 1, 0x80, 0xbf, bits⟩) rest
    else none :: (leadByte b).1 ++ decodeUtf8From (leadByte b).2 rest

/-- The characters of a text in UTF-8, with `none` for each run that is none. -/
def decodeUtf8 (bytes : List UInt8) : List (Option Char) := decodeUtf8From none bytes

def mendUtf8 (bytes : List UInt8) : List Char :=
  (decodeUtf8 bytes).map (·.getD '\ufffd')

def utf8? (bytes : List UInt8) : Option (List Char) := (decodeUtf8 bytes).mapM id

def utf8Bytes (s : String) : List UInt8 := s.toUTF8.toList

def bytes (s : List Char) : List UInt8 := s.flatMap String.utf8EncodeChar

/-- A text parted at an offset in bytes, which must not lie inside a character or beyond the end. -/
def partAtByte? : Nat → List Char → Option (List Char × List Char)
  | 0, s => some ([], s)
  | _ + 1, [] => none
  | n + 1, c :: s =>
    if c.utf8Size ≤ n + 1 then
      (partAtByte? (n + 1 - c.utf8Size) s).map fun (before, rest) => (c :: before, rest)
    else none

end Webprint.Text
