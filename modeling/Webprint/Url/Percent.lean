import Webprint.Text.Utf8
import Webprint.Unicode.CodeSet

set_option autoImplicit false

/-!
# Percent encoding

A byte may be written as `%` and two hexadecimal digits. Each part of an address has its own set of
ASCII characters that must be written so; characters beyond ASCII are always written so, byte by byte.
-/

namespace Webprint.Url

abbrev EncodeSet := Char → Bool

namespace EncodeSet

def controls : EncodeSet := fun c => c.toNat < 0x20 || c.toNat == 0x7f

def adding (s : EncodeSet) (more : String) : EncodeSet := fun c => s c || more.toList.contains c

def fragment : EncodeSet := controls.adding " \"<>\x60"

def path : EncodeSet := fragment.adding "#?\x7b\x7d"

def credentials : EncodeSet := path.adding "/:;=@[\\]^|"

def query : EncodeSet := controls.adding " \"#<>"

def specialQuery : EncodeSet := query.adding "'"

end EncodeSet

def hexDigit (n : Nat) : Char :=
  if n < 10 then Char.ofNat ('0'.toNat + n) else Char.ofNat ('A'.toNat + (n - 10))

def encodeByte (b : UInt8) : List Char := ['%', hexDigit (b.toNat / 16), hexDigit (b.toNat % 16)]

def encodeChar (s : EncodeSet) (c : Char) : List Char :=
  if 0x80 ≤ c.toNat || s c then (String.utf8EncodeChar c).flatMap encodeByte else [c]

def percentEncode (s : EncodeSet) (text : List Char) : List Char := text.flatMap (encodeChar s)

/-- The bytes of a text; a percent sign without two digits stands for itself. -/
def percentDecode : List Char → List UInt8
  | [] => []
  | '%' :: a :: b :: rest =>
    match Unicode.CodeSet.hexDigit? a, Unicode.CodeSet.hexDigit? b with
    | some x, some y => UInt8.ofNat (16 * x + y) :: percentDecode rest
    | _, _ => String.utf8EncodeChar '%' ++ percentDecode (a :: b :: rest)
  | c :: rest => String.utf8EncodeChar c ++ percentDecode rest

end Webprint.Url
