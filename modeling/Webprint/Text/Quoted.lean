import Webprint.Unicode.Category
import Webprint.Unicode.Binary

set_option autoImplicit false

/-!
# Quoted text

A text as messages show it: between double quotes, with quotes, backslashes and invisible
characters escaped.
-/

namespace Webprint.Text

/-- Characters that show as themselves: neither controls nor blanks other than the space, neither
unassigned nor marks that would join the quote before them. -/
def isVisible (c : Char) : Bool :=
  if 0x20 ≤ c.toNat && c.toNat < 0x7f then true
  else
    Unicode.inCategories (Unicode.categoryCodes.filter fun code =>
      !(["Cc", "Cf", "Co", "Zl", "Zp", "Zs", "Me", "Mn"].contains code)) c.toNat
      && !(Unicode.binarySet "othergraphemeextend").contains c.toNat

def hexDigits (n : Nat) : List Char := Nat.toDigits 16 n

def quoteChar (c : Char) : List Char :=
  if c = '"' then ['\\', '"']
  else if c = '\\' then ['\\', '\\']
  else if c = '\n' then ['\\', 'n']
  else if c = '\r' then ['\\', 'r']
  else if c = '\t' then ['\\', 't']
  else if c = '\x00' then ['\\', '0']
  else if isVisible c then [c]
  else ['\\', 'u', '\x7b'] ++ hexDigits c.toNat ++ ['\x7d']

def quoted (s : String) : String :=
  String.ofList ('"' :: s.toList.flatMap quoteChar ++ ['"'])

end Webprint.Text
