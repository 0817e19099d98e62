import Webprint.Idna.Label
import Webprint.Idna.Punycode
import Webprint.Text.Search
import Webprint.Text.Utf8

set_option autoImplicit false

/-!
# International domain names

A name is mapped, cut into labels at the full stops, checked label by label, and written in ASCII.
Labels that come in Punycode already are decoded for the check and kept as they are. Neither the
lengths of labels nor the places of hyphens are looked at.
-/

namespace Webprint.Idna

structure Label where
  ascii : List Char
  unicode : List Char
deriving DecidableEq, Repr

def isAscii (s : List Char) : Bool := s.all (·.toNat < 0x80)

def codedMark : List Char := "xn--".toList

/-- The longest label in Punycode that is decoded, and the longest label that is encoded. -/
def maxCoded : Nat := 2000

def maxUncoded : Nat := 1000

/-- What a label in Punycode reads as: never ASCII alone, and nothing that mapping would change. -/
def decodeLabel? (coded : List Char) : Option Label :=
  if maxCoded < coded.length then none
  else
    match Punycode.decode? coded with
    | none => none
    | some s =>
      if isAscii s || Unicode.normalizeC s != s || !isValidLabel s then none
      else some ⟨codedMark ++ coded, s⟩

def label? (s : List Char) : Option Label :=
  match Text.after? codedMark s with
  | some coded => if isAscii s then decodeLabel? coded else none
  | none =>
    if !isValidLabel s then none
    else if isAscii s then some ⟨s, s⟩
    else if maxUncoded < s.length then none
    else some ⟨codedMark ++ Punycode.encode s, s⟩

def agree (labels : List Label) : Bool :=
  !(labels.any fun l => isBidirectional l.unicode) || labels.all fun l => keepsDirection l.unicode

def toAscii? (name : List Char) : Option (List Char) :=
  match (Text.splitWhere (· == '.') (mapName name)).mapM label? with
  | none => none
  | some labels =>
    if agree labels then some (Text.joinWith ['.'] (labels.map (·.ascii))) else none

end Webprint.Idna
