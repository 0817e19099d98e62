set_option autoImplicit false

/-!
# Slugs

A name as part of an address: ASCII letters in lower case, digits, underscores, and single hyphens
between them. Common Latin letters lose their accents; everything else parts words.
-/

namespace Webprint

def foldAccent? (c : Char) : Option String :=
  if "àáâãäåÀÁÂÃÄÅ".toList.contains c then some "a"
  else if "æÆ".toList.contains c then some "ae"
  else if "çÇ".toList.contains c then some "c"
  else if "èéêëÈÉÊË".toList.contains c then some "e"
  else if "ìíîïÌÍÎÏ".toList.contains c then some "i"
  else if "ñÑ".toList.contains c then some "n"
  else if "òóôõöøÒÓÔÕÖØ".toList.contains c then some "o"
  else if "ùúûüÙÚÛÜ".toList.contains c then some "u"
  else if "ýÿÝ".toList.contains c then some "y"
  else if c = 'ß' then some "ss"
  else none

def slugPiece? (c : Char) : Option (List Char) :=
  if c.isAlphanum || c = '_' then some [c.toLower]
  else (foldAccent? c).map String.toList

/-- Writes the slug of the rest of a name. `started` says that something stands before it, and
`parted` that a separator was met since. -/
def slugFrom : Bool → Bool → List Char → List Char
  | _, _, [] => []
  | started, parted, c :: rest =>
    match slugPiece? c with
    | none => slugFrom started true rest
    | some piece => (if started && parted then ['-'] else []) ++ piece ++ slugFrom true false rest

def slug (name : String) : String := String.ofList (slugFrom false false name.toList)

end Webprint
