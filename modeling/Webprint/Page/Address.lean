import Webprint.Text.Blank
import Webprint.Url.Parser

set_option autoImplicit false

/-!
# Addresses of pages

A page may be named by an address without its scheme, which is then `http`.
-/

namespace Webprint

/-- The mark of an address with a scheme, wherever it stands. -/
def hasSchemeMark (s : List Char) : Bool := (Text.partAt? "://".toList s).isSome

def withScheme (address : List Char) : List Char :=
  let s := Text.trim address
  if hasSchemeMark s then s else "http://".toList ++ s

def pageAddress (address : String) : Except UrlError String :=
  (Url.parse (withScheme address.toList)).map fun u => String.ofList u.text

end Webprint
