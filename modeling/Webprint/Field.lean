import Webprint.SortedMap

set_option autoImplicit false

/-!
# Fields

The parts of a page that rules look at, in the order in which they are looked at. A field holds one
text, a list of texts, or texts under keys.
-/

namespace Webprint

inductive Shape where
  | scalar
  | list
  | keyed
deriving DecidableEq, Repr

inductive Field where
  | url
  | html
  | css
  | robots
  | certIssuer
  | scripts
  | cookies
  | metaTags
  | headers
  | js
deriving DecidableEq, Repr

namespace Field

def all : List Field :=
  [.url, .html, .css, .robots, .certIssuer, .scripts, .cookies, .metaTags, .headers, .js]

def rank : Field → Nat
  | .url => 0
  | .html => 1
  | .css => 2
  | .robots => 3
  | .certIssuer => 4
  | .scripts => 5
  | .cookies => 6
  | .metaTags => 7
  | .headers => 8
  | .js => 9

def name : Field → String
  | .url => "url"
  | .html => "html"
  | .css => "css"
  | .robots => "robots"
  | .certIssuer => "cert_issuer"
  | .scripts => "scripts"
  | .cookies => "cookies"
  | .metaTags => "meta"
  | .headers => "headers"
  | .js => "js"

def ofName? (s : String) : Option Field := all.find? fun f => f.name = s

def shape : Field → Shape
  | .url | .html | .css | .robots | .certIssuer => .scalar
  | .scripts => .list
  | .cookies | .metaTags | .headers | .js => .keyed

/-- Keys are paths of global variables in one field, and names without regard to case elsewhere. -/
def caseSensitiveKeys (f : Field) : Bool := f = .js

instance : KeyOrder Field where
  lt a b := a.rank < b.rank
  decideLt a b := inferInstanceAs (Decidable (a.rank < b.rank))
  irrefl a := Nat.lt_irrefl a.rank
  trans _ _ _ := Nat.lt_trans
  trichotomy a b := by
    rcases Nat.lt_trichotomy a.rank b.rank with h | h | h
    · exact .inl h
    · exact .inr (.inl (by cases a <;> cases b <;> simp_all [rank]))
    · exact .inr (.inr h)

end Field

def Shape.name : Shape → String
  | .scalar => "scalar"
  | .list => "list"
  | .keyed => "keyed"

def Shape.ofName? (s : String) : Option Shape :=
  [Shape.scalar, .list, .keyed].find? fun h => h.name = s

end Webprint
