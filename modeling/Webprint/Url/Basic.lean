import Webprint.Url.Host

set_option autoImplicit false

/-!
# Addresses

The parts of an absolute address and the text they make. The path is a list of segments, or, when the
scheme is not followed by a slash, a text with no further structure.
-/

namespace Webprint

namespace Url

inductive SchemeKind where
  | special
  | file
  | other
deriving DecidableEq, Repr

def schemeKind (scheme : List Char) : SchemeKind :=
  match String.ofList scheme with
  | "http" | "https" | "ws" | "wss" | "ftp" => .special
  | "file" => .file
  | _ => .other

def defaultPort? (scheme : List Char) : Option Nat :=
  match String.ofList scheme with
  | "http" | "ws" => some 80
  | "https" | "wss" => some 443
  | "ftp" => some 21
  | _ => none

structure Authority where
  username : List Char := []
  password : List Char := []
  /-- The empty name if there is no host. -/
  host : Host
  port : Option Nat := none
deriving DecidableEq, Repr

inductive Path where
  | opaque_ (text : List Char)
  | segments (parts : List (List Char))
deriving DecidableEq, Repr

end Url

structure Url where
  scheme : List Char
  authority : Option Url.Authority
  path : Url.Path
  query : Option (List Char)
  fragment : Option (List Char)
deriving DecidableEq, Repr

namespace Url

namespace Authority

def hasCredentials (a : Authority) : Bool := !(a.username.isEmpty && a.password.isEmpty)

def text (a : Authority) : List Char :=
  a.username ++ (if a.password.isEmpty then [] else ':' :: a.password)
    ++ (if a.hasCredentials then ['@'] else [])
    ++ a.host.text
    ++ (match a.port with
      | none => []
      | some n => ':' :: Nat.toDigits 10 n)

end Authority

namespace Path

def text : Path → List Char
  | .opaque_ s => s
  | .segments parts => parts.flatMap ('/' :: ·)

end Path

/-- The text of an address. Two slashes at the start of a path must not look like an authority, so
`/.` is written before them when there is none. -/
def text (u : Url) : List Char :=
  let path := u.path.text
  let start := match u.authority with
    | some a => "//".toList ++ a.text
    | none => if (Text.after? "//".toList path).isSome then "/.".toList else []
  u.scheme ++ ':' :: start ++ path
    ++ (match u.query with
      | none => []
      | some q => '?' :: q)
    ++ (match u.fragment with
      | none => []
      | some f => '#' :: f)

end Url

end Webprint
