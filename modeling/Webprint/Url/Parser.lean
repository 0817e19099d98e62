import Webprint.Url.Basic
import Webprint.Text.Blank

set_option autoImplicit false

/-!
# Reading addresses

An absolute address is read the way browsers do: blanks around it and line ends within it do not
count, schemes that browsers know may be followed by any number of slashes and take backslashes for
slashes, dots in the path are resolved, and what may not stand in a part is percent-encoded.
-/

namespace Webprint.Url

def isQueryStart (c : Char) : Bool := c == '?' || c == '#'

def isSlash (kind : SchemeKind) (c : Char) : Bool := c == '/' || c == '\\' && kind != .other

def endsAuthority (kind : SchemeKind) (c : Char) : Bool := isSlash kind c || isQueryStart c

/-! ## Scheme -/

def isSchemeChar (c : Char) : Bool := c.isAlphanum || c == '+' || c == '-' || c == '.'

def isAsciiLetter (c : Char) : Bool := 'a' ≤ c.toLower && c.toLower ≤ 'z'

def scheme? (s : List Char) : Option (List Char × List Char) :=
  match s.span isSchemeChar with
  | (name, ':' :: rest) =>
    if name.head?.any isAsciiLetter then some (name.map Char.toLower, rest) else none
  | _ => none

/-! ## Authority -/

def partAtLastAt (s : List Char) : Option (List Char × List Char) :=
  match s.reverse.span (· != '@') with
  | (_, []) => none
  | (after, _ :: before) => some (before.reverse, after.reverse)

def credentials (s : List Char) : List Char × List Char :=
  let (username, rest) := s.span (· != ':')
  (percentEncode .credentials username, percentEncode .credentials (rest.drop 1))

def hostText : Bool → List Char → List Char
  | _, [] => []
  | bracketed, c :: s =>
    if c == ':' && !bracketed then []
    else c :: hostText (c == '[' || bracketed && c != ']') s

/-- Reads `:` and a number; the port that the scheme has anyway is not kept. -/
def readPort (scheme s : List Char) : Except UrlError (Option Nat × List Char) :=
  match s with
  | ':' :: s =>
    let (digits, rest) := s.span Char.isDigit
    let n := digitsValue 10 digits
    if (65536 ≤ n || rest.head?.any fun c => !(c == '/' || c == '\\' || isQueryStart c)) then
      .error .invalidPort
    else .ok (if digits.isEmpty || defaultPort? scheme == some n then none else some n, rest)
  | s => .ok (none, s)

def readAuthority (kind : SchemeKind) (scheme s : List Char) :
    Except UrlError (Authority × List Char) := do
  let (within, rest) := s.span (!endsAuthority kind ·)
  let ((username, password), s) ← match partAtLastAt within with
    | none => pure (([], []), s)
    | some ([], []) => if rest.isEmpty then pure (([], []), rest) else throw .emptyHost
    | some (before, after) => pure (credentials before, after ++ rest)
  let name := hostText false (s.takeWhile (!endsAuthority kind ·))
  let host ← if kind == .other then Host.parseOpaque name
    else if name.isEmpty then throw .emptyHost
    else Host.parse name
  let rest := s.drop name.length
  if host == .name [] && rest.head? == some ':' then throw .emptyHost
  let (port, rest) ← readPort scheme rest
  let authority : Authority := ⟨username, password, host, port⟩
  if host == .name [] && authority.hasCredentials then throw .emptyHost
  return (authority, rest)

/-! ## Path -/

def isSingleDot (s : List Char) : Bool :=
  [".", "%2e"].contains (String.ofList (s.map Char.toLower))

def isDoubleDot (s : List Char) : Bool :=
  ["..", ".%2e", "%2e.", "%2e%2e"].contains (String.ofList (s.map Char.toLower))

def isDrive : List Char → Bool
  | [c, d] => isAsciiLetter c && (d == ':' || d == '|')
  | _ => false

/-- The segments, in reverse order, without the last one; a drive is never left. -/
def climb : List (List Char) → List (List Char)
  | [] => []
  | last :: before => if isDrive last then last :: before else before

/-- The form of a segment in a path to a file: a drive at its start is written with a colon. -/
def fileSegment (done : List (List Char)) (s : List Char) : List Char :=
  if isDrive s && done.all List.isEmpty then s.take 1 ++ [':'] else s

/-- Resolves the dots among encoded segments; `done` is reversed. A path that ends in dots ends in a
slash. -/
def resolveDots (kind : SchemeKind) : List (List Char) → List (List Char) → List (List Char)
  | done, [] => done.reverse
  | done, s :: rest =>
    if isDoubleDot s then
      if rest.isEmpty then ([] :: climb done).reverse else resolveDots kind (climb done) rest
    else if isSingleDot s then
      if rest.isEmpty then ([] :: done).reverse else resolveDots kind done rest
    else resolveDots kind ((if kind == .file then fileSegment done s else s) :: done) rest

def readSegments (kind : SchemeKind) (s : List Char) : List (List Char) :=
  let s := match s with
    | c :: rest => if isSlash kind c then rest else c :: rest
    | [] => []
  let parts := resolveDots kind [] ((Text.splitWhere (isSlash kind) s).map (percentEncode .path))
  if kind == .file then
    match parts.dropWhile List.isEmpty with
    | [] => [[]]
    | parts => parts
  else parts

/-- The path after an authority; without one there is a path only if there is text for it. -/
def readPath (kind : SchemeKind) (s : List Char) : Path × List Char :=
  let (text, rest) := s.span (!isQueryStart ·)
  (.segments (if kind == .other && text.isEmpty then [] else readSegments kind text), rest)

/-! ## Whole addresses -/

def readTail (kind : SchemeKind) (s : List Char) : Option (List Char) × Option (List Char) :=
  let (query, rest) := s.span (· != '#')
  let encodeSet := if kind == .other then EncodeSet.query else EncodeSet.specialQuery
  (if query.isEmpty then none else some (percentEncode encodeSet (query.drop 1)),
    if rest.isEmpty then none else some (percentEncode .fragment (rest.drop 1)))

def assemble (kind : SchemeKind) (scheme : List Char) (authority : Option Authority) (path : Path)
    (s : List Char) : Url :=
  let (query, fragment) := readTail kind s
  ⟨scheme, authority, path, query, fragment⟩

/-- The address of a file: a host follows two slashes unless a drive does; this machine and the host
before a drive are not named. -/
def readFile (scheme s : List Char) : Except UrlError Url := do
  let (name, rest) := match s with
    | a :: b :: after =>
      if isSlash .file a && isSlash .file b then
        let (name, rest) := after.span (!endsAuthority .file ·)
        if isDrive name then ([], after) else (name, rest)
      else ([], s)
    | s => ([], s)
  let host ← if name.isEmpty then pure (Host.name []) else Host.parse name
  let (path, rest) := readPath .file rest
  let drive := match path with
    | .segments (first :: _) => isDrive first
    | _ => false
  let host := if host == .name "localhost".toList || drive then .name [] else host
  return assemble .file scheme (some { host }) path rest

def readOther (scheme s : List Char) : Except UrlError Url :=
  match s with
  | '/' :: '/' :: s => do
    let (authority, s) ← readAuthority .other scheme s
    let (path, s) := readPath .other s
    return assemble .other scheme (some authority) path s
  | '/' :: s =>
    let (path, s) := readPath .other ('/' :: s)
    .ok (assemble .other scheme none path s)
  | s =>
    let (text, rest) := s.span (!isQueryStart ·)
    .ok (assemble .other scheme none (.opaque_ (percentEncode .controls text)) rest)

/-- What counts of a text: blanks and controls around it do not, and no line ends or tabs. -/
def significant (s : List Char) : List Char :=
  ((Text.dropEndWhile (·.toNat ≤ 0x20) (s.dropWhile (·.toNat ≤ 0x20))).filter
    fun c => !(c == '\t' || c == '\n' || c == '\x0d'))

def parse (s : List Char) : Except UrlError Url :=
  match scheme? (significant s) with
  | none => .error .noScheme
  | some (scheme, s) =>
    match schemeKind scheme with
    | .file => readFile scheme s
    | .other => readOther scheme s
    | .special => do
      let (authority, s) ← readAuthority .special scheme (s.dropWhile (isSlash .special))
      let (path, s) := readPath .special s
      return assemble .special scheme (some authority) path s

end Webprint.Url
