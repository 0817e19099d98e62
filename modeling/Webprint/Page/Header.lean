import Webprint.SortedMap
import Webprint.Text.Blank
import Webprint.Text.Search
import Webprint.Text.Utf8
import Webprint.Snapshot

set_option autoImplicit false

/-!
# Headers and cookies

The headers of a response as they arrive, names with values in bytes, and what a snapshot keeps of
them: for each name its values line by line, and the cookies that the response sets.
-/

namespace Webprint

def isNameChar (c : Char) : Bool :=
  ('a' ≤ c && c ≤ 'z') || c.isDigit || "!#$%&'*+-.^_\x60|~".toList.contains c

def maxHeaderName : Nat := 65535

def isHeaderName (s : List Char) : Bool :=
  !s.isEmpty && decide (s.length ≤ maxHeaderName) && s.all isNameChar

structure HeaderName where
  text : String
  valid : isHeaderName text.toList = true
deriving DecidableEq

def HeaderName.ofBytes? (bytes : List UInt8) : Option HeaderName :=
  let text := String.ofList (bytes.map fun b => (Char.ofNat b.toNat).toLower)
  if h : isHeaderName text.toList = true then some ⟨text, h⟩ else none

structure Header where
  name : HeaderName
  value : List UInt8
deriving DecidableEq

namespace Page

def valueLines (value : List UInt8) : List String :=
  (Text.splitWhere (· == '\n') (Text.mendUtf8 value)).map fun line =>
    String.ofList (Text.dropEndWhile (· == '\x0d') line)

def headerMap (headers : List Header) : MultiMap String :=
  headers.foldl (fun m h => (valueLines h.value).foldl (fun m v => m.push h.name.text v) m) .empty

/-- A cookie as a line sets it: what stands before the first equals sign names it. -/
def cookie? (line : String) : Option (String × String) :=
  match Text.partAt? ['='] line.toList with
  | none => none
  | some (name, value) =>
    let name := Text.trim name
    if name.isEmpty then none
    else some (Snapshot.lowerName (String.ofList name), String.ofList value)

def cookieHeader : String := "set-cookie"

def cookieMap (headers : MultiMap String) : MultiMap String :=
  (((headers.get? cookieHeader).getD []).filterMap cookie?).foldl (fun m c => m.push c.1 c.2) .empty

end Page

end Webprint
