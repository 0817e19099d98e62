import Webprint.Field
import Webprint.Json.Decode
import Webprint.Unicode.Case

set_option autoImplicit false

/-!
# Page snapshots

What is known of a page: its address and texts, its headers, cookies and meta tags under lower-case
names, the sources of its scripts, and for each technology the global variables that it asks for.
-/

namespace Webprint

open Json (Value)

inductive JsValue where
  | bool (value : Bool)
  | number (value : Json.Number)
  | string (value : String)
deriving DecidableEq, Repr

abbrev JsGlobals := MultiMap JsValue

structure Snapshot where
  url : Option String := none
  html : Option String := none
  css : Option String := none
  robots : Option String := none
  certIssuer : Option String := none
  headers : MultiMap String := .empty
  cookies : MultiMap String := .empty
  metaTags : MultiMap String := .empty
  scripts : List String := []
  /-- By name of the technology. -/
  js : SortedMap String JsGlobals := .empty
deriving DecidableEq

inductive Candidate where
  | text (s : String)
  /-- It is there, which is all that counts. -/
  | presence
  | absent
deriving DecidableEq, Repr

def JsValue.candidate : JsValue → Candidate
  | .bool true => .presence
  | .bool false => .absent
  | .number n => .text n.text
  | .string s => .text s

namespace Snapshot

def ofUrl (url : String) : Snapshot := { url := some url }

def scalar (s : Snapshot) : Field → Option String
  | .url => s.url
  | .html => s.html
  | .css => s.css
  | .robots => s.robots
  | .certIssuer => s.certIssuer
  | _ => none

def list (s : Snapshot) : Field → List String
  | .scripts => s.scripts
  | _ => []

/-- The texts of a field that holds them under keys; global variables are asked for separately. -/
def keyed (s : Snapshot) : Field → Option (MultiMap String)
  | .cookies => some s.cookies
  | .metaTags => some s.metaTags
  | .headers => some s.headers
  | _ => none

def jsFor (s : Snapshot) (technology : String) : Option JsGlobals := s.js.get? technology

def lowerName (name : String) : String := String.ofList (Unicode.lowercase name.toList)

def withHtml (s : Snapshot) (html : String) : Snapshot := { s with html := some html }

def withHeader (s : Snapshot) (name value : String) : Snapshot :=
  { s with headers := s.headers.push (lowerName name) value }

def withCookie (s : Snapshot) (name value : String) : Snapshot :=
  { s with cookies := s.cookies.push (lowerName name) value }

def withMetaTag (s : Snapshot) (name content : String) : Snapshot :=
  { s with metaTags := s.metaTags.push (lowerName name) content }

def withScript (s : Snapshot) (source : String) : Snapshot :=
  { s with scripts := s.scripts ++ [source] }

def withJs (s : Snapshot) (technology key : String) (value : JsValue) : Snapshot :=
  { s with js := s.js.insert technology (((s.jsFor technology).getD .empty).insert key [value]) }

end Snapshot

/-! ## JSON form -/

def JsValue.toJson : JsValue → Value
  | .bool b => .bool b
  | .number n => .number n
  | .string s => .string s

def MultiMap.toJson {α : Type} (item : α → Value) (m : MultiMap α) : Value :=
  .object (m.entries.map fun e => (e.1, .array (e.2.map item)))

def Snapshot.toJson (s : Snapshot) : Value :=
  .object
    [("url", .ofOption .string s.url), ("html", .ofOption .string s.html),
      ("css", .ofOption .string s.css), ("robots", .ofOption .string s.robots),
      ("cert_issuer", .ofOption .string s.certIssuer),
      ("headers", s.headers.toJson .string), ("cookies", s.cookies.toJson .string),
      ("meta", s.metaTags.toJson .string), ("scripts", .strings s.scripts),
      ("js", .object (s.js.entries.map fun e => (e.1, MultiMap.toJson JsValue.toJson e.2)))]

namespace Json.Decode

def multiMap {α : Type} (item : Decoder α) : Decoder (MultiMap α) := sortedMap (list item)

def jsValue : Decoder JsValue
  | _, .bool b => .ok (.bool b)
  | _, .number n => .ok (.number n)
  | _, .string s => .ok (.string s)
  | depth, r => (value depth r).bind fun _ => .error .mismatch

structure SnapshotDraft where
  url : Option (Option String) := none
  html : Option (Option String) := none
  css : Option (Option String) := none
  robots : Option (Option String) := none
  certIssuer : Option (Option String) := none
  headers : Option (MultiMap String) := none
  cookies : Option (MultiMap String) := none
  metaTags : Option (MultiMap String) := none
  scripts : Option (List String) := none
  js : Option (SortedMap String JsGlobals) := none

def snapshotStep (depth : Nat) (d : SnapshotDraft) (key : String) (r : Reading) :
    Except Fault SnapshotDraft :=
  match key with
  | "url" => (once d.url (nullable text) depth r).map fun v => { d with url := v }
  | "html" => (once d.html (nullable text) depth r).map fun v => { d with html := v }
  | "css" => (once d.css (nullable text) depth r).map fun v => { d with css := v }
  | "robots" => (once d.robots (nullable text) depth r).map fun v => { d with robots := v }
  | "cert_issuer" =>
    (once d.certIssuer (nullable text) depth r).map fun v => { d with certIssuer := v }
  | "headers" => (once d.headers (multiMap text) depth r).map fun v => { d with headers := v }
  | "cookies" => (once d.cookies (multiMap text) depth r).map fun v => { d with cookies := v }
  | "meta" => (once d.metaTags (multiMap text) depth r).map fun v => { d with metaTags := v }
  | "scripts" => (once d.scripts (list text) depth r).map fun v => { d with scripts := v }
  | "js" =>
    (once d.js (sortedMap (multiMap jsValue)) depth r).map fun v => { d with js := v }
  | _ => (skip r).map fun _ => d

def snapshot : Decoder Snapshot := fun depth r => do
  let d ← record ["url", "html", "css", "robots", "cert_issuer", "headers", "cookies", "meta",
    "scripts", "js"] snapshotStep {} depth r
  return {
    url := d.url.getD none
    html := d.html.getD none
    css := d.css.getD none
    robots := d.robots.getD none
    certIssuer := d.certIssuer.getD none
    headers := d.headers.getD .empty
    cookies := d.cookies.getD .empty
    metaTags := d.metaTags.getD .empty
    scripts := d.scripts.getD []
    js := d.js.getD .empty }

end Json.Decode

end Webprint
