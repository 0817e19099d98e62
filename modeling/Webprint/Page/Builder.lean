import Webprint.Catalogue
import Webprint.Page.Address
import Webprint.Page.Globals
import Webprint.Page.Header
import Webprint.Page.Markup

set_option autoImplicit false

/-!
# Snapshots from what a page sends

A snapshot begins with an address. Headers bring the cookies that they set, a document brings its
scripts and meta tags, and global variables are asked for as a catalogue declares them.
-/

namespace Webprint.Snapshot

def ofAddress (address : String) : Except UrlError Snapshot := (pageAddress address).map ofUrl

def withHeaders (s : Snapshot) (headers : List Header) : Snapshot :=
  let map := Page.headerMap headers
  { s with headers := map, cookies := Page.cookieMap map }

def withDocument (s : Snapshot) (document : String) : Snapshot :=
  let tags := Html.tags document
  { s with html := some document, scripts := Page.scripts tags, metaTags := Page.metaMap tags }

def declaredValue? (lookup : JsLookup) (key : String) : Option JsValue :=
  match Page.jsPath key with
  | [] => none
  | path => (lookup path).filter (· != .bool false)

/-- Adds the variables that a signature asks for, under its keys as it spells them. -/
def collectFor (lookup : JsLookup) (s : Snapshot) (sig : Signature) : Snapshot :=
  sig.jsKeys.foldl (fun s key =>
    match declaredValue? lookup key with
    | some v => s.withJs sig.name key v
    | none => s) s

def collectJs (s : Snapshot) (c : Catalogue) (lookup : JsLookup) : Snapshot :=
  c.signatures.foldl (collectFor lookup) s

end Webprint.Snapshot
