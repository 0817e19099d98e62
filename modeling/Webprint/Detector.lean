import Webprint.Analysis
import Webprint.Loader
import Webprint.Page.Builder

set_option autoImplicit false

/-!
# Detectors

A catalogue that responses are held against: their address, headers and body, and maybe the global
variables of the page.
-/

namespace Webprint

structure Detector where
  catalogue : Catalogue

structure Response where
  address : String
  headers : List Header
  body : List UInt8

def Response.snapshot (r : Response) : Except UrlError Snapshot :=
  (Snapshot.ofAddress r.address).map fun s =>
    (s.withHeaders r.headers).withDocument (String.ofList (Text.mendUtf8 r.body))

namespace Detector

def load (l : Loader) (c : Config) (s : Store) : Except ScanError Detector × Store :=
  let (outcome, s) := l.load c s
  (outcome.map Detector.mk, s)

def analyze (d : Detector) (s : Snapshot) : List Detection := Analysis.analyze d.catalogue s

def detect (d : Detector) (r : Response) : Except UrlError (List Detection) :=
  r.snapshot.map d.analyze

def detectWithGlobals (d : Detector) (r : Response) (lookup : JsLookup) :
    Except UrlError (List Detection) :=
  r.snapshot.map fun s => d.analyze (s.collectJs d.catalogue lookup)

end Detector

end Webprint
