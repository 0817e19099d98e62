import Webprint.Catalogue
import Webprint.ScanError

set_option autoImplicit false

/-!
# The kept catalogue

A compiled catalogue is kept in a file as JSON, so that it need not be compiled for every scan.
-/

namespace Webprint.Cache

def load (s : Store) (path : String) : Except ScanError Catalogue := do
  let bytes ← (s.read path).mapError .io
  (Json.decodeBytes Json.Decode.catalogue bytes).mapError (.cache path)

def encode (c : Catalogue) : List UInt8 := Text.utf8Bytes c.toJson.compact

def save (s : Store) (path : String) (c : Catalogue) : Except ScanError Unit × Store :=
  match s.createParent path with
  | (.error fault, s) => (.error (.io fault), s)
  | (.ok _, s) =>
    match s.write path (encode c) with
    | .error fault => (.error (.io fault), s)
    | .ok s => (.ok (), s)

def clear (s : Store) (path : String) : Except ScanError Unit × Store :=
  match s.remove path with
  | .ok s => (.ok (), s)
  | .error .notFound => (.ok (), s)
  | .error fault => (.error (.io fault), s)

end Webprint.Cache
