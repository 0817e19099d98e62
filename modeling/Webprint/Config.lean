import Webprint.Store

set_option autoImplicit false

/-!
# Configuration

Where rules come from, what is laid over them, and where the compiled catalogue is kept.
-/

namespace Webprint

inductive RuleSource where
  | file (path : String)
  | inline (text : String)
  | remote (address : String)
deriving DecidableEq, Repr

inductive Overlay where
  | file (path : String)
  | inline (text : String)
deriving DecidableEq, Repr

/-- The path of a file, or else the text of a document. -/
def Overlay.detect (s : Store) (value : String) : Overlay :=
  if s.isFile value then .file value else .inline value

inductive Retry where
  | never
  | times (n : UInt8)
deriving DecidableEq, Repr

def Retry.count : Retry → Nat
  | .never => 0
  | .times n => n.toNat

structure Environment where
  home : Option String := none
  userProfile : Option String := none
deriving DecidableEq, Repr

def joinPath (directory path : String) : String :=
  directory ++ (if directory.toList.getLast? = some '/' then "" else "/") ++ path

/-- Where the catalogue is kept unless told otherwise: in the user's home, if there is one. -/
def Environment.cachePath (e : Environment) : String :=
  match (e.home.orElse fun _ => e.userProfile).filter (· ≠ "") with
  | some home => joinPath home ".rstechscan/technologies.json"
  | none => ".cache/rstechscan/technologies.json"

def defaultAddress : String :=
  "https://raw.githubusercontent.com/AliasIO/wappalyzer/master/src/technologies.json"

structure Config where
  source : RuleSource := .remote defaultAddress
  overlay : Option Overlay := none
  cachePath : String
  refresh : Bool := false
  skipInvalid : Bool := false
  /-- In milliseconds. -/
  timeout : Nat := 30000
  retry : Retry := .times 2
deriving DecidableEq, Repr

namespace Config

def ofEnvironment (e : Environment) : Config := { cachePath := e.cachePath }

def ofSource (e : Environment) (source : RuleSource) : Config :=
  { ofEnvironment e with source }

end Config

end Webprint
