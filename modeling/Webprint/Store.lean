import Webprint.SortedMap
import Webprint.Text.Search

set_option autoImplicit false

/-!
# Files and directories

The files that the program reads and writes, as a value: directories and the contents of files by the
names that lead to them from the working directory, or from the root of all files. A path is walked
name by name, and the walk fails where a name is missing or belongs to no directory.
-/

namespace Webprint

instance : KeyOrder (List String) where
  decideLt := inferInstance
  irrefl := List.lt_irrefl
  trans _ _ _ := List.lt_trans
  trichotomy := go
where
  go : ∀ a b : List String, a < b ∨ a = b ∨ b < a
    | [], [] => .inr (.inl rfl)
    | [], _ :: _ => .inl (List.nil_lt_cons ..)
    | _ :: _, [] => .inr (.inr (List.nil_lt_cons ..))
    | a :: as, b :: bs => by
      rcases KeyOrder.trichotomy a b with h | rfl | h
      · exact .inl (List.cons_lt_cons_iff.2 (.inl h))
      · rcases go as bs with h | rfl | h
        · exact .inl (List.cons_lt_cons_iff.2 (.inr ⟨rfl, h⟩))
        · exact .inr (.inl rfl)
        · exact .inr (.inr (List.cons_lt_cons_iff.2 (.inr ⟨rfl, h⟩)))
      · exact .inr (.inr (List.cons_lt_cons_iff.2 (.inl h)))

inductive IoFault where
  | notFound
  | alreadyExists
  | notDirectory
  | isDirectory
  | nameTooLong
  | nulInName
deriving DecidableEq, Repr

def IoFault.message : IoFault → String
  | .notFound => "No such file or directory (os error 2)"
  | .alreadyExists => "File exists (os error 17)"
  | .notDirectory => "Not a directory (os error 20)"
  | .isDirectory => "Is a directory (os error 21)"
  | .nameTooLong => "File name too long (os error 36)"
  | .nulInName => "file name contained an unexpected NUL byte"

/-- A place, as the names that lead to it. From the root they begin with a slash as a name. -/
abbrev Location := List String

def root : Location := ["/"]

/-- The directory that a place is in. Nothing is known of what the working directory is in. -/
def Location.parent (loc : Location) : Location := if loc = root then root else loc.dropLast

inductive Entry where
  | file (content : List UInt8)
  | directory
deriving DecidableEq, Repr

structure Store where
  entries : SortedMap Location Entry := .empty
deriving DecidableEq

namespace Store

def empty : Store := {}

def entry? (s : Store) (loc : Location) : Option Entry :=
  if loc = [] || loc = root then some .directory else s.entries.get? loc

def maxName : Nat := 255

def maxPath : Nat := 4095

def start (path : String) : Location := if path.toList.head? = some '/' then root else []

def names (path : String) : List String :=
  ((Text.splitWhere (· == '/') path.toList).filter (!·.isEmpty)).map String.ofList

/-- The names to walk: a slash at the end asks for a directory. -/
def steps (path : String) : Except IoFault (List String) :=
  if path.toList.contains '\x00' then .error .nulInName
  else if path.isEmpty then .error .notFound
  else if maxPath < path.utf8ByteSize then .error .nameTooLong
  else .ok (names path ++ if path.toList.getLast? = some '/' then ["."] else [])

def walk (s : Store) : Location → List String → Except IoFault Location
  | loc, [] => .ok loc
  | loc, name :: rest =>
    match s.entry? loc with
    | none => .error .notFound
    | some (.file _) => .error .notDirectory
    | some .directory =>
      if name = "." then walk s loc rest
      else if name = ".." then walk s loc.parent rest
      else if maxName < name.utf8ByteSize then .error .nameTooLong
      else walk s (loc ++ [name]) rest

def locate (s : Store) (path : String) : Except IoFault Location := (steps path).bind (s.walk (start path))

def find (s : Store) (path : String) : Except IoFault Entry := do
  match s.entry? (← s.locate path) with
  | some e => .ok e
  | none => .error .notFound

def isFile (s : Store) (path : String) : Bool :=
  match s.find path with
  | .ok (.file _) => true
  | _ => false

def read (s : Store) (path : String) : Except IoFault (List UInt8) := do
  match ← s.find path with
  | .file content => .ok content
  | .directory => .error .isDirectory

def put (s : Store) (loc : Location) (e : Entry) : Store := ⟨s.entries.insert loc e⟩

def write (s : Store) (path : String) (content : List UInt8) : Except IoFault Store := do
  let names ← steps path
  if names.getLast?.all fun name => name = "." || name = ".." then
    let _ ← s.walk (start path) names.dropLast
    throw .isDirectory
  let loc ← s.walk (start path) names
  match s.entry? loc with
  | some .directory => throw .isDirectory
  | _ => return s.put loc (.file content)

/-- Creates the directories along a walk that are not there; those before a fault stay. -/
def createAlong (s : Store) : Location → List String → Except IoFault Unit × Store
  | _, [] => (.ok (), s)
  | loc, name :: rest =>
    if name = "." then createAlong s loc rest
    else if name = ".." then createAlong s loc.parent rest
    else if maxName < name.utf8ByteSize then (.error .nameTooLong, s)
    else
      match s.entry? (loc ++ [name]) with
      | some .directory => createAlong s (loc ++ [name]) rest
      | some (.file _) => (.error (if rest.isEmpty then .alreadyExists else .notDirectory), s)
      | none => createAlong (s.put (loc ++ [name]) .directory) (loc ++ [name]) rest

def createDirectory (s : Store) (path : String) : Except IoFault Unit × Store :=
  match steps path with
  | .error fault => (.error fault, s)
  | .ok names => s.createAlong (start path) names

def createParent (s : Store) (path : String) : Except IoFault Unit × Store :=
  let parent := ((names path).filter (· ≠ ".")).dropLast
  match (s.walk (start path) parent).toOption.bind s.entry? with
  | some _ => (.ok (), s)
  | none => s.createAlong (start path) parent

def remove (s : Store) (path : String) : Except IoFault Store := do
  let loc ← s.locate path
  match s.entry? loc with
  | none => throw .notFound
  | some .directory => throw .isDirectory
  | some (.file _) => return ⟨s.entries.erase loc⟩

/-- What the working directory holds, each directory before what it holds and marked by a slash. -/
def listing (s : Store) : List String :=
  (s.entries.entries.filter fun (loc, _) => loc.head? ≠ some "/").map fun (loc, e) =>
    "/".intercalate loc ++ match e with
      | .directory => "/"
      | .file _ => ""

def changes (s earlier : Store) : List (Location × List UInt8) :=
  s.entries.entries.filterMap fun (loc, e) =>
    match e with
    | .directory => none
    | .file content => if earlier.entry? loc = some e then none else some (loc, content)

end Store

end Webprint
