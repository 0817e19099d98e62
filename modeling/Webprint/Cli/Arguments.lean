import Webprint.Config

set_option autoImplicit false

/-!
# Arguments

The command line as a command: `update` builds the catalogue and keeps it, `scan` reports on a page.
Options are written out in full, in any order, each at most once.
-/

namespace Webprint.Cli

inductive UsageError where
  | noCommand
  | unknownCommand (name : String)
  | unexpected (argument : String)
  | missingValue (option : String)
  | needlessValue (option : String)
  | repeated (option : String)
  | invalidValue (option value : String)
  | conflict (option other : String)
deriving DecidableEq, Repr

def UsageError.message : UsageError → String
  | .noCommand => "a command is required: update or scan"
  | .unknownCommand name => "unknown command: " ++ name
  | .unexpected argument => "unexpected argument: " ++ argument
  | .missingValue option => "a value is required: --" ++ option
  | .needlessValue option => "no value is taken: --" ++ option
  | .repeated option => "given more than once: --" ++ option
  | .invalidValue option value => "invalid value: --" ++ option ++ " " ++ value
  | .conflict option other => "not together: --" ++ option ++ " and --" ++ other

inductive OptionKind where
  | flag
  | text
  | path
  | number
deriving DecidableEq, Repr

abbrev Options := List (String × OptionKind)

def ruleOptions : Options :=
  [("rules", .path), ("url", .text), ("ours", .text), ("cache", .path), ("skip-invalid", .flag),
    ("timeout", .number)]

def scanOptions : Options :=
  ruleOptions ++ [("refresh", .flag), ("snapshot", .path), ("page-url", .text), ("html", .path),
    ("headers", .path), ("globals", .path), ("pretty", .flag)]

abbrev Given := List (String × String)

def parseSeconds? (s : String) : Option Nat :=
  let digits := match s.toList with
    | '+' :: rest => rest
    | all => all
  if digits.isEmpty || !digits.all Char.isDigit then none
  else
    let n := digits.foldl (fun n c => 10 * n + (c.toNat - '0'.toNat)) 0
    if n < Nat.pow 2 64 then some n else none

def OptionKind.accepts (k : OptionKind) (value : String) : Bool :=
  match k with
  | .flag => true
  | .text => true
  | .path => value ≠ ""
  | .number => (parseSeconds? value).isSome

def looksLikeOption (argument : String) : Bool :=
  argument.toList.head? = some '-' && argument ≠ "-"

def splitOption (body : List Char) : String × Option String :=
  match Text.partAt? ['='] body with
  | none => (String.ofList body, none)
  | some (name, value) => (String.ofList name, some (String.ofList value))

def Given.add (g : Given) (name : String) (kind : OptionKind) (value : String) :
    Except UsageError Given :=
  if (g.lookup name).isSome then .error (.repeated name)
  else if !kind.accepts value then .error (.invalidValue name value)
  else .ok (g ++ [(name, value)])

inductive Parsed where
  | options (given : Given)
  | help
deriving DecidableEq, Repr

def asksForHelp (argument : String) : Bool :=
  argument = "--help" || (Text.after? "-h".toList argument.toList).isSome

def readOptions (options : Options) : Given → List String → Except UsageError Parsed
  | g, [] => .ok (.options g)
  | g, argument :: rest =>
    if asksForHelp argument then .ok .help
    else
      match Text.after? "--".toList argument.toList with
      | none => .error (.unexpected argument)
      | some [] =>
        match rest with
        | [] => .ok (.options g)
        | next :: _ => .error (.unexpected next)
      | some body =>
        let (name, joined) := splitOption body
        match options.lookup name, joined with
        | none, _ => .error (.unexpected argument)
        | some .flag, some _ => .error (.needlessValue name)
        | some .flag, none => (g.add name .flag "").bind fun g => readOptions options g rest
        | some kind, some value =>
          (g.add name kind value).bind fun g => readOptions options g rest
        | some kind, none =>
          match rest with
          | [] => .error (.missingValue name)
          | value :: rest =>
            if looksLikeOption value then .error (.missingValue name)
            else (g.add name kind value).bind fun g => readOptions options g rest

def Given.exclude (g : Given) (option other : String) : Except UsageError Unit :=
  if (g.lookup option).isSome && (g.lookup other).isSome then .error (.conflict option other)
  else .ok ()

structure RuleArguments where
  rules : Option String
  url : Option String
  ours : Option String
  cache : Option String
  skipInvalid : Bool
  /-- In seconds. -/
  timeout : Nat
deriving DecidableEq, Repr

structure ScanArguments where
  refresh : Bool
  snapshot : Option String
  pageUrl : Option String
  html : Option String
  headers : Option String
  globals : Option String
  pretty : Bool
deriving DecidableEq, Repr

inductive Command where
  | update (rules : RuleArguments)
  | scan (rules : RuleArguments) (page : ScanArguments)
  | help
  | version
deriving DecidableEq, Repr

def ruleArguments (g : Given) : Except UsageError RuleArguments := do
  g.exclude "rules" "url"
  return {
    rules := g.lookup "rules"
    url := g.lookup "url"
    ours := g.lookup "ours"
    cache := g.lookup "cache"
    skipInvalid := (g.lookup "skip-invalid").isSome
    timeout := ((g.lookup "timeout").bind parseSeconds?).getD 30 }

def scanArguments (g : Given) : Except UsageError ScanArguments := do
  g.exclude "snapshot" "page-url"
  g.exclude "snapshot" "html"
  g.exclude "snapshot" "headers"
  return {
    refresh := (g.lookup "refresh").isSome
    snapshot := g.lookup "snapshot"
    pageUrl := g.lookup "page-url"
    html := g.lookup "html"
    headers := g.lookup "headers"
    globals := g.lookup "globals"
    pretty := (g.lookup "pretty").isSome }

def asksForVersion (argument : String) : Bool :=
  argument = "--version" || (Text.after? "-V".toList argument.toList).isSome

def commandWith (options : Options) (build : Given → Except UsageError Command)
    (arguments : List String) : Except UsageError Command := do
  match ← readOptions options [] arguments with
  | .help => return .help
  | .options g => build g

def helpTopics : List String := ["update", "scan", "help"]

def Command.ofArguments (arguments : List String) : Except UsageError Command :=
  match arguments with
  | [] => .error .noCommand
  | "update" :: rest =>
    commandWith ruleOptions (fun g => do return .update (← ruleArguments g)) rest
  | "scan" :: rest =>
    commandWith scanOptions (fun g => do return .scan (← ruleArguments g) (← scanArguments g)) rest
  | ["help"] => .ok .help
  | "help" :: topic :: _ =>
    if helpTopics.contains topic then .ok .help else .error (.unknownCommand topic)
  | first :: _ =>
    if asksForHelp first then .ok .help
    else if asksForVersion first then .ok .version
    else if looksLikeOption first then .error (.unexpected first)
    else .error (.unknownCommand first)

end Webprint.Cli
