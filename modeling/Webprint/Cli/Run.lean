import Webprint.Cli.Arguments
import Webprint.Detector
import Webprint.Page.RawHeaders

set_option autoImplicit false

/-!
# Running commands

What a command prints and how it leaves the files, as a function of the arguments and the files.
-/

namespace Webprint.Cli

inductive PageFile where
  | snapshot
  | headers
  | document
  | globals
deriving DecidableEq, Repr

def PageFile.title : PageFile → String
  | .snapshot => "快照"
  | .headers => "响应头"
  | .document => "响应体"
  | .globals => "全局变量"

inductive RunError where
  | scan (error : ScanError)
  | json (fault : Json.Fault)
  | noPage
  | unreadable (file : PageFile) (path : String)
  | header (error : Page.RawHeaderError)
deriving DecidableEq, Repr

def RunError.message : RunError → String
  | .scan e => e.message
  | .json fault => fault.description
  | .noPage => "需要 --snapshot 或 --page-url"
  | .unreadable file path => "读取" ++ file.title ++ "文件 " ++ path ++ " 失败"
  | .header (.invalidName text) => "无效的响应头名称：" ++ text
  | .header (.invalidValue text) => "无效的响应头取值：" ++ text

structure Outcome where
  exitCode : UInt32
  output : String := ""
  errors : String := ""
deriving DecidableEq, Repr

def RuleArguments.config (a : RuleArguments) (e : Environment) (s : Store) (refresh : Bool) :
    Config :=
  { source := match a.rules, a.url with
      | some path, _ => .file path
      | none, some address => .remote address
      | none, none => .remote defaultAddress
    overlay := a.ours.map (.detect s)
    cachePath := a.cache.getD e.cachePath
    refresh
    skipInvalid := a.skipInvalid
    timeout := 1000 * a.timeout }

def readPageFile (s : Store) (file : PageFile) (path : String) : Except RunError (List UInt8) :=
  (s.read path).mapError fun _ => .unreadable file path

def readSnapshot (s : Store) (path : String) : Except RunError Snapshot := do
  let bytes ← readPageFile s .snapshot path
  (Json.decodeBytes Json.Decode.snapshot bytes).mapError .json

def addHeaders (s : Store) (path : String) (page : Snapshot) : Except RunError Snapshot := do
  let bytes ← readPageFile s .headers path
  match Text.utf8? bytes with
  | none => throw (.unreadable .headers path)
  | some text => return page.withHeaders (← (Page.rawHeaders (String.ofList text)).mapError .header)

def addDocument (s : Store) (path : String) (page : Snapshot) : Except RunError Snapshot := do
  let bytes ← readPageFile s .document path
  return page.withDocument (String.ofList (Text.mendUtf8 bytes))

def addGlobals (s : Store) (c : Catalogue) (path : String) (page : Snapshot) :
    Except RunError Snapshot := do
  let bytes ← readPageFile s .globals path
  let values ← (Json.decodeBytes (Json.Decode.sortedMap Json.Decode.jsValue) bytes).mapError .json
  return page.collectJs c (JsTable.mk values).evaluate

def withFile (path : Option String) (add : String → Snapshot → Except RunError Snapshot)
    (page : Snapshot) : Except RunError Snapshot :=
  match path with
  | none => .ok page
  | some path => add path page

def ScanArguments.page (a : ScanArguments) (s : Store) (c : Catalogue) :
    Except RunError Snapshot :=
  match a.snapshot, a.pageUrl with
  | some path, _ => readSnapshot s path
  | none, none => .error .noPage
  | none, some address => do
    let page ← (Snapshot.ofAddress address).mapError fun e => .scan (.url e)
    let page ← withFile a.headers (addHeaders s) page
    let page ← withFile a.html (addDocument s) page
    withFile a.globals (addGlobals s c) page

def printed (pretty : Bool) (ds : List Detection) : String :=
  let v := Analysis.reports ds
  (if pretty then v.pretty else v.compact) ++ "\n"

def usage : String :=
  "Usage: rstechscan update|scan [--rules FILE | --url URL] [--ours FILE|JSON] [--cache FILE]\n"
    ++ "  [--skip-invalid] [--timeout SECONDS]\n"
    ++ "scan only: [--refresh] [--pretty] [--snapshot FILE] [--page-url URL] [--html FILE]\n"
    ++ "  [--headers FILE] [--globals FILE]\n"

def finished (r : Except RunError String) : Outcome :=
  match r with
  | .ok output => { exitCode := 0, output }
  | .error e => { exitCode := 1, errors := "Error: " ++ e.message ++ "\n" }

def Command.run (e : Environment) (s : Store) : Command → Outcome × Store
  | .help => ({ exitCode := 0, output := usage }, s)
  | .version => ({ exitCode := 0, output := "rstechscan 0.1.0\n" }, s)
  | .update rules =>
    let (outcome, after) := ({} : Loader).load (rules.config e s true) s
    (finished ((outcome.mapError .scan).map fun _ => ""), after)
  | .scan rules a =>
    match Detector.load {} (rules.config e s a.refresh) s with
    | (.error err, after) => (finished (.error (.scan err)), after)
    | (.ok d, after) =>
      (finished ((a.page after d.catalogue).map fun page => printed a.pretty (d.analyze page)), after)

def run (e : Environment) (arguments : List String) (s : Store) : Outcome × Store :=
  match Command.ofArguments arguments with
  | .error err => ({ exitCode := 2, errors := "error: " ++ err.message ++ "\n" ++ usage }, s)
  | .ok command => command.run e s

def Command.paths (e : Environment) : Command → List String
  | .help => []
  | .version => []
  | .update rules => rulePaths rules
  | .scan rules a =>
    rulePaths rules ++ [a.snapshot, a.html, a.headers, a.globals].filterMap id
where
  rulePaths (rules : RuleArguments) : List String :=
    rules.cache.getD e.cachePath :: [rules.rules, rules.ours].filterMap id

end Webprint.Cli
