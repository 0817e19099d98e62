import Webprint.Config
import Webprint.Json.Decode
import Webprint.Rule.Compile
import Webprint.Url.Host

set_option autoImplicit false

/-!
# Errors of a scan

All that can go wrong between the rules and the reports, with its text.
-/

namespace Webprint

def Regex.Fault.headline : Regex.Fault → String
  | .tooLarge => "Compiled regex exceeds size limit of 10485760 bytes."
  | _ => "regex parse error:"

def CompileError.headline (e : CompileError) : String :=
  match e with
  | .invalidPattern _ _ _ cause => e.message ++ cause.headline
  | .unexpectedShape .. => e.message

def Json.Fault.description : Json.Fault → String
  | .malformed => "malformed text"
  | .mismatch => "unexpected value"

inductive RuleError where
  | unreadable (fault : Json.Fault)
  | compile (error : CompileError)
deriving DecidableEq, Repr

def RuleError.headline : RuleError → String
  | .unreadable fault => fault.description
  | .compile e => e.headline

inductive ScanError where
  | rules (path : String) (fault : IoFault)
  | compile (cause : RuleError)
  | cache (path : String) (fault : Json.Fault)
  | json (fault : Json.Fault)
  | io (fault : IoFault)
  | url (error : UrlError)
  /-- Rules are to be fetched, which this program does not do. -/
  | remote (address : String)
deriving DecidableEq, Repr

def ScanError.message : ScanError → String
  | .rules path fault => "规则加载失败：读取规则文件 " ++ path ++ " 失败：" ++ fault.message
  | .compile cause => "规则编译失败：" ++ cause.headline
  | .cache path _ => "规则缓存失败：缓存文件 " ++ path ++ " 解析失败："
  | .json fault => "JSON解析失败：" ++ fault.description
  | .io fault => "IO操作失败：" ++ fault.message
  | .url e => "URL解析失败：" ++ e.message
  | .remote address => "功能未启用：remote-loader 特性未启用，无法拉取 " ++ address

end Webprint
