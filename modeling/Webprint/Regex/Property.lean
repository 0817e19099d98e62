import Webprint.Regex.CharSet
import Webprint.Unicode.Script

set_option autoImplicit false

/-!
# Properties by name

The sets that `\p` can name: general categories and groups of them, scripts, and binary properties.
Names match loosely: case, blanks, hyphens, underscores and a leading "is" do not count.
-/

namespace Webprint.Regex

def looseName (name : List Char) : String :=
  let lower := name.map Char.toLower
  let (stripped, rest) := match lower with
    | 'i' :: 's' :: rest => (true, rest)
    | rest => (false, rest)
  let kept := rest.filter fun c => c.toNat < 0x80 && c != ' ' && c != '_' && c != '-'
  if stripped && kept == ['c'] then "isc" else String.ofList kept

def categoryNames : List (String × List String) :=
  [("cc", ["Cc"]), ("control", ["Cc"]), ("cntrl", ["Cc"]), ("cf", ["Cf"]), ("format", ["Cf"]),
    ("co", ["Co"]), ("privateuse", ["Co"]), ("l", CharSet.letterCategories),
    ("letter", CharSet.letterCategories), ("lc", ["Lu", "Ll", "Lt"]),
    ("casedletter", ["Lu", "Ll", "Lt"]), ("ll", ["Ll"]), ("lowercaseletter", ["Ll"]),
    ("lm", ["Lm"]), ("modifierletter", ["Lm"]), ("lo", ["Lo"]), ("otherletter", ["Lo"]),
    ("lt", ["Lt"]), ("titlecaseletter", ["Lt"]), ("lu", ["Lu"]), ("uppercaseletter", ["Lu"]),
    ("m", ["Mn", "Mc", "Me"]), ("mark", ["Mn", "Mc", "Me"]), ("combiningmark", ["Mn", "Mc", "Me"]),
    ("mc", ["Mc"]), ("spacingmark", ["Mc"]), ("me", ["Me"]), ("enclosingmark", ["Me"]),
    ("mn", ["Mn"]), ("nonspacingmark", ["Mn"]), ("n", ["Nd", "Nl", "No"]),
    ("number", ["Nd", "Nl", "No"]), ("nd", ["Nd"]), ("decimalnumber", ["Nd"]), ("digit", ["Nd"]),
    ("nl", ["Nl"]), ("letternumber", ["Nl"]), ("no", ["No"]), ("othernumber", ["No"]),
    ("p", ["Pc", "Pd", "Pe", "Pf", "Pi", "Po", "Ps"]),
    ("punctuation", ["Pc", "Pd", "Pe", "Pf", "Pi", "Po", "Ps"]),
    ("punct", ["Pc", "Pd", "Pe", "Pf", "Pi", "Po", "Ps"]), ("pc", ["Pc"]),
    ("connectorpunctuation", ["Pc"]), ("pd", ["Pd"]), ("dashpunctuation", ["Pd"]), ("pe", ["Pe"]),
    ("closepunctuation", ["Pe"]), ("pf", ["Pf"]), ("finalpunctuation", ["Pf"]), ("pi", ["Pi"]),
    ("initialpunctuation", ["Pi"]), ("po", ["Po"]), ("otherpunctuation", ["Po"]), ("ps", ["Ps"]),
    ("openpunctuation", ["Ps"]), ("s", ["Sc", "Sk", "Sm", "So"]),
    ("symbol", ["Sc", "Sk", "Sm", "So"]), ("sc", ["Sc"]), ("currencysymbol", ["Sc"]),
    ("sk", ["Sk"]), ("modifiersymbol", ["Sk"]), ("sm", ["Sm"]), ("mathsymbol", ["Sm"]),
    ("so", ["So"]), ("othersymbol", ["So"]), ("z", ["Zl", "Zp", "Zs"]),
    ("separator", ["Zl", "Zp", "Zs"]), ("zl", ["Zl"]), ("lineseparator", ["Zl"]), ("zp", ["Zp"]),
    ("paragraphseparator", ["Zp"]), ("zs", ["Zs"]), ("spaceseparator", ["Zs"])]

def unassigned : CharSet := .compl (CharSet.ofCategories Unicode.categoryCodes)

def category? (name : String) : Option CharSet :=
  match name with
  | "any" => some CharSet.any
  | "assigned" => some (.compl unassigned)
  | "ascii" => some (.range 0 0x7f)
  | "cn" | "unassigned" => some unassigned
  | "c" | "other" => some (.union (CharSet.ofCategories ["Cc", "Cf", "Co"]) unassigned)
  | name => (categoryNames.lookup name).map CharSet.ofCategories

def lowercase : CharSet := .union (CharSet.ofCategories ["Ll"]) (CharSet.binary "otherlowercase")

def uppercase : CharSet := .union (CharSet.ofCategories ["Lu"]) (CharSet.binary "otheruppercase")

def graphemeExtend : CharSet :=
  .union (CharSet.ofCategories ["Me", "Mn"]) (CharSet.binary "othergraphemeextend")

def idStart : CharSet :=
  .union (.diff (CharSet.ofCategories (CharSet.letterCategories ++ ["Nl"]))
    (.union (CharSet.binary "patsyn") (CharSet.binary "patws"))) (CharSet.binary "otheridstart")

def idContinue : CharSet :=
  .union idStart
    (.union (CharSet.ofCategories ["Mn", "Mc", "Nd", "Pc"]) (CharSet.binary "otheridcontinue"))

def derived? (name : String) : Option CharSet :=
  match name with
  | "alpha" | "alphabetic" => some CharSet.alphabetic
  | "lower" | "lowercase" => some lowercase
  | "upper" | "uppercase" => some uppercase
  | "cased" => some (CharSet.unions [lowercase, uppercase, CharSet.ofCategories ["Lt"]])
  | "ci" | "caseignorable" =>
    some (.union (CharSet.ofCategories ["Mn", "Me", "Cf", "Lm", "Sk"])
      (CharSet.binary "-caseignorablepunctuation"))
  | "math" => some (.union (CharSet.ofCategories ["Sm"]) (CharSet.binary "othermath"))
  | "grext" | "graphemeextend" => some graphemeExtend
  | "grbase" | "graphemebase" =>
    some (.compl (CharSet.unions
      [CharSet.ofCategories ["Cc", "Cf", "Co", "Zl", "Zp"], unassigned, graphemeExtend]))
  | "ids" | "idstart" => some idStart
  | "idc" | "idcontinue" => some idContinue
  | "xids" | "xidstart" => some (.diff idStart (CharSet.binary "-noxidstart"))
  | "xidc" | "xidcontinue" => some (.diff idContinue (CharSet.binary "-noxidcontinue"))
  | _ => none

def script? (name : String) : Option CharSet := (Unicode.script? name).map fun s => .table s.2

def scriptExtensions? (name : String) : Option CharSet :=
  (Unicode.script? name).map fun s =>
    .diff (.union (.table s.2) (.table (Unicode.borrowedSet s.1))) (.table (Unicode.lentSet s.1))

inductive PropertyQuery where
  | named (name : List Char)
  | valued (property value : List Char)

/-- The set that a query names. A binary property goes before a category and a category before a
script, except that the abbreviations of three categories are never taken for a property. -/
def PropertyQuery.resolve : PropertyQuery → Option CharSet
  | .named name =>
    let name := looseName name
    let property :=
      if ["cf", "sc", "lc"].contains name then none
      else (derived? name).or ((Unicode.binary? name).map .table)
    (property.or (category? name)).or (script? name)
  | .valued property value =>
    let value := looseName value
    match looseName property with
    | "gc" | "generalcategory" | "category" => category? value
    | "sc" | "script" => script? value
    | "scx" | "scriptextensions" => scriptExtensions? value
    | _ => none

end Webprint.Regex
