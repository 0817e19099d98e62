import Webprint.Regex.Node
import Webprint.Regex.Property
import Webprint.Text.Blank

set_option autoImplicit false

/-!
# Reading regular expressions

The written form of expressions: groups with names and flags, bracketed classes with set operations,
counted repetitions, escapes, and a verbose mode in which blanks and comments do not count. The
reader keeps the open groups on a stack and resolves flags as it goes, since a flag holds from where
it is set to the end of its group.
-/

namespace Webprint.Regex

inductive Fault where
  | malformed
  | lookAround
  | unknownProperty
  /-- A construct that could match part of a character. -/
  | notUnicode
  | tooDeep
  | tooLarge
deriving Repr, DecidableEq

structure Flags where
  ignoreCase : Bool := false
  multiLine : Bool := false
  dotAll : Bool := false
  swapGreed : Bool := false
  unicode : Bool := true
  crlf : Bool := false
  verbose : Bool := false
deriving Repr, DecidableEq

/-! ## The text -/

/-- Drops blanks and comments; the flag says whether a comment is open. -/
def skipVerbose : Bool → List Char → List Char
  | _, [] => []
  | true, c :: s => skipVerbose (c != '\n') s
  | false, c :: s =>
    if Text.isBlank c then skipVerbose false s
    else if c = '#' then skipVerbose true s
    else c :: s

def Flags.skip (f : Flags) (s : List Char) : List Char := if f.verbose then skipVerbose false s else s

/-- The character after the first one, blanks that do not count left out. A comment sign after such
blanks is passed over, and blanks at the very end are not. -/
def Flags.peekSecond (f : Flags) : List Char → Option Char
  | [] => none
  | _ :: s =>
    if f.verbose then
      let t := s.dropWhile Text.isBlank
      let u := match t with
        | '#' :: t => t.dropWhile Text.isBlank
        | t => t
      match u with
      | [] => s.head?
      | c :: _ => some c
    else s.head?

/-! ## Escapes -/

inductive Atom where
  /-- A character, and whether it was written as a byte in two hexadecimal digits. -/
  | literal (c : Char) (asByte : Bool)
  | set (s : CharSet)
  | look (l : Look)

def metaCharacters : List Char := "\\.+*?()|[]\x7b\x7d^$#&-~".toList

def isEscapable (c : Char) : Bool :=
  metaCharacters.contains c
    || (c.toNat < 0x80 && !c.isAlphanum && c != '<' && c != '>')

def hexOf (ds : List Char) : Option Nat :=
  ds.foldlM (fun n d => (Unicode.CodeSet.hexDigit? d).map (16 * n + ·)) 0

def charOf? (n : Nat) : Option Char :=
  if n < 0xd800 || (0xe000 ≤ n && n ≤ 0x10ffff) then some (Char.ofNat n) else none

def Flags.hexDigits (f : Flags) : Nat → List Char → Option (List Char × List Char)
  | 0, s => some ([], s)
  | n + 1, s =>
    match f.skip s with
    | [] => none
    | c :: s => do
      let _ ← Unicode.CodeSet.hexDigit? c
      let (ds, s) ← f.hexDigits n s
      return (c :: ds, s)

def Flags.braced (f : Flags) : Nat → List Char → Option (List Char × List Char)
  | 0, _ => none
  | fuel + 1, s =>
    match f.skip s with
    | [] => none
    | '\x7d' :: s => some ([], s)
    | c :: s => do
      let (cs, s) ← f.braced fuel s
      return (c :: cs, s)

def Flags.hexEscape (f : Flags) (digits : Nat) (s : List Char) : Option (Atom × List Char) :=
  match f.skip s with
  | [] => none
  | '\x7b' :: s => do
    let (ds, s) ← f.braced (s.length + 1) s
    if ds.isEmpty then none
    let n ← hexOf ds
    let c ← charOf? n
    return (.literal c false, s)
  | s => do
    let (ds, s) ← f.hexDigits digits s
    let n ← hexOf ds
    let c ← charOf? n
    return (.literal c (digits == 2), s)

def splitAtChar? (sep : Char) (s : List Char) : Option (List Char × List Char) :=
  match s.span (· != sep) with
  | (before, _ :: rest) => some (before, rest)
  | (_, []) => none

def splitUnequal? : List Char → Option (List Char × List Char)
  | [] => none
  | '!' :: '=' :: s => some ([], s)
  | c :: s => (splitUnequal? s).map fun (before, rest) => (c :: before, rest)

def queryOf (name : List Char) : PropertyQuery × Bool :=
  match splitUnequal? name with
  | some (p, v) => (.valued p v, true)
  | none =>
    match splitAtChar? ':' name with
    | some (p, v) => (.valued p v, false)
    | none =>
      match splitAtChar? '=' name with
      | some (p, v) => (.valued p v, false)
      | none => (.named name, false)

def Flags.fold (f : Flags) (s : CharSet) : CharSet :=
  if f.ignoreCase then (if f.unicode then .folded s else .asciiFolded s) else s

/-- Negation; without Unicode a negated set would hold bytes that are no characters. -/
def Flags.negate (f : Flags) (negated : Bool) (s : CharSet) : Except Fault CharSet :=
  if !negated then .ok s
  else if f.unicode then .ok (.compl s)
  else .error .notUnicode

def Flags.property (f : Flags) (negated : Bool) (s : List Char) :
    Except Fault (Atom × List Char) := do
  let (query, flipped, s) ← match f.skip s with
    | [] => .error .malformed
    | '\x7b' :: s =>
      match f.braced (s.length + 1) s with
      | none => .error .malformed
      | some (name, s) =>
        let (query, flipped) := queryOf name
        .ok (query, flipped, s)
    | c :: s => if c = '\\' then .error .malformed else .ok (.named [c], false, f.skip s)
  if !f.unicode then .error .notUnicode
  else match query.resolve with
    | none => .error .unknownProperty
    | some set => do
      let set ← f.negate (negated != flipped) (f.fold set)
      return (.set set, s)

def Flags.perlSet (f : Flags) (letter : Char) : CharSet :=
  if letter = 'd' then (if f.unicode then CharSet.decimalDigit else CharSet.asciiDigit)
  else if letter = 's' then (if f.unicode then CharSet.blank else CharSet.asciiBlank)
  else (if f.unicode then CharSet.word else CharSet.asciiWord)

/-- A word boundary of a special kind, in braces after `\b`. What does not begin like one is left to
be read as a repetition. -/
def Flags.specialBoundary (f : Flags) (s : List Char) : Except Fault (Look × List Char) :=
  let isNameChar (c : Char) : Bool := c.isAlpha || c == '-'
  match s with
  | '\x7b' :: inside =>
    match f.skip inside with
    | [] => .error .malformed
    | c :: rest =>
      if !isNameChar c then .ok (.wordBoundary f.unicode, s)
      else
        match f.braced ((c :: rest).length + 1) (c :: rest) with
        | none => .error .malformed
        | some (name, rest) =>
          match String.ofList name with
          | "start" => .ok (.wordStart f.unicode, rest)
          | "end" => .ok (.wordEnd f.unicode, rest)
          | "start-half" => .ok (.wordStartHalf f.unicode, rest)
          | "end-half" => .ok (.wordEndHalf f.unicode, rest)
          | _ => .error .malformed
  | s => .ok (.wordBoundary f.unicode, s)

def Flags.escape (f : Flags) : List Char → Except Fault (Atom × List Char)
  | [] => .error .malformed
  | c :: s =>
    let hex (digits : Nat) : Except Fault (Atom × List Char) :=
      match f.hexEscape digits s with
      | some r => .ok r
      | none => .error .malformed
    let literal (n : Nat) : Except Fault (Atom × List Char) :=
      .ok (.literal (Char.ofNat n) false, s)
    if isEscapable c then .ok (.literal c false, s)
    else match c with
      | 'x' => hex 2
      | 'u' => hex 4
      | 'U' => hex 8
      | 'p' => f.property false s
      | 'P' => f.property true s
      | 'd' | 's' | 'w' => .ok (.set (f.perlSet c), s)
      | 'D' | 'S' | 'W' => do
        let set ← f.negate true (f.perlSet c.toLower)
        return (.set set, s)
      | 'a' => literal 7
      | 'f' => literal 12
      | 't' => literal 9
      | 'n' => literal 10
      | 'r' => literal 13
      | 'v' => literal 11
      | 'A' => .ok (.look .textStart, s)
      | 'z' => .ok (.look .textEnd, s)
      | 'b' => do
        let (l, s) ← f.specialBoundary s
        return (.look l, s)
      | 'B' => .ok (.look (.notWordBoundary f.unicode), s)
      | '<' => .ok (.look (.wordStart f.unicode), s)
      | '>' => .ok (.look (.wordEnd f.unicode), s)
      | _ => .error .malformed

def Flags.literalSet (f : Flags) (c : Char) (asByte : Bool) : Except Fault CharSet :=
  let n := c.toNat
  if !f.unicode && asByte && 0x7f < n then .error .notUnicode
  else if !f.ignoreCase then .ok (.single n)
  else if f.unicode then .ok (CharSet.orbit n)
  else .ok (if n < 0x80 then .asciiFolded (.single n) else .single n)

/-! ## Bracketed classes -/

inductive SetOperator where
  | intersection
  | difference
  | symmetricDifference
deriving Repr, DecidableEq

/-- Items of a class that stand side by side: their union, how many there are, and how deeply the
deepest is nested. -/
structure Items where
  set : CharSet := .empty
  count : Nat := 0
  depth : Nat := 0

def Items.push (u : Items) (s : CharSet) (depth : Nat) : Items :=
  ⟨if u.count = 0 then s else .union u.set s, u.count + 1, Nat.max u.depth depth⟩

def Items.operandDepth (u : Items) : Nat := if u.count ≤ 1 then u.depth else u.depth + 1

/-- What is open inside of a class: the class itself with the items before it, or an operator with
its left operand. -/
inductive ClassFrame where
  | bracket (before : Items) (negated : Bool)
  | operator (op : SetOperator) (lhs : CharSet) (depth : Nat)

def SetOperator.apply : SetOperator → CharSet → CharSet → CharSet
  | .intersection, a, b => .inter a b
  | .difference, a, b => .diff a b
  | .symmetricDifference, a, b => CharSet.symmetricDiff a b

def Flags.closeOperator (f : Flags) (u : Items) :
    List ClassFrame → CharSet × Nat × List ClassFrame
  | .operator op lhs depth :: stack =>
    (op.apply (f.fold lhs) (f.fold u.set), Nat.max depth u.operandDepth + 1, stack)
  | stack => (u.set, u.operandDepth, stack)

def Flags.leadingHyphens (f : Flags) : Nat → Items → List Char → Option (Items × List Char)
  | 0, _, _ => none
  | fuel + 1, u, s =>
    match s with
    | '-' :: s =>
      match f.skip s with
      | [] => none
      | s => f.leadingHyphens fuel (u.push (.single 0x2d) 0) s
    | s => some (u, s)

/-- The start of a class behind its bracket: whether it is negated, and the hyphens or the closing
bracket that mean themselves in this place. -/
def Flags.openClass (f : Flags) (s : List Char) : Option (Bool × Items × List Char) := do
  let s := f.skip s
  if s.isEmpty then none
  let (negated, s) := match s with
    | '^' :: s => (true, f.skip s)
    | s => (false, s)
  if s.isEmpty then none
  let (u, s) ← f.leadingHyphens (s.length + 1) {} s
  match s with
  | ']' :: s =>
    if u.count = 0 then
      let s := f.skip s
      if s.isEmpty then none
      return (negated, u.push (.single 0x5d) 0, s)
    else return (negated, u, ']' :: s)
  | s => return (negated, u, s)

def Flags.asciiClass (f : Flags) (s : List Char) : Option (Except Fault CharSet × List Char) := do
  match s with
  | '[' :: ':' :: s =>
    let (negated, s) := match s with
      | '^' :: s => (true, s)
      | s => (false, s)
    let (name, rest) := s.span (· != ':')
    match rest with
    | ':' :: ']' :: rest => do
      let set ← CharSet.ascii? (String.ofList name)
      return (f.negate negated (f.fold set), rest)
    | _ => none
  | _ => none

def Flags.classAtom (f : Flags) : List Char → Except Fault (Atom × List Char)
  | [] => .error .malformed
  | '\\' :: s => f.escape s
  | c :: s => .ok (.literal c false, s)

def Flags.classCode (f : Flags) : Atom → Except Fault Nat
  | .literal c _ => if f.unicode || c.toNat < 0x80 then .ok c.toNat else .error .notUnicode
  | _ => .error .malformed

def Flags.classRange (f : Flags) (s : List Char) : Except Fault (CharSet × List Char) := do
  let (first, s) ← f.classAtom s
  let s := f.skip s
  let single : Except Fault (CharSet × List Char) :=
    match first with
    | .set set => .ok (set, s)
    | .look _ => .error .malformed
    | atom => do
      let n ← f.classCode atom
      return (.single n, s)
  match s with
  | [] => .error .malformed
  | '-' :: rest =>
    if f.peekSecond s = some ']' || f.peekSecond s = some '-' then single
    else do
      let rest := f.skip rest
      if rest.isEmpty then .error .malformed
      else do
        let (last, rest) ← f.classAtom rest
        let lo ← f.classCode first
        let hi ← f.classCode last
        if hi < lo then .error .malformed else return (.range lo hi, rest)
  | _ => single

def Flags.classLoop (f : Flags) :
    Nat → Items → List ClassFrame → List Char → Except Fault (CharSet × Nat × List Char)
  | 0, _, _, _ => .error .malformed
  | fuel + 1, u, stack, s =>
    let operator (op : SetOperator) (s : List Char) :
        Except Fault (CharSet × Nat × List Char) :=
      let (lhs, depth, stack) := f.closeOperator u stack
      f.classLoop fuel {} (.operator op lhs depth :: stack) s
    let nested (s : List Char) : Except Fault (CharSet × Nat × List Char) :=
      match f.openClass s with
      | none => .error .malformed
      | some (negated, inner, s) => f.classLoop fuel inner (.bracket u negated :: stack) s
    match f.skip s with
    | [] => .error .malformed
    | '[' :: rest =>
      match if stack.isEmpty then none else f.asciiClass ('[' :: rest) with
      | some (set, rest) => do
        let set ← set
        f.classLoop fuel (u.push set 0) stack rest
      | none => nested rest
    | ']' :: rest =>
      let (set, depth, stack) := f.closeOperator u stack
      match stack with
      | .bracket before negated :: stack => do
        let set ← f.negate negated (f.fold set)
        if stack.isEmpty then return (set, depth + 1, rest)
        else f.classLoop fuel (before.push set (depth + 1)) stack rest
      | _ => .error .malformed
    | '&' :: '&' :: rest => operator .intersection rest
    | '-' :: '-' :: rest => operator .difference rest
    | '~' :: '~' :: rest => operator .symmetricDifference rest
    | s => do
      let (set, s) ← f.classRange s
      f.classLoop fuel (u.push set 0) stack s

def Flags.bracketed (f : Flags) (s : List Char) : Except Fault (CharSet × Nat × List Char) :=
  f.classLoop (s.length + 1) {} [] s

/-! ## Groups and repetitions -/

structure Part where
  node : Node
  depth : Nat
  repeatable : Bool := true

/-- Parts in sequence; the list holds the last one first. -/
def concatenation : List Part → Part
  | [] => ⟨.empty, 0, true⟩
  | [p] => ⟨p.node, p.depth, true⟩
  | p :: ps =>
    ⟨ps.foldl (fun node q => .seq q.node node) p.node,
      (p :: ps).foldl (fun d q => Nat.max d q.depth) 0 + 1, true⟩

def alternation : List Part → Part
  | [] => ⟨.empty, 0, true⟩
  | [p] => p
  | p :: ps =>
    ⟨ps.foldl (fun node q => .alt q.node node) p.node,
      (p :: ps).foldl (fun d q => Nat.max d q.depth) 0 + 1, true⟩

/-- An open group: the parts and alternatives before it, its number if it captures, and the flags to
go back to. -/
structure GroupFrame where
  parts : List Part
  alternatives : List Part
  index : Option Nat
  flags : Flags

structure ParserState where
  flags : Flags
  parts : List Part := []
  alternatives : List Part := []
  stack : List GroupFrame := []
  groups : Nat := 0
  names : List (List Char) := []

/-- The letters of a flag group up to its colon or closing parenthesis. No flag may stand twice. -/
def readFlags : List Char → List Char → Option (List Char × List Char)
  | _, [] => none
  | seen, c :: s =>
    if c = ':' || c = ')' then
      if seen.head? = some '-' then none else some (seen.reverse, c :: s)
    else if "imsUuRx-".toList.contains c && !seen.contains c then readFlags (c :: seen) s
    else none

def Flags.set (f : Flags) (letter : Char) (on : Bool) : Flags :=
  match letter with
  | 'i' => { f with ignoreCase := on }
  | 'm' => { f with multiLine := on }
  | 's' => { f with dotAll := on }
  | 'U' => { f with swapGreed := on }
  | 'u' => { f with unicode := on }
  | 'R' => { f with crlf := on }
  | 'x' => { f with verbose := on }
  | _ => f

/-- Flags before a hyphen are set, flags behind it are cleared. -/
def Flags.apply (f : Flags) (letters : List Char) : Flags :=
  let (on, off) := letters.span (· != '-')
  off.foldl (fun f l => f.set l false) (on.foldl (fun f l => f.set l true) f)

def isNameStart (c : Char) : Bool := c == '_' || CharSet.alphabetic.mem c.toNat

def isNameChar (c : Char) : Bool :=
  c == '.' || c == '[' || c == ']' || isNameStart c
    || (CharSet.ofCategories ["Nd", "Nl", "No"]).mem c.toNat

def groupName? (s : List Char) : Option (List Char × List Char) :=
  match s.span (· != '>') with
  | (c :: name, _ :: rest) => if isNameStart c && name.all isNameChar then some (c :: name, rest) else none
  | _ => none

namespace ParserState

def push (st : ParserState) (node : Node) (depth : Nat) : ParserState :=
  { st with parts := ⟨node, depth, true⟩ :: st.parts }

def openGroup (st : ParserState) (index : Option Nat) (flags : Flags) : ParserState :=
  { st with
    flags := flags, parts := [], alternatives := [],
    stack := ⟨st.parts, st.alternatives, index, st.flags⟩ :: st.stack }

def openCapture (st : ParserState) (name : Option (List Char)) : ParserState :=
  let st := st.openGroup (some (st.groups + 1)) st.flags
  { st with groups := st.groups + 1, names := name.toList ++ st.names }

def body (st : ParserState) : Part := alternation (concatenation st.parts :: st.alternatives)

def closeGroup (st : ParserState) : Except Fault ParserState :=
  match st.stack with
  | [] => .error .malformed
  | frame :: stack =>
    let body := st.body
    let node := match frame.index with
      | some i => .group i body.node
      | none => body.node
    .ok { st with
      flags := frame.flags, stack := stack, alternatives := frame.alternatives,
      parts := ⟨node, body.depth + 1, true⟩ :: frame.parts }

def readGroup (st : ParserState) (s : List Char) : Except Fault (ParserState × List Char) :=
  let named (s : List Char) : Except Fault (ParserState × List Char) :=
    match groupName? s with
    | none => .error .malformed
    | some (name, s) =>
      if st.names.contains name then .error .malformed else .ok (st.openCapture (some name), s)
  match st.flags.skip s with
  | '?' :: '=' :: _ => .error .lookAround
  | '?' :: '!' :: _ => .error .lookAround
  | '?' :: '<' :: '=' :: _ => .error .lookAround
  | '?' :: '<' :: '!' :: _ => .error .lookAround
  | '?' :: 'P' :: '<' :: s => named s
  | '?' :: '<' :: s => named s
  | '?' :: s =>
    match readFlags [] s with
    | none => .error .malformed
    | some (letters, close) =>
      let flags := st.flags.apply letters
      match close with
      | ')' :: s =>
        if letters.isEmpty then .error .malformed
        else .ok ({ st with flags := flags, parts := ⟨.empty, 0, false⟩ :: st.parts }, s)
      | _ :: s => .ok (st.openGroup none flags, s)
      | [] => .error .malformed
  | s => .ok (st.openCapture none, s)

def repeatLast (st : ParserState) (min : Nat) (max : Option Nat) (greedy : Bool) :
    Except Fault ParserState :=
  match st.parts with
  | part :: parts =>
    if part.repeatable then
      .ok { st with
        parts := ⟨Node.repeated min max (greedy != st.flags.swapGreed) part.node,
          part.depth + 1, true⟩ :: parts }
    else .error .malformed
  | [] => .error .malformed

end ParserState

def readLazy : List Char → Bool × List Char
  | '?' :: s => (false, s)
  | s => (true, s)

/-- A decimal number below two to the thirty-second, with blanks around it. Without digits it is
nothing. -/
def Flags.decimal (f : Flags) (s : List Char) : Except Fault (Option Nat × List Char) :=
  let rec digits : Nat → List Char → List Nat × List Char
    | 0, s => ([], s)
    | fuel + 1, s =>
      match s with
      | c :: rest =>
        if c.isDigit then
          let (ds, rest) := digits fuel (f.skip rest)
          ((c.toNat - 48) :: ds, rest)
        else ([], s)
      | [] => ([], [])
  let (ds, s) := digits (s.length + 1) (s.dropWhile Text.isBlank)
  let s := s.dropWhile Text.isBlank
  if ds.isEmpty then .ok (none, s)
  else
    let n := ds.foldl (fun n d => 10 * n + d) 0
    if n < Nat.pow 2 32 then .ok (some n, s) else .error .malformed

def Flags.counted (f : Flags) (s : List Char) : Except Fault (Nat × Option Nat × List Char) := do
  let s := f.skip s
  if s.isEmpty then .error .malformed
  else do
    let (low, s) ← f.decimal s
    match low with
    | none => .error .malformed
    | some min =>
      match f.skip s with
      | ',' :: s =>
        match f.skip s with
        | '\x7d' :: s => return (min, none, s)
        | s => do
          let (high, s) ← f.decimal s
          match high, f.skip s with
          | some max, '\x7d' :: s => if max < min then .error .malformed else return (min, some max, s)
          | _, _ => .error .malformed
      | '\x7d' :: s => return (min, some min, s)
      | _ => .error .malformed

def Flags.anchor (f : Flags) (start : Bool) : Look :=
  if !f.multiLine then (if start then .textStart else .textEnd)
  else if f.crlf then (if start then .lineStartCrlf else .lineEndCrlf)
  else (if start then .lineStart else .lineEnd)

def Flags.dot (f : Flags) : Except Fault CharSet :=
  if !f.unicode then .error .notUnicode
  else if f.dotAll then .ok CharSet.any
  else if f.crlf then .ok (CharSet.ofRanges [(0, 9), (11, 12), (14, 0x10ffff)])
  else .ok (CharSet.ofRanges [(0, 9), (11, 0x10ffff)])

def ParserState.step (st : ParserState) (s : List Char) :
    Except Fault (ParserState × List Char) :=
  let f := st.flags
  let uncounted (min : Nat) (max : Option Nat) (s : List Char) :
      Except Fault (ParserState × List Char) := do
    let (greedy, s) := readLazy s
    let st ← st.repeatLast min max greedy
    return (st, s)
  match s with
  | [] => .ok (st, [])
  | '(' :: s => st.readGroup s
  | ')' :: s => do
    let st ← st.closeGroup
    return (st, s)
  | '|' :: s =>
    .ok ({ st with parts := [], alternatives := concatenation st.parts :: st.alternatives }, s)
  | '[' :: _ => do
    let (set, depth, s) ← f.bracketed s
    return (st.push (.chars set) depth, s)
  | '?' :: s => uncounted 0 (some 1) s
  | '*' :: s => uncounted 0 none s
  | '+' :: s => uncounted 1 none s
  | '\x7b' :: s => do
    let (min, max, s) ← f.counted s
    let (greedy, s) := readLazy (f.skip s)
    let st ← st.repeatLast min max greedy
    return (st, s)
  | '.' :: s => do
    let set ← f.dot
    return (st.push (.chars set) 0, s)
  | '^' :: s => .ok (st.push (.look (f.anchor true)) 0, s)
  | '$' :: s => .ok (st.push (.look (f.anchor false)) 0, s)
  | '\\' :: s => do
    let (atom, s) ← f.escape s
    match atom with
    | .literal c asByte => do
      let set ← f.literalSet c asByte
      return (st.push (.chars set) 0, s)
    | .set set => return (st.push (.chars set) 0, s)
    | .look l => return (st.push (.look l) 0, s)
  | c :: s => do
    let set ← f.literalSet c false
    return (st.push (.chars set) 0, s)

/-- Reads the whole text; every round takes a character, so fuel for each of them suffices. -/
def ParserState.run : Nat → ParserState → List Char → Except Fault ParserState
  | 0, st, s => if s.isEmpty then .ok st else .error .malformed
  | fuel + 1, st, s =>
    match st.flags.skip s with
    | [] => .ok st
    | s => do
      let (st, s) ← st.step s
      st.run fuel s

def maxNesting : Nat := 250

/-- The largest expression that is accepted, in bytes of its compiled form. -/
def maxWeight : Nat := 10 * Nat.pow 2 20

def parse (s : List Char) : Except Fault Node := do
  let st ← ParserState.run (s.length + 1) { flags := { ignoreCase := true } } s
  if !st.stack.isEmpty then .error .malformed
  else
    let part := st.body
    if maxNesting < part.depth then .error .tooDeep
    else if maxWeight < part.node.weight then .error .tooLarge
    else .ok part.node

end Webprint.Regex
