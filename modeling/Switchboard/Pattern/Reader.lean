import Switchboard.Pattern.Tree
import Switchboard.Text.Base16
import Switchboard.Unicode.Blank
import Switchboard.Unicode.Category
import Switchboard.Unicode.Property

/-!
Reading patterns. Groups and classes are read with the open ones on a stack, each step taking at
least one character; what is no pattern has no tree (`Tree.ofText?`). Inside a verbose part blanks
and comments between the marks are stepped over.
-/

namespace Switchboard.Pattern

open Switchboard.Unicode
open Text (isHex hexValue)

abbrev Scan (α : Type) := List Char → Option (α × List Char)

/-! ### Blanks -/

def skipVerbose (inComment : Bool) : List Char → List Char
  | [] => []
  | c :: cs =>
    if inComment then skipVerbose (c != '\n') cs
    else if isBlank c then skipVerbose false cs
    else if c = '#' then skipVerbose true cs
    else c :: cs

def skip (verbose : Bool) (cs : List Char) : List Char :=
  if verbose then skipVerbose false cs else cs

/-- The character that stands next, as far as a dash in a class looks ahead. -/
def peek (verbose : Bool) (cs : List Char) : Option Char :=
  if verbose then
    match cs.dropWhile isBlank with
    | '#' :: rest => (rest.dropWhile isBlank).head?
    | rest => rest.head?
  else cs.head?

/-! ### Single marks -/

inductive Primitive where
  | literal (l : Literal)
  | dot
  | assertion (a : Assertion)
  | property (query : Query) (negated : Bool)
  | letter (kind : LetterClass) (negated : Bool)

def Primitive.plain (c : Char) : Primitive := .literal ⟨c, false⟩

def Primitive.tree : Primitive → Tree
  | .literal l => .literal l
  | .dot => .dot
  | .assertion a => .assertion a
  | .property q negated => .property q negated
  | .letter k negated => .letter k negated

def Primitive.item? : Primitive → Option ClassTree
  | .literal l => some (.literal l)
  | .property q negated => some (.property q negated)
  | .letter k negated => some (.letter k negated)
  | _ => none

def Primitive.literal? : Primitive → Option Literal
  | .literal l => some l
  | _ => none

def charOfHex? (ds : List Char) : Option Char :=
  let n := ds.foldl (fun n d => n * 16 + hexValue d) 0
  if n.isValidChar then some (Char.ofNat n) else none

def hexRun (verbose : Bool) : Nat → Scan (List Char)
  | 0, cs => some ([], cs)
  | _ + 1, [] => none
  | n + 1, c :: cs =>
    if isHex c then (hexRun verbose n (skip verbose cs)).map fun (ds, cs) => (c :: ds, cs)
    else none

def braced (verbose : Bool) : Nat → Scan (List Char)
  | 0, _ => none
  | fuel + 1, cs =>
    match skip verbose cs with
    | [] => none
    | '}' :: rest => some ([], rest)
    | c :: rest => (braced verbose fuel rest).map fun (ds, rest) => (c :: ds, rest)

def bracedHex (verbose : Bool) : Scan Primitive := fun cs => do
  let (ds, rest) ← braced verbose cs.length cs
  if ds.isEmpty ∨ !ds.all isHex then none else return (.plain (← charOfHex? ds), rest)

def readHex (verbose : Bool) (width : Nat) : Scan Primitive := fun cs =>
  match skip verbose cs with
  | '{' :: rest => bracedHex verbose rest
  | cs => do
    let (ds, rest) ← hexRun verbose width cs
    return (.literal ⟨← charOfHex? ds, width = 2⟩, rest)

def splitAt? (mark : List Char) : List Char → Option (List Char × List Char)
  | [] => none
  | c :: cs =>
    if mark.isPrefixOf (c :: cs) then some ([], (c :: cs).drop mark.length)
    else (splitAt? mark cs).map fun (before, after) => (c :: before, after)

def queryOf (negated : Bool) (ds : List Char) : Primitive :=
  let value (before after : List Char) : Query := .valued (.ofList before) (.ofList after)
  match splitAt? ['!', '='] ds, splitAt? [':'] ds, splitAt? ['='] ds with
  | some (before, after), _, _ => .property (value before after) !negated
  | none, some (before, after), _ => .property (value before after) negated
  | none, none, some (before, after) => .property (value before after) negated
  | none, none, none => .property (.named (.ofList ds)) negated

def readProperty (verbose negated : Bool) : Scan Primitive := fun cs =>
  match skip verbose cs with
  | [] => none
  | '{' :: rest => do
    let (ds, rest) ← braced verbose rest.length rest
    return (queryOf negated ds, rest)
  | '\\' :: _ => none
  | c :: rest => some (.property (.named (String.singleton c)) negated, rest)

def isMeta (c : Char) : Bool := "\\.+*?()|[]\x7b\x7d^$#&-~".contains c

def isEscapable (c : Char) : Bool :=
  isMeta c || (c.toNat < 128 && !c.isAlphanum && c != '<' && c != '>')

def isBoundaryLetter (c : Char) : Bool := c.isAlpha || c == '-'

def boundaryName (verbose : Bool) : Nat → List Char → List Char × List Char
  | 0, cs => ([], cs)
  | fuel + 1, cs =>
    match cs with
    | [] => ([], [])
    | c :: rest =>
      if isBoundaryLetter c then
        let (name, rest) := boundaryName verbose fuel (skip verbose rest)
        (c :: name, rest)
      else ([], cs)

def boundaryOf (name : String) : Option Assertion :=
  match name with
  | "start" => some .wordStart
  | "end" => some .wordEnd
  | "start-half" => some .wordStartHalf
  | "end-half" => some .wordEndHalf
  | _ => none

def readBoundary (verbose : Bool) : Scan Primitive := fun cs =>
  match cs with
  | '{' :: rest =>
    match skip verbose rest with
    | [] => none
    | c :: rest =>
      if isBoundaryLetter c then
        match boundaryName verbose (rest.length + 1) (c :: rest) with
        | (name, '}' :: rest) => (boundaryOf (.ofList name)).map (.assertion ·, rest)
        | _ => none
      else some (.assertion .boundary, cs)
  | _ => some (.assertion .boundary, cs)

def readEscape (verbose : Bool) : Scan Primitive
  | [] => none
  | c :: rest =>
    match c with
    | 'x' => readHex verbose 2 rest
    | 'u' => readHex verbose 4 rest
    | 'U' => readHex verbose 8 rest
    | 'p' => readProperty verbose false rest
    | 'P' => readProperty verbose true rest
    | 'd' => some (.letter .digit false, rest)
    | 'D' => some (.letter .digit true, rest)
    | 's' => some (.letter .space false, rest)
    | 'S' => some (.letter .space true, rest)
    | 'w' => some (.letter .word false, rest)
    | 'W' => some (.letter .word true, rest)
    | 'a' => some (.plain '\x07', rest)
    | 'f' => some (.plain '\x0c', rest)
    | 't' => some (.plain '\t', rest)
    | 'n' => some (.plain '\n', rest)
    | 'r' => some (.plain '\r', rest)
    | 'v' => some (.plain '\x0b', rest)
    | 'A' => some (.assertion .textStart, rest)
    | 'z' => some (.assertion .textEnd, rest)
    | 'b' => readBoundary verbose rest
    | 'B' => some (.assertion .notBoundary, rest)
    | '<' => some (.assertion .wordStart, rest)
    | '>' => some (.assertion .wordEnd, rest)
    | _ => if isEscapable c then some (.plain c, rest) else none

/-! ### Classes -/

inductive ClassFrame where
  | opened (negated : Bool) (outer : List ClassTree)
  | operation (op : SetOperation) (left : ClassTree)

def complete (right : ClassTree) : List ClassFrame → ClassTree × List ClassFrame
  | .operation op left :: stack => (.operation op left right, stack)
  | stack => (right, stack)

def namedClassOf (name : String) : Option NamedClass :=
  match name with
  | "alnum" => some .alnum
  | "alpha" => some .alpha
  | "ascii" => some .ascii
  | "blank" => some .blank
  | "cntrl" => some .cntrl
  | "digit" => some .digit
  | "graph" => some .graph
  | "lower" => some .lower
  | "print" => some .print
  | "punct" => some .punct
  | "space" => some .space
  | "upper" => some .upper
  | "word" => some .word
  | "xdigit" => some .xdigit
  | _ => none

def readNamed : Scan ClassTree
  | ':' :: rest =>
    let (negated, rest) := match rest with
      | '^' :: rest => (true, rest)
      | _ => (false, rest)
    match rest.dropWhile (· != ':') with
    | ':' :: ']' :: after =>
      (namedClassOf (.ofList (rest.takeWhile (· != ':')))).map (.named · negated, after)
    | _ => none
  | _ => none

def itemOf (c : Char) : ClassTree := .literal ⟨c, false⟩

def readDashes (verbose : Bool) : Nat → Scan (List ClassTree)
  | 0, _ => none
  | fuel + 1, cs =>
    match skip verbose cs with
    | [] => none
    | '-' :: rest =>
      (readDashes verbose fuel rest).map fun (items, rest) => (itemOf '-' :: items, rest)
    | rest => some ([], rest)

def openClass (verbose : Bool) : Scan (Bool × List ClassTree) := fun cs => do
  let (negated, cs) := match skip verbose cs with
    | '^' :: rest => (true, rest)
    | rest => (false, rest)
  let (dashes, rest) ← readDashes verbose (cs.length + 1) cs
  match dashes, rest with
  | [], ']' :: rest =>
    if (skip verbose rest).isEmpty then none else return ((negated, [itemOf ']']), rest)
  | _, _ => return ((negated, dashes), rest)

def readClassPrimitive (verbose : Bool) : Scan Primitive
  | [] => none
  | '\\' :: rest => readEscape verbose rest
  | c :: rest => some (.plain c, rest)

def readItem (verbose : Bool) : Scan ClassTree := fun cs => do
  let (first, rest) ← readClassPrimitive verbose cs
  match skip verbose rest with
  | [] => none
  | '-' :: after =>
    if peek verbose after = some ']' ∨ peek verbose after = some '-' then
      return (← first.item?, '-' :: after)
    let (last, rest) ← readClassPrimitive verbose (skip verbose after)
    let first ← first.literal?
    let last ← last.literal?
    if first.char ≤ last.char then return (.range first last, rest) else none
  | rest => return (← first.item?, rest)

/-- Reads a class to its end; `items` are those of the innermost open class, last first. -/
def readClassFrom (verbose : Bool) :
    Nat → List ClassFrame → List ClassTree → Scan (Bool × ClassTree)
  | 0, _, _, _ => none
  | fuel + 1, stack, items, cs =>
    let operate (op : SetOperation) (rest : List Char) :=
      let (left, stack) := complete (.ofItems items.reverse) stack
      readClassFrom verbose fuel (.operation op left :: stack) [] rest
    match skip verbose cs with
    | [] => none
    | '[' :: rest =>
      match readNamed rest with
      | some (item, rest) => readClassFrom verbose fuel stack (item :: items) rest
      | none => do
        let ((negated, front), rest) ← openClass verbose rest
        readClassFrom verbose fuel (.opened negated items :: stack) front.reverse rest
    | ']' :: rest =>
      match complete (.ofItems items.reverse) stack with
      | (body, [.opened negated _]) => some ((negated, body), rest)
      | (body, .opened negated outer :: stack) =>
        readClassFrom verbose fuel stack (.bracketed negated body :: outer) rest
      | _ => none
    | '&' :: '&' :: rest => operate .intersection rest
    | '-' :: '-' :: rest => operate .difference rest
    | '~' :: '~' :: rest => operate .symmetricDifference rest
    | rest => do
      let (item, rest) ← readItem verbose rest
      readClassFrom verbose fuel stack (item :: items) rest

def readClass (verbose : Bool) : Scan Tree := fun cs => do
  let ((negated, front), rest) ← openClass verbose cs
  let ((negated, body), rest) ←
    readClassFrom verbose (rest.length + 1) [.opened negated []] front.reverse rest
  return (.bracketed negated body, rest)

/-! ### Repetitions -/

def countLimit : Nat := 1 <<< 32

def countDigits (verbose : Bool) : Nat → List Char → List Char × List Char
  | 0, cs => ([], cs)
  | fuel + 1, cs =>
    match cs with
    | [] => ([], [])
    | c :: rest =>
      if c.isDigit then
        let (ds, rest) := countDigits verbose fuel (skip verbose rest)
        (c :: ds, rest)
      else ([], cs)

def readCount (verbose : Bool) (cs : List Char) : Option Nat × List Char :=
  let cs := cs.dropWhile isBlank
  let (ds, rest) := countDigits verbose (cs.length + 1) cs
  let n := ds.foldl (fun n d => n * 10 + (d.toNat - 48)) 0
  (if ds.isEmpty ∨ countLimit ≤ n then none else some n,
    skip verbose (rest.dropWhile isBlank))

def readCounts (verbose : Bool) : Scan (Nat × Option Nat) := fun cs => do
  let (low, rest) := readCount verbose (skip verbose cs)
  let low ← low
  match rest with
  | '}' :: rest => return ((low, some low), rest)
  | ',' :: rest =>
    match skip verbose rest with
    | '}' :: rest => return ((low, none), rest)
    | rest =>
      let (high, rest) := readCount verbose rest
      let high ← high
      match rest with
      | '}' :: rest => if low ≤ high then return ((low, some high), rest) else none
      | _ => none
  | _ => none

/-- A question mark behind a repetition changes which match is preferred, not whether there is
one. -/
def skipPreference : List Char → List Char
  | '?' :: rest => rest
  | cs => cs

/-! ### Groups -/

def flagOf (c : Char) : Option Flag :=
  match c with
  | 'i' => some .ignoreCase
  | 'm' => some .multiLine
  | 's' => some .dotAll
  | 'U' => some .swapGreed
  | 'u' => some .unicode
  | 'R' => some .carriageReturns
  | 'x' => some .verbose
  | _ => none

def flagItem (c : Char) : Option (Option Flag) :=
  if c = '-' then some none else (flagOf c).map some

/-- Flags up to a colon or a closing parenthesis, the dash before those to be turned off as
`none`; the mark that ends them. -/
def readFlagItems (seen : List (Option Flag)) : Scan (List (Option Flag) × Char)
  | [] => none
  | c :: rest =>
    if c = ':' ∨ c = ')' then
      if seen.head? = some none then none else some ((seen.reverse, c), rest)
    else do
      let item ← flagItem c
      if item ∈ seen then none else readFlagItems (item :: seen) rest

def changeOf (items : List (Option Flag)) : FlagChange :=
  { on := (items.takeWhile Option.isSome).reduceOption
    off := (items.dropWhile Option.isSome).reduceOption }

def alphabetic : CharSet := (properties.find? "alphabetic").getD []

def numeric : CharSet := categories.foldl
  (fun s r => if r.names.any (["nd", "nl", "no"].contains ·) then s.union r.set else s) []

def startsName (c : Char) : Bool := c == '_' || alphabetic.contains c.toNat

def continuesName (c : Char) : Bool :=
  "_.[]".contains c || alphabetic.contains c.toNat || numeric.contains c.toNat

def readGroupName : Scan String := fun cs =>
  match cs.takeWhile (· != '>'), cs.dropWhile (· != '>') with
  | c :: name, _ :: rest =>
    if startsName c ∧ name.all continuesName then some (.ofList (c :: name), rest) else none
  | _, _ => none

structure Opened where
  kind : GroupKind
  verbose : Bool
  branches : List Tree
  parts : List Tree

/-- What has been read: the branches and parts of the innermost group, last first. -/
structure State where
  verbose : Bool
  names : List String
  branches : List Tree
  parts : List Tree
  stack : List Opened

def State.initial : State := ⟨false, [], [], [], []⟩

def State.add (s : State) (part : Tree) : State := { s with parts := part :: s.parts }

def State.body (s : State) : Tree :=
  .ofBranches (Tree.ofParts s.parts.reverse :: s.branches).reverse

def State.enter (s : State) (kind : GroupKind) (verbose : Bool) : State :=
  { s with
    verbose, branches := [], parts := []
    stack := ⟨kind, s.verbose, s.branches, s.parts⟩ :: s.stack }

def State.enterNamed (s : State) (name : String) : Option State :=
  if name ∈ s.names then none
  else some { s.enter .numbered s.verbose with names := name :: s.names }

def openGroup (s : State) (cs : List Char) : Option (State × List Char) :=
  match skip s.verbose cs with
  | '?' :: '=' :: _ | '?' :: '!' :: _ | '?' :: '<' :: '=' :: _ | '?' :: '<' :: '!' :: _ => none
  | '?' :: 'P' :: '<' :: rest | '?' :: '<' :: rest => do
    let (name, rest) ← readGroupName rest
    return (← s.enterNamed name, rest)
  | '?' :: rest => do
    let ((items, mark), rest) ← readFlagItems [] rest
    let change := changeOf items
    let verbose := (change.state .verbose).getD s.verbose
    if mark = ')' then
      if items.isEmpty then none else return ({ s with verbose }.add (.flags change), rest)
    else return (s.enter (.flagged change) verbose, rest)
  | rest => some (s.enter .numbered s.verbose, rest)

def State.leave (s : State) : Option State :=
  match s.stack with
  | [] => none
  | outer :: stack =>
    some { s with
      verbose := outer.verbose, branches := outer.branches
      parts := .group outer.kind s.body :: outer.parts, stack }

def State.repeated (s : State) (low : Nat) (high : Option Nat) : Option State :=
  match s.parts with
  | [] | .empty :: _ | .flags _ :: _ => none
  | part :: parts => some { s with parts := .repetition low high part :: parts }

def step (s : State) : List Char → Option (State × List Char)
  | [] => none
  | '(' :: rest => openGroup s rest
  | ')' :: rest => s.leave.map (·, rest)
  | '|' :: rest =>
    some ({ s with branches := .ofParts s.parts.reverse :: s.branches, parts := [] }, rest)
  | '[' :: rest => (readClass s.verbose rest).map fun (part, rest) => (s.add part, rest)
  | '?' :: rest => (s.repeated 0 (some 1)).map (·, skipPreference rest)
  | '*' :: rest => (s.repeated 0 none).map (·, skipPreference rest)
  | '+' :: rest => (s.repeated 1 none).map (·, skipPreference rest)
  | '{' :: rest => do
    let ((low, high), rest) ← readCounts s.verbose rest
    return (← s.repeated low high, skipPreference (skip s.verbose rest))
  | '\\' :: rest => (readEscape s.verbose rest).map fun (p, rest) => (s.add p.tree, rest)
  | '.' :: rest => some (s.add .dot, rest)
  | '^' :: rest => some (s.add (.assertion .lineStart), rest)
  | '$' :: rest => some (s.add (.assertion .lineEnd), rest)
  | c :: rest => some (s.add (Primitive.plain c).tree, rest)

def readFrom : Nat → State → List Char → Option Tree
  | 0, _, _ => none
  | fuel + 1, s, cs =>
    match skip s.verbose cs with
    | [] => if s.stack.isEmpty then some s.body else none
    | cs => do
      let (s, rest) ← step s cs
      readFrom fuel s rest

def Tree.ofText? (text : String) : Option Tree := do
  let tree ← readFrom (text.length + 1) .initial text.toList
  if tree.depth ≤ depthLimit then return tree else none

end Switchboard.Pattern
