import Switchboard.Pattern.Property
import Switchboard.Pattern.Reader
import Switchboard.Unicode.Folding

/-!
What patterns mean: sets of characters and looks at the neighbours of a place, in sequence, by
choice and repeated. A pattern whose classes could match part of a character has no meaning, nor
has one that asks for a property that is not known.
-/

namespace Switchboard.Pattern

open Switchboard.Unicode

inductive Look where
  | textStart
  | textEnd
  | lineStart
  | lineEnd
  | returnLineStart
  | returnLineEnd
  | boundary (unicode : Bool)
  | notBoundary (unicode : Bool)
  | wordStart (unicode : Bool)
  | wordEnd (unicode : Bool)
  | wordStartHalf (unicode : Bool)
  | wordEndHalf (unicode : Bool)
  deriving DecidableEq

inductive Expr where
  | empty
  | look (l : Look)
  | set (s : CharSet)
  | sequence (first second : Expr)
  | choice (first second : Expr)
  | repetition (body : Expr) (low : Nat) (high : Option Nat)
  | capture (body : Expr)
  deriving Inhabited

def Expr.isBlank : Expr → Bool
  | .empty | .look _ => true
  | .set _ => false
  | .sequence a b => a.isBlank && b.isBlank
  | .choice a b => a.isBlank && b.isBlank
  | .repetition body _ high => body.isBlank || high == some 0
  | .capture body => body.isBlank

def Expr.repeated (body : Expr) (low : Nat) (high : Option Nat) : Expr :=
  let low := if body.isBlank then min low 1 else low
  let high := if body.isBlank then some (min (high.getD 1) 1) else high
  if high = some 0 then .empty
  else if low = 1 ∧ high = some 1 then body
  else .repetition body low high

def Expr.either : Expr → Expr → Expr
  | .set a, .set b => .set (a.union b)
  | a, b => .choice a b

structure Flags where
  ignoreCase : Bool
  multiLine : Bool
  dotAll : Bool
  unicode : Bool
  carriageReturns : Bool

def Flags.initial : Flags := ⟨false, false, false, true, false⟩

def Flags.change (f : Flags) (c : FlagChange) : Flags where
  ignoreCase := (c.state .ignoreCase).getD f.ignoreCase
  multiLine := (c.state .multiLine).getD f.multiLine
  dotAll := (c.state .dotAll).getD f.dotAll
  unicode := (c.state .unicode).getD f.unicode
  carriageReturns := (c.state .carriageReturns).getD f.carriageReturns

def asciiLetters : CharSet := NamedClass.set .alpha

def closeAsciiFolding (s : CharSet) : CharSet :=
  let letters := s.inter asciiLetters
  let moved := letters.flatMap fun i =>
    if i.low < 97 then [⟨i.low + 32, i.high + 32⟩] else [⟨i.low - 32, i.high - 32⟩]
  s.union (.ofIntervals moved)

def Flags.fold (f : Flags) (s : CharSet) : CharSet :=
  if !f.ignoreCase then s else if f.unicode then s.closeFolding else closeAsciiFolding s

/-- Outside of Unicode a class holds octets, and only those of ASCII are characters. -/
def Flags.admit (f : Flags) (s : CharSet) : Option CharSet :=
  if f.unicode || s.isAscii then some s else none

def Flags.negate (f : Flags) (negated : Bool) (s : CharSet) : Option CharSet :=
  f.admit (if negated then s.complement else s)

def Flags.letter (f : Flags) (kind : LetterClass) (negated : Bool) : Option CharSet :=
  f.negate negated (kind.set f.unicode)

def Flags.property (f : Flags) (q : Query) (negated : Bool) : Option CharSet := do
  if !f.unicode then none else f.negate negated (f.fold (← q.set?))

def Flags.member (f : Flags) (l : Literal) : Option Nat :=
  if f.unicode || l.char.toNat < 128 then some l.char.toNat else none

def Flags.operate (f : Flags) (op : SetOperation) (a b : CharSet) : CharSet :=
  match op with
  | .intersection => (f.fold a).inter (f.fold b)
  | .difference => (f.fold a).diff (f.fold b)
  | .symmetricDifference => (f.fold a).symmDiff (f.fold b)

mutual

def ClassTree.set? (f : Flags) : ClassTree → Option CharSet
  | .literal l => (f.member l).map .single
  | .range first last => do return [⟨← f.member first, ← f.member last⟩]
  | .named kind negated => f.negate negated (f.fold kind.set)
  | .property q negated => f.property q negated
  | .letter kind negated => f.letter kind negated
  | .bracketed negated body => do f.negate negated (f.fold (← body.set? f))
  | .union items => itemsSet? f items
  | .operation op left right => do
    let a ← left.set? f
    let b ← right.set? f
    return f.operate op a b

def itemsSet? (f : Flags) : List ClassTree → Option CharSet
  | [] => some []
  | item :: items => do
    let a ← item.set? f
    let b ← itemsSet? f items
    return a.union b

end

def Flags.literal (f : Flags) (l : Literal) : Option Expr :=
  if !f.unicode ∧ l.octet ∧ 128 ≤ l.char.toNat then none
  else some (.set (f.fold (.ofChar l.char)))

def newline : CharSet := .ofChar '\n'

def lineMarks : CharSet := newline.union (.ofChar '\r')

def Flags.dot (f : Flags) : Option Expr :=
  if !f.unicode then none
  else if f.dotAll then some (.set .all)
  else if f.carriageReturns then some (.set lineMarks.complement)
  else some (.set newline.complement)

def Flags.look (f : Flags) : Assertion → Look
  | .lineStart =>
    if f.multiLine then if f.carriageReturns then .returnLineStart else .lineStart else .textStart
  | .lineEnd =>
    if f.multiLine then if f.carriageReturns then .returnLineEnd else .lineEnd else .textEnd
  | .textStart => .textStart
  | .textEnd => .textEnd
  | .boundary => .boundary f.unicode
  | .notBoundary => .notBoundary f.unicode
  | .wordStart => .wordStart f.unicode
  | .wordEnd => .wordEnd f.unicode
  | .wordStartHalf => .wordStartHalf f.unicode
  | .wordEndHalf => .wordEndHalf f.unicode

mutual

/-- The meaning of a tree under flags, and the flags for what follows in the same group. -/
def Tree.expr? (f : Flags) : Tree → Option (Expr × Flags)
  | .empty => some (.empty, f)
  | .flags change => some (.empty, f.change change)
  | .literal l => (f.literal l).map (·, f)
  | .dot => f.dot.map (·, f)
  | .assertion a => some (.look (f.look a), f)
  | .property q negated => (f.property q negated).map fun s => (.set s, f)
  | .letter kind negated => (f.letter kind negated).map fun s => (.set s, f)
  | .bracketed negated body => do
    let s ← f.negate negated (f.fold (← body.set? f))
    return (.set s, f)
  | .repetition low high body => do
    let (e, f) ← body.expr? f
    return (e.repeated low high, f)
  | .group .numbered body => do
    let (e, _) ← body.expr? f
    return (.capture e, f)
  | .group (.flagged change) body => do
    let (e, _) ← body.expr? (f.change change)
    return (e, f)
  | .alternation branches => branchesExpr? f branches
  | .concatenation parts => partsExpr? f parts

def branchesExpr? (f : Flags) : List Tree → Option (Expr × Flags)
  | [] => some (.set [], f)
  | [branch] => branch.expr? f
  | branch :: branches => do
    let (a, f) ← branch.expr? f
    let (b, f) ← branchesExpr? f branches
    return (.either a b, f)

def partsExpr? (f : Flags) : List Tree → Option (Expr × Flags)
  | [] => some (.empty, f)
  | [part] => part.expr? f
  | part :: parts => do
    let (a, f) ← part.expr? f
    let (b, f) ← partsExpr? f parts
    return (.sequence a b, f)

end

def Tree.meaning? (t : Tree) : Option Expr := (t.expr? .initial).map Prod.fst

end Switchboard.Pattern
