/-!
Patterns as they are written: characters, classes, assertions, repetitions, groups and choices.
`Tree.depth` counts the levels of nesting, which a pattern may have only so many of.
-/

namespace Switchboard.Pattern

/-- A character of a pattern. `octet` tells one written as an octet, by two hexadecimal digits. -/
structure Literal where
  char : Char
  octet : Bool
  deriving DecidableEq, Inhabited

inductive Flag where
  | ignoreCase
  | multiLine
  | dotAll
  | swapGreed
  | unicode
  | carriageReturns
  | verbose
  deriving DecidableEq

structure FlagChange where
  on : List Flag
  off : List Flag

def FlagChange.state (c : FlagChange) (f : Flag) : Option Bool :=
  if f ∈ c.on then some true else if f ∈ c.off then some false else none

inductive Assertion where
  | lineStart
  | lineEnd
  | textStart
  | textEnd
  | boundary
  | notBoundary
  | wordStart
  | wordEnd
  | wordStartHalf
  | wordEndHalf
  deriving DecidableEq

inductive LetterClass where
  | digit
  | space
  | word
  deriving DecidableEq

inductive NamedClass where
  | alnum
  | alpha
  | ascii
  | blank
  | cntrl
  | digit
  | graph
  | lower
  | print
  | punct
  | space
  | upper
  | word
  | xdigit
  deriving DecidableEq

inductive Query where
  | named (name : String)
  | valued (property value : String)

inductive SetOperation where
  | intersection
  | difference
  | symmetricDifference
  deriving DecidableEq

inductive ClassTree where
  | literal (l : Literal)
  | range (first last : Literal)
  | named (kind : NamedClass) (negated : Bool)
  | property (query : Query) (negated : Bool)
  | letter (kind : LetterClass) (negated : Bool)
  | bracketed (negated : Bool) (body : ClassTree)
  | union (items : List ClassTree)
  | operation (op : SetOperation) (left right : ClassTree)
  deriving Inhabited

inductive GroupKind where
  | numbered
  | flagged (change : FlagChange)

inductive Tree where
  | empty
  | flags (change : FlagChange)
  | literal (l : Literal)
  | dot
  | assertion (a : Assertion)
  | property (query : Query) (negated : Bool)
  | letter (kind : LetterClass) (negated : Bool)
  | bracketed (negated : Bool) (body : ClassTree)
  | repetition (low : Nat) (high : Option Nat) (body : Tree)
  | group (kind : GroupKind) (body : Tree)
  | alternation (branches : List Tree)
  | concatenation (parts : List Tree)
  deriving Inhabited

def ClassTree.ofItems : List ClassTree → ClassTree
  | [item] => item
  | items => .union items

def Tree.ofParts : List Tree → Tree
  | [] => .empty
  | [part] => part
  | parts => .concatenation parts

def Tree.ofBranches : List Tree → Tree
  | [branch] => branch
  | branches => .alternation branches

mutual

def ClassTree.depth : ClassTree → Nat
  | .bracketed _ body => body.depth + 1
  | .union [] => 0
  | .union items => classDepths items + 1
  | .operation _ left right => max left.depth right.depth + 1
  | _ => 0

def classDepths : List ClassTree → Nat
  | [] => 0
  | item :: items => max item.depth (classDepths items)

end

mutual

def Tree.depth : Tree → Nat
  | .bracketed _ body => body.depth + 1
  | .repetition _ _ body => body.depth + 1
  | .group _ body => body.depth + 1
  | .alternation branches => treeDepths branches + 1
  | .concatenation parts => treeDepths parts + 1
  | _ => 0

def treeDepths : List Tree → Nat
  | [] => 0
  | tree :: trees => max tree.depth (treeDepths trees)

end

def depthLimit : Nat := 250

end Switchboard.Pattern
