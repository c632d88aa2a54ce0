import Switchboard.Json.Tree
import Switchboard.Settings.Setting
import Switchboard.Toml.Document

/-!
Layers of settings. A later layer is laid over the ones before it: tables are merged name by name,
anything else is replaced. Names are taken in small letters, and a name that is a path of names
and places reaches into tables and lists.
-/

namespace Switchboard.Settings

open Toml (Scan skipBlanks)

inductive Step where
  | name (n : String)
  | place (i : Int)
  deriving DecidableEq, Inhabited

abbrev Path := List Step

def isNameChar (c : Char) : Bool := c.isAlphanum || c == ' ' || c == '_' || c == '-'

def readName : Scan Step := fun cs =>
  match cs.takeWhile isNameChar with
  | [] => none
  | n => some (.name (.ofList n), cs.drop n.length)

/-- A place and the bracket that closes it, perhaps with blanks about it. A number that no setting
can hold is no place. -/
def readPlace : Scan Step := fun cs =>
  let (negative, cs) := match skipBlanks cs with
    | '-' :: rest => (true, rest)
    | cs => (false, cs)
  match cs.takeWhile Char.isDigit with
  | [] => none
  | ds =>
    match skipBlanks (cs.drop ds.length) with
    | ']' :: rest =>
      let n : Int := ds.foldl (fun n d => n * 10 + (d.toNat - 48)) 0
      let i := if negative then -n else n
      if -wholeLimit ≤ i ∧ i < wholeLimit then some (.place i, rest) else none
    | _ => none

def readSteps : Nat → List Char → Option Path
  | 0, _ => none
  | _ + 1, [] => some []
  | fuel + 1, c :: cs => do
    let (step, rest) ← if c = '.' then readName cs else if c = '[' then readPlace cs else none
    return step :: (← readSteps fuel rest)

def pathOf (name : String) : Path :=
  let cs := name.toList
  let path? := do
    let (first, rest) ← readName cs
    return first :: (← readSteps (rest.length + 1) rest)
  path?.getD [.name name]

def entriesOf : Setting → List (String × Setting)
  | .table entries => entries
  | _ => []

def itemsOf : Setting → List Setting
  | .list items => items
  | _ => []

mutual

def layAt (name : String) (value : Setting) (under : Setting) : Setting :=
  let name := smallLetters name
  let entries := entriesOf under
  match value with
  | .table more =>
    .table (put name (layAll more ((entries.lookup name).getD (.table []))) entries)
  | value => .table (put name value entries)

def layAll : List (String × Setting) → Setting → Setting
  | [], under => under
  | (name, value) :: more, under => layAll more (layAt name value under)

end

/-- The place of an item, counted from the end if negative; none before the start. -/
def placeIn (i : Int) (length : Nat) : Option Nat :=
  if 0 ≤ i then some i.toNat else if i.natAbs ≤ length then some (length - i.natAbs) else none

def changeItem (i : Nat) (change : Setting → Setting) : List Setting → List Setting
  | [] => List.replicate i .nothing ++ [change .nothing]
  | s :: ss =>
    match i with
    | 0 => change s :: ss
    | i + 1 => s :: changeItem i change ss

def layPath (value : Setting) : Path → Setting → Setting
  | [], _ => value
  | [.name n], under => layAt n value under
  | .name n :: path, under =>
    let n := smallLetters n
    let entries := entriesOf under
    .table (put n (layPath value path ((entries.lookup n).getD .nothing)) entries)
  | .place i :: path, under =>
    let items := itemsOf under
    match placeIn i items.length with
    | some k => .list (changeItem k (layPath value path) items)
    | none => .list items

def layOver (under : Setting) (layer : List (String × Setting)) : Setting :=
  layer.foldl (fun under entry => layPath entry.2 (pathOf entry.1) under) under

mutual

def ofTree : Json.Tree → Setting
  | .null => .nothing
  | .bool b => .bool b
  | .number (.whole n) => (Setting.ofInt? n).getD (.real (Float.ofInt n))
  | .number (.real x) => .real x
  | .string s => .text s
  | .list items => .list (ofTrees items)
  | .object members => .table (ofMembers [] members)

def ofTrees : List Json.Tree → List Setting
  | [] => []
  | item :: items => ofTree item :: ofTrees items

def ofMembers (seen : List (String × Setting)) :
    List (String × Json.Tree) → List (String × Setting)
  | [] => seen
  | (name, value) :: members => ofMembers (put name (ofTree value) seen) members

end

inductive Format where
  | toml
  | json
  deriving DecidableEq, Inhabited

def Format.parse? (f : Format) (text : String) : Option (List (String × Setting)) :=
  match f with
  | .toml => Toml.parse? text
  | .json =>
    match Json.Tree.ofOctets? (Text.octets text) with
    | some (.object members) => some (ofMembers [] members)
    | _ => none

def environmentStart : List Char := "sip_registry__".toList

/-- Two underscores part names, as a point does in a path. -/
def pointed : List Char → List Char
  | '_' :: '_' :: rest => '.' :: pointed rest
  | c :: rest => c :: pointed rest
  | [] => []

def ofVariable (key value : String) : Option (String × Setting) :=
  let cs := (smallLetters key).toList
  if environmentStart.isPrefixOf cs then
    some (.ofList (pointed (cs.drop environmentStart.length)), .text value)
  else none

def ofEnvironment (environment : List (String × String)) : List (String × Setting) :=
  environment.filterMap fun v => ofVariable v.1 v.2

end Switchboard.Settings
