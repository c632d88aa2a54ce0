import Switchboard.Toml.Moment
import Switchboard.Toml.Number

/-!
TOML documents: lines that set values, under headings that name tables. A table is headed once; a
table made by a heading below it may still be headed, one made by a dotted name may not, and values
once set stay as they are.
-/

namespace Switchboard.Toml

open Settings

/-- How a table came to be: by its heading, by a heading below it, or by a dotted name. -/
inductive Origin where
  | heading
  | below
  | dotted
  deriving DecidableEq, Inhabited

inductive Node where
  | value (s : Setting)
  | table (origin : Origin) (entries : List (String × Node))
  | tables (items : List (List (String × Node)))
  deriving Inhabited

abbrev Entries := List (String × Node)

mutual

def Node.setting : Node → Setting
  | .value s => s
  | .table _ entries => .table (entrySettings entries)
  | .tables items => .list (itemSettings items)

def entrySettings : List (String × Node) → List (String × Setting)
  | [] => []
  | (name, node) :: more => (name, node.setting) :: entrySettings more

def itemSettings : List (List (String × Node)) → List Setting
  | [] => []
  | entries :: more => .table (entrySettings entries) :: itemSettings more

end

/-- Changes the table at a path, making the tables on the way; of several tables the last is
meant. -/
def descend (dotted : Bool) (change : Origin → Entries → Option Node) :
    List String → Origin → Entries → Option Node
  | [], origin, entries => change origin entries
  | name :: path, origin, entries =>
    let putBack (node : Node) : Node := .table origin (put name node entries)
    match entries.lookup name with
    | none => (descend dotted change path (if dotted then .dotted else .below) []).map putBack
    | some (.table inner below) =>
      if dotted ∧ inner = .heading then none
      else (descend dotted change path inner below).map putBack
    | some (.tables items) =>
      match items.reverse with
      | [] => none
      | last :: before => do
        match ← descend dotted change path .heading last with
        | .table _ last => return putBack (.tables (last :: before).reverse)
        | _ => none
    | some (.value _) => none

/-- Sets a value in a table that is reached by dotted names alone, or by none. -/
def setLast (isDirect : Bool) (name : String) (s : Setting) (origin : Origin) (entries : Entries) :
    Option Node :=
  if (origin == .dotted) == isDirect then none
  else
    match entries.lookup name with
    | some _ => none
    | none => some (.table origin (put name (.value s) entries))

def setPath (path : List String) (s : Setting) (origin : Origin) (entries : Entries) :
    Option Node :=
  match path.reverse with
  | [] => none
  | last :: before => descend true (setLast before.isEmpty last s) before.reverse origin entries

def headTable (name : String) (origin : Origin) (entries : Entries) : Option Node :=
  match entries.lookup name with
  | none => some (.table origin (put name (.table .heading []) entries))
  | some (.table .below inner) => some (.table origin (put name (.table .heading inner) entries))
  | _ => none

def headItem (name : String) (origin : Origin) (entries : Entries) : Option Node :=
  match entries.lookup name with
  | none => some (.table origin (put name (.tables [[]]) entries))
  | some (.tables items) => some (.table origin (put name (.tables (items ++ [[]])) entries))
  | _ => none

def depthLimit : Nat := 80

def dottedName : Nat → Scan (List String)
  | 0, _ => none
  | fuel + 1, cs => do
    let (n, rest) ← name (skipBlanks cs)
    match skipBlanks rest with
    | '.' :: rest => do
      let (ns, rest) ← dottedName fuel rest
      return (n :: ns, rest)
    | rest => return ([n], rest)

def path : Scan (List String) := dottedName (depthLimit - 1)

def elements (value : Scan Setting) : List Char → Scan (List Setting)
  | [], _ => none
  | _ :: ahead, cs =>
    match skipSpace cs with
    | ']' :: rest => some ([], rest)
    | cs => do
      let (s, rest) ← value cs
      match skipSpace rest with
      | ',' :: rest => do
        let (ss, rest) ← elements value ahead rest
        return (s :: ss, rest)
      | ']' :: rest => return ([s], rest)
      | _ => none

def binding (value : Scan Setting) : Scan (List String × Setting) := fun cs => do
  let (names, rest) ← path cs
  match rest with
  | '=' :: rest => do
    let (s, rest) ← value (skipBlanks rest)
    return ((names, s), rest)
  | _ => none

def bindings (value : Scan Setting) : List Char → Scan (List (List String × Setting))
  | [], _ => none
  | _ :: ahead, cs => do
    let (b, rest) ← binding value cs
    match skipBlanks rest with
    | ',' :: rest => do
      let (bs, rest) ← bindings value ahead rest
      return (b :: bs, rest)
    | '}' :: rest => return ([b], rest)
    | _ => none

def setAll : List (List String × Setting) → Node → Option Node
  | [], node => some node
  | (names, s) :: more, .table origin entries => do setAll more (← setPath names s origin entries)
  | _ :: _, _ => none

def inlineTable (value : Scan Setting) : Scan Setting := fun cs =>
  match skipBlanks cs with
  | '}' :: rest => some (.table [], rest)
  | cs => do
    let (bs, rest) ← bindings value cs cs
    return ((← setAll bs (.table .heading [])).setting, rest)

def keyword : Scan Setting
  | 't' :: 'r' :: 'u' :: 'e' :: rest => some (.bool true, rest)
  | 'f' :: 'a' :: 'l' :: 's' :: 'e' :: rest => some (.bool false, rest)
  | _ => none

def scalar : Scan Setting := fun cs =>
  match cs with
  | '"' :: _ | '\'' :: _ => (text cs).map fun (s, rest) => (.text s, rest)
  | _ =>
    match moment cs with
    | some (s, rest) => some (.text s, rest)
    | none => (keyword cs).or (number cs)

def value : Nat → Scan Setting
  | 0, _ => none
  | depth + 1, cs =>
    match cs with
    | '[' :: rest =>
      if depth = 0 then none
      else (elements (value depth) rest rest).map fun (ss, rest) => (.list ss, rest)
    | '{' :: rest => if depth = 0 then none else inlineTable (value depth) rest
    | _ => scalar cs

structure State where
  heading : List String
  root : Node

def State.initial : State := ⟨[], .table .heading []⟩

def State.head (s : State) (names : List String)
    (change : String → Origin → Entries → Option Node) : Option State :=
  match names.reverse, s.root with
  | last :: above, .table origin entries =>
    (descend false (change last) above.reverse origin entries).map fun root => ⟨names, root⟩
  | _, _ => none

def State.bind (s : State) (names : List String) (value : Setting) : Option State :=
  match s.root with
  | .table origin entries =>
    (descend false (setPath names value) s.heading origin entries).map fun root => { s with root }
  | _ => none

def line (s : State) (cs : List Char) : Option (State × List Char) :=
  match cs with
  | '[' :: '[' :: rest => do
    let (names, rest) ← path rest
    match rest with
    | ']' :: ']' :: rest => return (← s.head names headItem, rest)
    | _ => none
  | '[' :: rest => do
    let (names, rest) ← path rest
    match rest with
    | ']' :: rest => return (← s.head names headTable, rest)
    | _ => none
  | cs => do
    let ((names, v), rest) ← binding (value depthLimit) cs
    return (← s.bind names v, rest)

def lines : List Char → State → List Char → Option State
  | [], s, _ => some s
  | _ :: ahead, s, cs =>
    match skipSpace cs with
    | [] => some s
    | cs => do
      let (s, rest) ← line s cs
      lines ahead s (← endLine rest)

def skipMark : List Char → List Char
  | '\ufeff' :: rest => rest
  | cs => cs

def parse? (text : String) : Option (List (String × Setting)) := do
  let cs := skipMark text.toList
  let s ← lines cs .initial cs
  match s.root.setting with
  | .table entries => return entries
  | _ => none

end Switchboard.Toml
