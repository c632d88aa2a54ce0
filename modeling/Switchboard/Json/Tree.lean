import Switchboard.Decimal.Shortest
import Switchboard.Json.Printer
import Switchboard.Json.Reader

/-!
JSON values held as trees: members in the order they were read, and the reader and printer of
trees.
-/

namespace Switchboard.Json

open Switchboard.Text

inductive Tree where
  | null
  | bool (b : Bool)
  | number (n : Number)
  | string (s : String)
  | list (items : List Tree)
  | object (members : List (String × Tree))
  deriving Inhabited

def readMembers {α : Type} (read : Reader α) (depth : Nat) :
    Octets → Bool → Scan (List (String × α))
  | [], _, _ => .error .truncated
  | _ :: ahead, first, input => do
    let (more, input) ← nextName first input
    if more then
      let (name, input) ← stringBody input
      let (a, input) ← read depth (← readColon input)
      let (as, input) ← readMembers read depth ahead false input
      return ((name, a) :: as, input)
    else return ([], ← endObject input)

def readTree : Reader Tree
  | 0, _ => .error .malformed
  | depth + 1, input =>
    match skipBlank input with
    | [] => .error .truncated
    | b :: rest =>
      if b = ascii 'n' then (keywordNull rest).map (.null, ·)
      else if b = ascii 't' then (keywordTrue rest).map (.bool true, ·)
      else if b = ascii 'f' then (keywordFalse rest).map (.bool false, ·)
      else if b = ascii '-' then
        (numberBody true rest).map fun (n, rest) => (.number n, rest)
      else if isDigit b then
        (numberBody false (b :: rest)).map fun (n, rest) => (.number n, rest)
      else if b = quote then (stringBody rest).map fun (s, rest) => (.string s, rest)
      else if b = listOpen then
        if depth = 0 then .error .malformed
        else (readElements (fun _ => readTree depth) depth rest true rest).map
          fun (items, rest) => (.list items, rest)
      else if b = objectOpen then
        if depth = 0 then .error .malformed
        else (readMembers (fun _ => readTree depth) depth rest true rest).map
          fun (members, rest) => (.object members, rest)
      else .error .malformed

def Tree.ofOctets? (input : Octets) : Option Tree := (readDocument readTree input).toOption

def Number.write : Number → Octets
  | .whole n => octets (toString n)
  | .real x => octets (Decimal.scaled x)

mutual

def Tree.write : Tree → Octets
  | .null => writeNull
  | .bool b => writeBool b
  | .number n => n.write
  | .string s => writeString s
  | .list items => ascii '[' :: separated (writeTrees items) ++ [ascii ']']
  | .object members => ascii '{' :: separated (writeMembers members) ++ [ascii '}']

def writeTrees : List Tree → List Octets
  | [] => []
  | item :: items => item.write :: writeTrees items

def writeMembers : List (String × Tree) → List Octets
  | [] => []
  | (name, value) :: members => writeMember name value.write :: writeMembers members

end

def Tree.get? (name : String) : Tree → Option Tree
  | .object members => members.reverse.lookup name
  | _ => none

end Switchboard.Json
