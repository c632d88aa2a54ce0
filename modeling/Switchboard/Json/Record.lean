import Switchboard.Json.Printer
import Switchboard.Json.Reader

/-!
Records as JSON. A record type is described by its fields; it is written as an object of all of
them in order, and read from an object of its members in any order or from a list of its fields in
order. Members of other names are stepped over; a member that comes twice is an error.
-/

namespace Switchboard.Json

open Switchboard.Text

structure Codec (α : Type) where
  write : α → Octets
  read : Reader α

def Codec.string : Codec String := ⟨writeString, readString⟩

def Codec.null : Codec Unit := ⟨fun _ => writeNull, readNull⟩

def Codec.bool : Codec Bool := ⟨writeBool, readBool⟩

def Codec.word (bits : Nat) : Codec Nat := ⟨writeNat, readWord (1 <<< bits)⟩

def Codec.list {α : Type} (c : Codec α) : Codec (List α) := ⟨writeList c.write, readList c.read⟩

def Codec.option {α : Type} (c : Codec α) : Codec (Option α) :=
  ⟨writeOption c.write, readOption c.read⟩

def Codec.ofText {α : Type} (print : α → String) (parse : String → Option α) : Codec α where
  write a := writeString (print a)
  read depth input := do
    let (s, rest) ← readString depth input
    match parse s with
    | some a => return (a, rest)
    | none => throw .mismatch

/-- A field, with the value it has where an object lacks it and where a list ends before it. -/
structure Field where
  name : String
  type : Type
  codec : Codec type
  absent : Option type
  short : Option type

def Field.required (name : String) {α : Type} (c : Codec α) : Field := ⟨name, α, c, none, none⟩

def Field.default (name : String) {α : Type} (c : Codec α) (a : α) : Field :=
  ⟨name, α, c, some a, some a⟩

/-- A field that an object may leave out and a list may not. -/
def Field.optional (name : String) {α : Type} (c : Codec α) : Field :=
  ⟨name, Option α, c.option, some none, none⟩

def Row : List Field → Type
  | [] => Unit
  | f :: fs => f.type × Row fs

def Slots : List Field → Type
  | [] => Unit
  | f :: fs => Option f.type × Slots fs

def Slots.empty : (fs : List Field) → Slots fs
  | [] => ()
  | _ :: fs => (none, Slots.empty fs)

def Slots.close : (fs : List Field) → Slots fs → Except ReadError (Row fs)
  | [], _ => .ok ()
  | f :: fs, (slot, slots) =>
    match slot.or f.absent with
    | some a => (Slots.close fs slots).map (a, ·)
    | none => .error .mismatch

def readMember (name : String) (depth : Nat) : (fs : List Field) → Slots fs → Scan (Slots fs)
  | [], _, input => do
    let rest ← skipValue (← readColon input)
    return ((), rest)
  | f :: fs, (slot, slots), input =>
    if f.name = name then
      match slot with
      | some _ => .error .mismatch
      | none => do
        let (a, rest) ← f.codec.read depth (← readColon input)
        return ((some a, slots), rest)
    else (readMember name depth fs slots input).map fun (slots, rest) => ((slot, slots), rest)

def readSlots (fs : List Field) (depth : Nat) : Octets → Bool → Slots fs → Scan (Slots fs)
  | [], _, _, _ => .error .truncated
  | _ :: ahead, first, slots, input => do
    let (more, input) ← nextName first input
    if more then
      let (name, input) ← stringBody input
      let (slots, input) ← readMember name depth fs slots input
      readSlots fs depth ahead false slots input
    else return (slots, input)

def readCells (depth : Nat) : (fs : List Field) → Bool → Scan (Row fs)
  | [], _, input => .ok ((), input)
  | f :: fs, first, input => do
    let (more, input) ← nextElement first input
    if more then
      let (a, input) ← f.codec.read depth input
      let (row, input) ← readCells depth fs false input
      return ((a, row), input)
    else
      match f.short with
      | none => throw .mismatch
      | some a =>
        let (row, input) ← readCells depth fs first input
        return ((a, row), input)

def readObjectRow (fs : List Field) (input : Octets) (depth : Nat) :
    Except ReadError (Row fs × Octets) := do
  let (slots, input) ← readSlots fs depth input true (.empty fs) input
  let row ← slots.close
  return (row, ← endObject input)

def readListRow (fs : List Field) (input : Octets) (depth : Nat) :
    Except ReadError (Row fs × Octets) := do
  let (row, input) ← readCells depth fs true input
  return (row, ← endList input)

def readRow (fs : List Field) : Reader (Row fs) := fun depth input =>
  match skipBlank input with
  | [] => .error .truncated
  | b :: rest =>
    if b = listOpen then nested depth (readListRow fs rest)
    else if b = objectOpen then nested depth (readObjectRow fs rest)
    else .error (wrongShape b rest)

def rowMembers : (fs : List Field) → Row fs → List (String × Octets)
  | [], _ => []
  | f :: fs, (a, row) => (f.name, f.codec.write a) :: rowMembers fs row

def writeRow (fs : List Field) (row : Row fs) : Octets := writeObject (rowMembers fs row)

def Codec.record {α : Type} (fs : List Field) (toRow : α → Row fs) (ofRow : Row fs → α) :
    Codec α where
  write a := writeRow fs (toRow a)
  read depth input := (readRow fs depth input).map fun (row, rest) => (ofRow row, rest)

def Codec.encode {α : Type} (c : Codec α) (a : α) : Octets := c.write a

def Codec.decode {α : Type} (c : Codec α) (input : Octets) : Except ReadError α :=
  readDocument c.read input

end Switchboard.Json
