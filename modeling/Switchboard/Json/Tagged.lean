import Switchboard.Json.Record
import Switchboard.Json.Tree

/-!
Values of several variants as JSON, told apart by a tag. A variant holds one text; it is written as
an object of the tag and the text, and read from an object with its members in any order, or from
a list of the two. The variant is known only when the tag has been met, so what is met before is
kept and made sense of at the end.
-/

namespace Switchboard.Json

open Switchboard.Text

structure Variant (α : Type) where
  tag : String
  field : String
  make : String → α

def findVariant {α : Type} (vs : List (Variant α)) (tag : String) : Except ReadError (Variant α) :=
  match vs.find? fun v => v.tag = tag with
  | some v => .ok v
  | none => .error .mismatch

/-- What an object held: the tag if it was met, and the other members, last first. -/
structure Met (α : Type) where
  variant : Option (Variant α)
  members : List (String × Tree)

def readTagged {α : Type} (key : String) (vs : List (Variant α)) (depth : Nat) :
    Octets → Bool → Met α → Scan (Met α)
  | [], _, _, _ => .error .truncated
  | _ :: ahead, first, met, input => do
    let (more, input) ← nextName first input
    if more then
      let (name, input) ← stringBody input
      if name = key then
        if met.variant.isSome then throw .mismatch
        let (tag, input) ← readString depth (← readColon input)
        let v ← findVariant vs tag
        readTagged key vs depth ahead false { met with variant := some v } input
      else
        let (value, input) ← readTree depth (← readColon input)
        let met := { met with members := (name, value) :: met.members }
        readTagged key vs depth ahead false met input
    else return (met, input)

def Variant.ofTree {α : Type} (v : Variant α) : Tree → Except ReadError α
  | .string s => .ok (v.make s)
  | _ => .error .mismatch

def Variant.ofMembers {α : Type} (v : Variant α) (members : List (String × Tree)) :
    Except ReadError α :=
  match members.filter fun m => m.1 = v.field with
  | [(_, value)] => v.ofTree value
  | _ => .error .mismatch

def readTaggedObject {α : Type} (key : String) (vs : List (Variant α)) (input : Octets)
    (depth : Nat) : Except ReadError (α × Octets) := do
  let (met, input) ← readTagged key vs depth input true ⟨none, []⟩ input
  match met.variant with
  | none => throw .mismatch
  | some v =>
    let input ← endObject input
    return (← v.ofMembers met.members, input)

def readTaggedList {α : Type} (vs : List (Variant α)) (input : Octets) (depth : Nat) :
    Except ReadError (α × Octets) := do
  let (more, input) ← nextElement true input
  if !more then throw .mismatch
  let (tag, input) ← readString depth input
  let v ← findVariant vs tag
  let (values, input) ← readElements readTree depth input false input
  match values with
  | [value] => return (← v.ofTree value, input)
  | _ => throw .mismatch

def Codec.tagged {α : Type} (key : String) (vs : List (Variant α)) (view : α → Variant α × String) :
    Codec α where
  write a :=
    let (v, text) := view a
    writeObject [(key, writeString v.tag), (v.field, writeString text)]
  read depth input :=
    match skipBlank input with
    | [] => .error .truncated
    | b :: rest =>
      if b = objectOpen then nested depth (readTaggedObject key vs rest)
      else if b = listOpen then nested depth (readTaggedList vs rest)
      else .error (wrongShape b rest)

end Switchboard.Json
