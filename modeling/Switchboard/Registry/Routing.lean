import Switchboard.Registry.Rule
import Switchboard.Registry.Trunk

/-!
Routing an inbound call. It arrives on a trunk that lists its address or, only if none does, on a
trunk without addresses; of those that accept the number the one of the smallest id is taken. A
rule for that trunk is preferred to a rule for every trunk, and again the smallest id is taken.
-/

namespace Switchboard

open Text Json

structure Call where
  address : String
  number : String
  caller : String
  deriving DecidableEq, Inhabited

def Call.title (c : Call) : String := "Call from " ++ c.address ++ " to " ++ c.number

structure Decision where
  trunkId : String
  ruleId : String
  room : String
  identity : String
  caller : Option String
  deriving DecidableEq, Inhabited

def Call.codec : Codec Call :=
  .record
    [.required "trunk_address" .string, .required "called_number" .string,
      .default "caller_number" .string ""]
    (fun c => (c.address, c.number, c.caller, ()))
    (fun (address, number, caller, ()) => ⟨address, number, caller⟩)

def Decision.codec : Codec Decision :=
  .record
    [.required "sip_trunk_id" .string, .required "sip_dispatch_rule_id" .string,
      .required "room_name" .string, .required "participant_identity" .string,
      .optional "caller_number" .string]
    (fun d => (d.trunkId, d.ruleId, d.room, d.identity, d.caller, ()))
    (fun (trunkId, ruleId, room, identity, caller, ()) => ⟨trunkId, ruleId, room, identity, caller⟩)

/-- The first of the least elements. -/
def least? {α : Type} (before : α → α → Bool) : List α → Option α
  | [] => none
  | a :: as =>
    match least? before as with
    | none => some a
    | some b => if before b a then some b else some a

def candidates (trunks : List Trunk) (address : String) : List Trunk :=
  let listing := trunks.filter (·.lists address)
  if listing.isEmpty then trunks.filter (·.isWildcard) else listing

def accepting (number : String) : List Trunk → Outcome (List Trunk)
  | [] => .ok []
  | t :: ts => do
    let accepts ← t.accepts number
    let rest ← accepting number ts
    return if accepts then t :: rest else rest

def ids (trunks : List Trunk) : String := String.intercalate ", " (trunks.map Trunk.id)

def selectTrunk (trunks : List Trunk) (address number : String) : Outcome Trunk := do
  let cs := candidates trunks address
  if cs.isEmpty then throw (.notFound ("no trunk accepts calls from " ++ address))
  match least? (fun a b => precedes a.id b.id) (← accepting number cs) with
  | some t => return t
  | none =>
    throw (.invalidArgument ("number " ++ number ++ " is not accepted by trunks " ++ ids cs))

/-- A rule for some trunks goes before one for all; among equals ids decide. -/
def Rule.precedes (a b : Rule) : Bool :=
  if a.isWildcard = b.isWildcard then Text.precedes a.id b.id else b.isWildcard

def selectRule (rules : List Rule) (trunkId : String) : Option Rule :=
  least? Rule.precedes (rules.filter (·.appliesTo trunkId))

def route (trunks : List Trunk) (rules : List Rule) (call : Call) : Outcome Decision := do
  let trunk ← selectTrunk trunks call.address call.number
  match selectRule rules trunk.id with
  | none => throw (.notFound ("no dispatch rule for trunk " ++ trunk.id))
  | some rule =>
    let place ← rule.assign call.caller
    return ⟨trunk.id, rule.id, place.room, place.identity, place.caller⟩

end Switchboard
