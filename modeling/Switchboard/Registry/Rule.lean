import Switchboard.Json.Tagged
import Switchboard.Registry.Failure
import Switchboard.Text.Base16
import Switchboard.Text.Sha256

/-!
Dispatch rules: to which room the calls of which trunks go. A rule for no trunk in particular is
for every trunk. A rule may hide the caller's number; what it makes from the number is then made
from a digest.
-/

namespace Switchboard

open Text Json

inductive Destination where
  | direct (room : String)
  | individual (roomPrefix : String)
  deriving DecidableEq, Inhabited

namespace Destination

def directVariant : Variant Destination := ⟨"direct", "room_name", .direct⟩

def individualVariant : Variant Destination := ⟨"individual", "room_prefix", .individual⟩

def codec : Codec Destination :=
  .tagged "type" [directVariant, individualVariant] fun
    | .direct room => (directVariant, room)
    | .individual start => (individualVariant, start)

end Destination

structure Rule where
  id : String
  destination : Destination
  trunkIds : List String
  hidesCaller : Bool
  deriving DecidableEq, Inhabited

structure RuleRequest where
  destination : Destination
  trunkIds : List String
  hidesCaller : Bool
  deriving DecidableEq, Inhabited

namespace RuleRequest

def check (r : RuleRequest) : Outcome Unit :=
  if r.destination = .direct "" then
    .error (.invalidArgument "direct dispatch rule requires a room name")
  else if "" ∈ r.trunkIds then .error (.invalidArgument "trunk id must not be empty")
  else .ok ()

def codec : Codec RuleRequest :=
  .record
    [.required "rule" Destination.codec, .default "trunk_ids" (.list .string) [],
      .default "hide_phone_number" .bool false]
    (fun r => (r.destination, r.trunkIds, r.hidesCaller, ()))
    (fun (destination, trunkIds, hidesCaller, ()) => ⟨destination, trunkIds, hidesCaller⟩)

end RuleRequest

structure RoomAssignment where
  room : String
  identity : String
  caller : Option String
  deriving DecidableEq, Inhabited

def redacted (number : String) : String := base16 ((sha256 (octets number)).take 8)

/-- The items of `more` that are not yet among `seen`, each once, in order of first occurrence. -/
def distinctAfter (seen : List String) : List String → List String
  | [] => []
  | id :: more =>
    if id ∈ seen then distinctAfter seen more else id :: distinctAfter (id :: seen) more

namespace Rule

def ofRequest (id : String) (r : RuleRequest) : Rule :=
  ⟨id, r.destination, distinctAfter [] r.trunkIds, r.hidesCaller⟩

def isWildcard (r : Rule) : Bool := r.trunkIds.isEmpty

def references (r : Rule) (trunkId : String) : Bool := decide (trunkId ∈ r.trunkIds)

def appliesTo (r : Rule) (trunkId : String) : Bool := r.isWildcard || r.references trunkId

def assign (r : Rule) (caller : String) : Outcome RoomAssignment :=
  let shown := if r.hidesCaller then redacted caller else caller
  let assignment (room : String) : RoomAssignment :=
    { room, identity := "sip_" ++ shown, caller := if r.hidesCaller then none else some caller }
  match r.destination with
  | .direct room => .ok (assignment room)
  | .individual start =>
    if caller = "" then
      .error (.invalidArgument ("dispatch rule " ++ r.id ++
        " gives each caller a room and needs a caller number"))
    else .ok (assignment (start ++ shown))

def codec : Codec Rule :=
  .record
    [.required "sip_dispatch_rule_id" .string, .required "rule" Destination.codec,
      .required "trunk_ids" (.list .string), .required "hide_phone_number" .bool]
    (fun r => (r.id, r.destination, r.trunkIds, r.hidesCaller, ()))
    (fun (id, destination, trunkIds, hidesCaller, ()) => ⟨id, destination, trunkIds, hidesCaller⟩)

end Rule

end Switchboard
