import Switchboard.Registry.Participant
import Switchboard.Registry.Routing

/-!
What clients send in the bodies of requests.
-/

namespace Switchboard.Api

open Json

structure TrunkForm where
  inboundAddresses : List String
  outboundAddress : String
  outboundNumber : String
  numberPattern : String
  username : String
  password : String
  deriving DecidableEq, Inhabited

namespace TrunkForm

def codec : Codec TrunkForm :=
  .record
    [.default "inbound_addresses" (.list .string) [], .default "outbound_address" .string "",
      .default "outbound_number" .string "", .default "inbound_numbers_regex" .string "",
      .default "username" .string "", .default "password" .string ""]
    (fun r => (r.inboundAddresses, r.outboundAddress, r.outboundNumber, r.numberPattern, r.username,
      r.password, ()))
    (fun (addresses, address, number, pattern, username, password, ()) =>
      ⟨addresses, address, number, pattern, username, password⟩)

def request (f : TrunkForm) : TrunkRequest :=
  ⟨f.inboundAddresses, f.outboundAddress, f.outboundNumber, f.numberPattern, f.username, f.password⟩

end TrunkForm

structure RuleForm where
  destination : Destination
  trunkIds : List String
  hidesCaller : Bool
  deriving DecidableEq, Inhabited

namespace RuleForm

def codec : Codec RuleForm :=
  .record
    [.required "rule" Destination.codec, .default "trunk_ids" (.list .string) [],
      .default "hide_phone_number" .bool false]
    (fun r => (r.destination, r.trunkIds, r.hidesCaller, ()))
    (fun (destination, trunkIds, hidesCaller, ()) => ⟨destination, trunkIds, hidesCaller⟩)

def request (f : RuleForm) : RuleRequest := ⟨f.destination, f.trunkIds, f.hidesCaller⟩

end RuleForm

structure ParticipantForm where
  trunkId : String
  callTo : String
  room : String
  identity : Option String
  deriving DecidableEq, Inhabited

namespace ParticipantForm

def codec : Codec ParticipantForm :=
  .record
    [.required "sip_trunk_id" .string, .required "sip_call_to" .string,
      .required "room_name" .string, .optional "participant_identity" .string]
    (fun r => (r.trunkId, r.callTo, r.room, r.identity, ()))
    (fun (trunkId, callTo, room, identity, ()) => ⟨trunkId, callTo, room, identity⟩)

def request (f : ParticipantForm) : ParticipantRequest := ⟨f.trunkId, f.callTo, f.room, f.identity⟩

end ParticipantForm

structure DigitsForm where
  digits : String
  deriving DecidableEq, Inhabited

def DigitsForm.codec : Codec DigitsForm :=
  .record [.required "digits" .string] (fun f => (f.digits, ())) (fun (digits, ()) => ⟨digits⟩)

structure CallForm where
  address : String
  number : String
  caller : String
  deriving DecidableEq, Inhabited

namespace CallForm

def codec : Codec CallForm :=
  .record
    [.required "trunk_address" .string, .required "called_number" .string,
      .default "caller_number" .string ""]
    (fun c => (c.address, c.number, c.caller, ()))
    (fun (address, number, caller, ()) => ⟨address, number, caller⟩)

def call (f : CallForm) : Call := ⟨f.address, f.number, f.caller⟩

end CallForm

end Switchboard.Api
