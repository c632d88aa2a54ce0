import Switchboard.Json.Record
import Switchboard.Registry.Failure
import Switchboard.Time.Timestamp

/-!
Participants: the legs of calls that were bridged into rooms.
-/

namespace Switchboard

open Json Time

structure Participant where
  id : String
  callId : String
  trunkId : String
  callTo : String
  room : String
  identity : String
  createdAt : Timestamp
  deriving DecidableEq, Inhabited

structure ParticipantRequest where
  trunkId : String
  callTo : String
  room : String
  identity : Option String
  deriving DecidableEq, Inhabited

namespace ParticipantRequest

def check (r : ParticipantRequest) : Outcome Unit :=
  if r.trunkId = "" then .error (.invalidArgument "sip trunk id is required")
  else if r.callTo = "" then .error (.invalidArgument "number to call is required")
  else if r.room = "" then .error (.invalidArgument "room name is required")
  else .ok ()

def chosenIdentity (r : ParticipantRequest) : String :=
  (r.identity.filter (· ≠ "")).getD ("sip_" ++ r.callTo)

def codec : Codec ParticipantRequest :=
  .record
    [.default "sip_trunk_id" .string "", .default "sip_call_to" .string "",
      .default "room_name" .string "", .default "participant_identity" (.option .string) none]
    (fun r => (r.trunkId, r.callTo, r.room, r.identity, ()))
    (fun (trunkId, callTo, room, identity, ()) => ⟨trunkId, callTo, room, identity⟩)

end ParticipantRequest

namespace Participant

def ofRequest (id callId : String) (now : Timestamp) (r : ParticipantRequest) : Participant :=
  ⟨id, callId, r.trunkId, r.callTo, r.room, r.chosenIdentity, now⟩

def codec : Codec Participant :=
  .record
    [.required "sip_participant_id" .string, .required "sip_call_id" .string,
      .required "sip_trunk_id" .string, .required "sip_call_to" .string,
      .required "room_name" .string, .required "participant_identity" .string,
      .required "created_at" (.ofText Timestamp.text Timestamp.parse)]
    (fun p => (p.id, p.callId, p.trunkId, p.callTo, p.room, p.identity, p.createdAt, ()))
    (fun (id, callId, trunkId, callTo, room, identity, createdAt, ()) =>
      ⟨id, callId, trunkId, callTo, room, identity, createdAt⟩)

end Participant

end Switchboard
