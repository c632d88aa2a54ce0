import Switchboard.Service.Repository

/-!
What the service does, and how: each action has a name, a type of results, and a plan. An action
checks what it was given before it asks the store, looks up what it needs, and writes at most once,
last.
-/

namespace Switchboard.Service

inductive Action where
  | ping
  | createTrunk (request : TrunkRequest)
  | listTrunks
  | deleteTrunk (id : String)
  | createRule (request : RuleRequest)
  | listRules
  | deleteRule (id : String)
  | createParticipant (request : ParticipantRequest)
  | listParticipants
  | deleteParticipant (id : String)
  | sendDigits (id digits : String)
  | matchCall (call : Call)

structure Equipment where
  connected : Bool
  controlled : Bool
  deriving DecidableEq

def notConnected : Failure := .notReady "SIP registry is not connected to a store"

def connect (q : Equipment) : Operation Unit :=
  if q.connected then return () else throw notConnected

def createTrunk (r : TrunkRequest) : Operation Trunk := do
  .ofOutcome r.check
  let trunk := Trunk.ofRequest (← .allocate "ST_") r
  trunkEntity.insert trunk
  .note .info ("Created SIP trunk " ++ trunk.id ++ " (" ++
    toString trunk.inboundAddresses.length ++ " inbound addresses)")
  return trunk

def listTrunks : Operation (List Trunk) := do
  let trunks ← trunkEntity.list
  .note .debug ("Listed " ++ toString trunks.length ++ " SIP trunks")
  return trunks

def unreferenced (rules : List Rule) (trunk : Trunk) : Outcome Unit :=
  let naming := rules.filter (·.references trunk.id)
  if naming.isEmpty then .ok ()
  else .error (.failedPrecondition ("trunk " ++ trunk.id ++ " is referenced by dispatch rules " ++
    String.intercalate ", " (naming.map Rule.id)))

def deleteTrunk (id : String) : Operation Trunk := do
  let rules ← ruleEntity.list
  let trunk ← trunkEntity.remove id (unreferenced rules)
  .note .info ("Deleted SIP trunk " ++ trunk.id)
  return trunk

def missingTrunks : List String → Operation (List String)
  | [] => return []
  | id :: ids => do
    let found ← trunkEntity.find id
    let missing ← missingTrunks ids
    return if found.isSome then missing else id :: missing

def createRule (r : RuleRequest) : Operation Rule := do
  .ofOutcome r.check
  let rule := Rule.ofRequest (← .allocate "SDR_") r
  let missing ← missingTrunks rule.trunkIds
  if !missing.isEmpty then
    throw (.invalidArgument ("unknown trunk ids: " ++ String.intercalate ", " missing))
  ruleEntity.insert rule
  .note .info ("Created SIP dispatch rule " ++ rule.id ++ " for " ++
    if rule.isWildcard then "all trunks" else String.intercalate ", " rule.trunkIds)
  return rule

def listRules : Operation (List Rule) := do
  let rules ← ruleEntity.list
  .note .debug ("Listed " ++ toString rules.length ++ " SIP dispatch rules")
  return rules

def deleteRule (id : String) : Operation Rule := do
  let rule ← ruleEntity.remove id fun _ => .ok ()
  .note .info ("Deleted SIP dispatch rule " ++ rule.id)
  return rule

def createParticipant (r : ParticipantRequest) : Operation Participant := do
  .ofOutcome r.check
  if (← trunkEntity.find r.trunkId).isNone then
    throw (.invalidArgument ("unknown trunk id: " ++ r.trunkId))
  let id ← .allocate "SP_"
  let callId ← .allocate "SCL_"
  let participant := Participant.ofRequest id callId (← .clock) r
  participantEntity.insert participant
  .note .info ("Created SIP participant " ++ participant.id ++ " in room " ++ participant.room)
  return participant

def listParticipants : Operation (List Participant) := do
  let participants ← participantEntity.list
  .note .debug ("Listed " ++ toString participants.length ++ " SIP participants")
  return participants

def deleteParticipant (id : String) : Operation Participant := do
  let participant ← participantEntity.remove id fun _ => .ok ()
  .note .info ("Deleted SIP participant " ++ participant.id)
  return participant

def sendDigits (q : Equipment) (id text : String) : Operation SentDigits := do
  let digits ← .ofOutcome (Digits.parse text)
  let participant ← participantEntity.load id
  if !q.controlled then throw (.unimplemented "DTMF delivery needs a call control channel")
  let sent ← .ask (.send participant digits)
  .note .info ("Sent DTMF " ++ digits.text ++ " to SIP participant " ++ participant.id)
  return sent

def matchCall (call : Call) : Operation Decision := do
  let trunks ← trunkEntity.list
  let rules ← ruleEntity.list
  match route trunks rules call with
  | .ok decision =>
    .note .debug (call.title ++ " dispatched by " ++ decision.ruleId ++ " to room " ++
      decision.room)
    return decision
  | .error f =>
    .note .warning (call.title ++ " rejected: " ++ f.text)
    throw f

namespace Action

abbrev Result : Action → Type
  | ping => Unit
  | createTrunk _ | deleteTrunk _ => Trunk
  | listTrunks => List Trunk
  | createRule _ | deleteRule _ => Rule
  | listRules => List Rule
  | createParticipant _ | deleteParticipant _ => Participant
  | listParticipants => List Participant
  | sendDigits .. => SentDigits
  | matchCall _ => Decision

def name : Action → String
  | ping => "ping"
  | createTrunk _ => "create_sip_trunk"
  | listTrunks => "list_sip_trunk"
  | deleteTrunk _ => "delete_sip_trunk"
  | createRule _ => "create_sip_dispatch_rule"
  | listRules => "list_sip_dispatch_rule"
  | deleteRule _ => "delete_sip_dispatch_rule"
  | createParticipant _ => "create_sip_participant"
  | listParticipants => "list_sip_participant"
  | deleteParticipant _ => "delete_sip_participant"
  | sendDigits .. => "send_sip_participant_dtmf"
  | matchCall _ => "match_sip_dispatch_rule"

/-- What an action does once there is a store. -/
def body (q : Equipment) : (a : Action) → Operation a.Result
  | ping => .store .ping
  | createTrunk r => Service.createTrunk r
  | listTrunks => Service.listTrunks
  | deleteTrunk id => Service.deleteTrunk id
  | createRule r => Service.createRule r
  | listRules => Service.listRules
  | deleteRule id => Service.deleteRule id
  | createParticipant r => Service.createParticipant r
  | listParticipants => Service.listParticipants
  | deleteParticipant id => Service.deleteParticipant id
  | sendDigits id digits => Service.sendDigits q id digits
  | matchCall call => Service.matchCall call

def operation (q : Equipment) (a : Action) : Operation a.Result := do
  connect q
  a.body q

end Action

end Switchboard.Service
