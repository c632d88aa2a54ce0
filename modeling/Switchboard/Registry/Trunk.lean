import Switchboard.Json.Record
import Switchboard.Pattern.Matcher
import Switchboard.Registry.Failure
import Switchboard.Text.Quoted

/-!
Trunks: the links to carriers on which calls arrive and leave. A trunk may list the addresses that
calls come from, and a pattern that dialed numbers must match somewhere; a trunk without addresses
takes calls from anywhere, one without a pattern takes every number.
-/

namespace Switchboard

open Text Json

structure Trunk where
  id : String
  inboundAddresses : List String
  outboundAddress : String
  outboundNumber : String
  numberPattern : String
  username : String
  password : String
  deriving DecidableEq, Inhabited

structure TrunkRequest where
  inboundAddresses : List String
  outboundAddress : String
  outboundNumber : String
  numberPattern : String
  username : String
  password : String
  deriving DecidableEq, Inhabited

def Matcher.Fault.failure (pattern : String) (fault : Matcher.Fault) : Failure :=
  .invalidArgument ("inbound numbers regex " ++ quoted pattern ++ ": " ++ fault.text)

def numberMatcher (pattern : String) : Outcome Matcher :=
  (Matcher.ofText pattern).mapError (Matcher.Fault.failure pattern)

def numberMatcher? (pattern : String) : Outcome (Option Matcher) :=
  if pattern = "" then .ok none else (numberMatcher pattern).map some

namespace TrunkRequest

def check (r : TrunkRequest) : Outcome Unit :=
  if "" ∈ r.inboundAddresses then .error (.invalidArgument "inbound address must not be empty")
  else (numberMatcher? r.numberPattern).map fun _ => ()

def codec : Codec TrunkRequest :=
  .record
    [.default "inbound_addresses" (.list .string) [], .default "outbound_address" .string "",
      .default "outbound_number" .string "", .default "inbound_numbers_regex" .string "",
      .default "username" .string "", .default "password" .string ""]
    (fun r => (r.inboundAddresses, r.outboundAddress, r.outboundNumber, r.numberPattern, r.username,
      r.password, ()))
    (fun (addresses, address, number, pattern, username, password, ()) =>
      ⟨addresses, address, number, pattern, username, password⟩)

end TrunkRequest

namespace Trunk

def ofRequest (id : String) (r : TrunkRequest) : Trunk :=
  ⟨id, r.inboundAddresses, r.outboundAddress, r.outboundNumber, r.numberPattern, r.username,
    r.password⟩

def isWildcard (t : Trunk) : Bool := t.inboundAddresses.isEmpty

def lists (t : Trunk) (address : String) : Bool := decide (address ∈ t.inboundAddresses)

def accepts (t : Trunk) (number : String) : Outcome Bool :=
  (numberMatcher? t.numberPattern).map fun m => m.all (·.occursIn number)

def codec : Codec Trunk :=
  .record
    [.required "sip_trunk_id" .string, .required "inbound_addresses" (.list .string),
      .required "outbound_address" .string, .required "outbound_number" .string,
      .required "inbound_numbers_regex" .string, .required "username" .string,
      .required "password" .string]
    (fun t => (t.id, t.inboundAddresses, t.outboundAddress, t.outboundNumber, t.numberPattern,
      t.username, t.password, ()))
    (fun (id, addresses, address, number, pattern, username, password, ()) =>
      ⟨id, addresses, address, number, pattern, username, password⟩)

end Trunk

end Switchboard
