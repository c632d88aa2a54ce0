import Switchboard.Text.Percent

/-!
What the paths of the HTTP front stand for, and which methods each takes. A segment that is an id
is kept as it was sent; it is empty only if another segment follows.
-/

namespace Switchboard.Api

inductive Resource where
  | health
  | metrics
  | trunks
  | trunk (id : String)
  | rules
  | rule (id : String)
  | dispatch
  | participants
  | participant (id : String)
  | tones (id : String)
  deriving DecidableEq, Inhabited

def segments : List Char → List (List Char)
  | [] => [[]]
  | c :: cs =>
    match segments cs with
    | s :: ss => if c = '/' then [] :: s :: ss else (c :: s) :: ss
    | [] => [[c]]

namespace Resource

def ofSegments? : List String → Option Resource
  | ["", "health"] => some health
  | ["", "metrics"] => some metrics
  | ["", "sip", "trunks"] => some trunks
  | ["", "sip", "trunks", id] => if id = "" then none else some (trunk id)
  | ["", "sip", "dispatch-rules"] => some rules
  | ["", "sip", "dispatch-rules", id] => if id = "" then none else some (rule id)
  | ["", "sip", "dispatch"] => some dispatch
  | ["", "sip", "participants"] => some participants
  | ["", "sip", "participants", id] => if id = "" then none else some (participant id)
  | ["", "sip", "participants", id, "dtmf"] => some (tones id)
  | _ => none

def ofPath? (path : String) : Option Resource :=
  ofSegments? ((segments path.toList).map String.ofList)

def pattern : Resource → String
  | health => "/health"
  | metrics => "/metrics"
  | trunks => "/sip/trunks"
  | trunk _ => "/sip/trunks/:id"
  | rules => "/sip/dispatch-rules"
  | rule _ => "/sip/dispatch-rules/:id"
  | dispatch => "/sip/dispatch"
  | participants => "/sip/participants"
  | participant _ => "/sip/participants/:id"
  | tones _ => "/sip/participants/:id/dtmf"

def methods : Resource → List String
  | health | metrics => ["GET", "HEAD"]
  | trunks | rules | participants => ["POST", "GET", "HEAD"]
  | trunk _ | rule _ | participant _ => ["DELETE"]
  | dispatch | tones _ => ["POST"]

def allow (r : Resource) : String := String.intercalate "," r.methods

end Resource

end Switchboard.Api
