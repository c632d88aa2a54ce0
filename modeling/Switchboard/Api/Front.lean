import Switchboard.Api.Envelope
import Switchboard.Api.Form
import Switchboard.Api.MediaType
import Switchboard.Api.Resource
import Switchboard.Metrics.Exposition
import Switchboard.Service.Session

/-!
The HTTP front. A request is refused before anything is done, or asks for one action of the
service, for its health, or for its metrics. Whatever happens is answered, counted, and open to
pages of any origin.
-/

namespace Switchboard.Api

open Text Json Metrics Service

inductive Verdict where
  | reply (r : HttpResponse)
  | health
  | metrics
  | perform (line : Option String) (a : Action)

def bodyLimit : Nat := 2097152

def notJson : HttpResponse := .text 415 "Expected request with `Content-Type: application/json`"

def tooLarge : HttpResponse :=
  .text 413 "Failed to buffer the request body: length limit exceeded"

def badBody : ReadError → HttpResponse
  | .mismatch => .text 422 "Failed to deserialize the JSON body into the target type"
  | .malformed | .truncated => .text 400 "Failed to parse the request body as JSON"

/-- The characters of a header that is read as text. -/
def isLegible (c : Char) : Bool := c == '\t' || (' ' ≤ c && c ≤ '~')

def HttpRequest.isJson (q : HttpRequest) : Bool :=
  q.contentType.any fun type =>
    type.toList.all isLegible && (MediaType.parse? type).any MediaType.isJson

/-- The body's form; text behind the first document does not matter. -/
def readBody {α : Type} (c : Codec α) (q : HttpRequest) : Except HttpResponse α :=
  if q.isJson then
    if bodyLimit < q.body.length then .error tooLarge
    else (readFront c.read q.body).mapError badBody
  else .error notJson

def badId : HttpResponse := .text 400 "Invalid URL: Invalid UTF-8 in `id`"

def readId (segment : String) : Except HttpResponse String :=
  match percentDecode? segment with
  | some id => .ok id
  | none => .error badId

def verdictOf : Except HttpResponse Verdict → Verdict
  | .ok v => v
  | .error r => .reply r

def Resource.verdict (q : HttpRequest) : Resource → Verdict
  | .health => .health
  | .metrics => .metrics
  | .trunks =>
    if q.method = "POST" then verdictOf do
      let form ← readBody TrunkForm.codec q
      return .perform (some "API: Creating SIP trunk") (.createTrunk form.request)
    else .perform none .listTrunks
  | .trunk segment => verdictOf do
    let id ← readId segment
    return .perform (some ("API: Deleting SIP trunk " ++ id)) (.deleteTrunk id)
  | .rules =>
    if q.method = "POST" then verdictOf do
      let form ← readBody RuleForm.codec q
      return .perform (some "API: Creating SIP dispatch rule") (.createRule form.request)
    else .perform none .listRules
  | .rule segment => verdictOf do
    let id ← readId segment
    return .perform (some ("API: Deleting SIP dispatch rule " ++ id)) (.deleteRule id)
  | .dispatch => verdictOf do
    let form ← readBody CallForm.codec q
    return .perform none (.matchCall form.call)
  | .participants =>
    if q.method = "POST" then verdictOf do
      let form ← readBody ParticipantForm.codec q
      return .perform (some ("API: Creating SIP participant in room " ++ form.room))
        (.createParticipant form.request)
    else .perform none .listParticipants
  | .participant segment => verdictOf do
    let id ← readId segment
    return .perform (some ("API: Deleting SIP participant " ++ id)) (.deleteParticipant id)
  | .tones segment => verdictOf do
    let id ← readId segment
    let form ← readBody DigitsForm.codec q
    return .perform none (.sendDigits id form.digits)

abbrev View : Action → Type
  | .ping => Unit
  | .createTrunk _ | .deleteTrunk _ => TrunkView
  | .listTrunks => Page TrunkView
  | .createRule _ | .deleteRule _ => Rule
  | .listRules => Page Rule
  | .createParticipant _ | .deleteParticipant _ => Participant
  | .listParticipants => Page Participant
  | .sendDigits .. => SentDigits
  | .matchCall _ => Decision

def view : (a : Action) → a.Result → View a
  | .ping, () => ()
  | .createTrunk _, t | .deleteTrunk _, t => .ofTrunk t
  | .listTrunks, ts => ⟨ts.map .ofTrunk⟩
  | .createRule _, r | .deleteRule _, r => r
  | .listRules, rs => ⟨rs⟩
  | .createParticipant _, p | .deleteParticipant _, p => p
  | .listParticipants, ps => ⟨ps⟩
  | .sendDigits .., sent => sent
  | .matchCall _, d => d

def viewCodec : (a : Action) → Codec (View a)
  | .ping => .null
  | .createTrunk _ | .deleteTrunk _ => TrunkView.codec
  | .listTrunks => Page.codec TrunkView.codec
  | .createRule _ | .deleteRule _ => Rule.codec
  | .listRules => Page.codec Rule.codec
  | .createParticipant _ | .deleteParticipant _ => Participant.codec
  | .listParticipants => Page.codec Participant.codec
  | .sendDigits .. => SentDigits.codec
  | .matchCall _ => Decision.codec

def successStatus : Action → Nat
  | .createTrunk _ | .createRule _ | .createParticipant _ => 201
  | _ => 200

def respond (a : Action) : Outcome a.Result → HttpResponse
  | .ok result =>
    .json (successStatus a) ((Envelope.codec (viewCodec a)).encode (.ofResult (view a result)))
  | .error f => failureResponse f

def complaints (f : Failure) : List Notice :=
  if 500 ≤ statusOf f.kind then [⟨.error, "API: " ++ f.text⟩] else []

def complaintsOf {α : Type} : Outcome α → List Notice
  | .ok _ => []
  | .error f => complaints f

def healthResponse (ping : Outcome Unit) : HttpResponse :=
  .json (match ping with | .ok () => 200 | .error _ => 503) (Health.codec.encode (.ofPing ping))

def metricsResponse (t : Tally) : HttpResponse :=
  .text 200 (String.join (t.lines.map (· ++ "\n")))

/-- What the front works on: a service that performs actions, and the log and the counts that the
front adds to. -/
structure Host (σ : Type) where
  perform : (a : Action) → σ → Outcome a.Result × σ
  note : List Notice → σ → σ
  count : RequestKey → σ → σ
  tally : σ → Tally

def noteAll (ns : List Notice) (s : Session) : Session := { s with notices := s.notices ++ ns }

def countRequest (key : RequestKey) (s : Session) : Session :=
  { s with tally := { s.tally with requests := s.tally.requests.add key } }

def sessionHost : Host Session := ⟨Session.perform, noteAll, countRequest, Session.tally⟩

def Verdict.carryOut {σ : Type} (h : Host σ) : Verdict → σ → HttpResponse × σ
  | .reply r, s => (r, s)
  | .health, s =>
    let (outcome, s) := h.perform .ping s
    (healthResponse outcome, s)
  | .metrics, s => (metricsResponse (h.tally s), s)
  | .perform line a, s =>
    let s := h.note (line.toList.map (⟨.info, ·⟩)) s
    let (outcome, s) := h.perform a s
    (respond a outcome, h.note (complaintsOf outcome) s)

def openToAll (r : HttpResponse) : HttpResponse := r.withHeader "access-control-allow-origin" "*"

def preflight (resource : Option Resource) : HttpResponse :=
  let r := (openToAll (.bare 200)).withHeader "access-control-allow-methods" "*"
  let r := r.withHeader "access-control-allow-headers" "*"
  match resource with
  | some x => r.withHeader "allow" x.allow
  | none => r

def trim (q : HttpRequest) (r : HttpResponse) : HttpResponse :=
  if q.method = "HEAD" then { r with body := [] } else r

def serveOn {σ : Type} (h : Host σ) (q : HttpRequest) (s : σ) : HttpResponse × σ :=
  let resource := Resource.ofPath? q.path
  if q.method = "OPTIONS" then (preflight resource, s)
  else
    match resource with
    | none => (openToAll (.bare 404), h.count ⟨q.method, q.path, 404⟩ s)
    | some x =>
      if q.method ∈ x.methods then
        let (r, s) := (x.verdict q).carryOut h s
        (openToAll (trim q r), h.count ⟨q.method, x.pattern, r.status⟩ s)
      else
        (openToAll ((HttpResponse.bare 405).withHeader "allow" x.allow),
          h.count ⟨q.method, x.pattern, 405⟩ s)

def serve (q : HttpRequest) (s : Session) : HttpResponse × Session := serveOn sessionHost q s

end Switchboard.Api
