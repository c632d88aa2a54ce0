import Switchboard.Api.Message
import Switchboard.Json.Record
import Switchboard.Registry.Trunk

/-!
What clients get: an envelope around a result or a failure. Nothing in it tells a trunk's password.
-/

namespace Switchboard.Api

open Json

structure Envelope (α : Type) where
  success : Bool
  data : Option α
  error : Option String
  code : Option String
  deriving Inhabited

namespace Envelope

def codec {α : Type} (c : Codec α) : Codec (Envelope α) :=
  .record
    [.required "success" .bool, .optional "data" c, .optional "error" .string,
      .optional "code" .string]
    (fun e => (e.success, e.data, e.error, e.code, ()))
    (fun (success, data, error, code, ()) => ⟨success, data, error, code⟩)

def ofResult {α : Type} (a : α) : Envelope α := ⟨true, some a, none, none⟩

def ofFailure {α : Type} (f : Failure) : Envelope α := ⟨false, none, some f.text, some f.kind.code⟩

end Envelope

structure Page (α : Type) where
  items : List α
  deriving Inhabited

def Page.codec {α : Type} (c : Codec α) : Codec (Page α) :=
  .record [.required "items" (.list c)] (fun p => (p.items, ())) (fun (items, ()) => ⟨items⟩)

/-- A trunk without its password. -/
structure TrunkView where
  id : String
  inboundAddresses : List String
  outboundAddress : String
  outboundNumber : String
  numberPattern : String
  username : String
  deriving DecidableEq, Inhabited

namespace TrunkView

def ofTrunk (t : Trunk) : TrunkView :=
  ⟨t.id, t.inboundAddresses, t.outboundAddress, t.outboundNumber, t.numberPattern, t.username⟩

def codec : Codec TrunkView :=
  .record
    [.required "sip_trunk_id" .string, .required "inbound_addresses" (.list .string),
      .required "outbound_address" .string, .required "outbound_number" .string,
      .required "inbound_numbers_regex" .string, .required "username" .string]
    (fun t => (t.id, t.inboundAddresses, t.outboundAddress, t.outboundNumber, t.numberPattern,
      t.username, ()))
    (fun (id, addresses, address, number, pattern, username, ()) =>
      ⟨id, addresses, address, number, pattern, username⟩)

end TrunkView

structure Health where
  status : String
  store : String
  deriving DecidableEq, Inhabited

namespace Health

def codec : Codec Health :=
  .record [.required "status" .string, .required "store" .string]
    (fun h => (h.status, h.store, ())) (fun (status, store, ()) => ⟨status, store⟩)

def ofPing : Outcome Unit → Health
  | .ok () => ⟨"ok", "ready"⟩
  | .error f => ⟨"degraded", f.kind.code⟩

end Health

def statusOf : FailureKind → Nat
  | .notReady => 503
  | .invalidArgument => 400
  | .notFound => 404
  | .alreadyExists => 409
  | .failedPrecondition => 412
  | .unimplemented => 501
  | .deadlineExceeded => 504
  | .internal => 500

def failureResponse (f : Failure) : HttpResponse :=
  .json (statusOf f.kind) ((Envelope.codec Codec.null).encode
    (.ofFailure f))

end Switchboard.Api
