import Switchboard.Api.Front
import Switchboard.Proofs.Json.Shows
import Switchboard.Proofs.Service.Directory

/-! What clients are answered: an outcome as a status and a JSON object, told without codecs. -/

namespace Switchboard

open Json

namespace Api

def texts (ss : List String) : Tree := .list (ss.map .string)

def optional : Option String → Tree
  | none => .null
  | some s => .string s

def items {α : Type} (form : α → Tree) (as : List α) : Tree :=
  .object [("items", .list (as.map form))]

def trunkForm (t : Trunk) : Tree :=
  .object [("sip_trunk_id", .string t.id), ("inbound_addresses", texts t.inboundAddresses),
    ("outbound_address", .string t.outboundAddress), ("outbound_number", .string t.outboundNumber),
    ("inbound_numbers_regex", .string t.numberPattern), ("username", .string t.username)]

def destinationForm : Destination → Tree
  | .direct room => .object [("type", .string "direct"), ("room_name", .string room)]
  | .individual start => .object [("type", .string "individual"), ("room_prefix", .string start)]

def ruleForm (r : Rule) : Tree :=
  .object [("sip_dispatch_rule_id", .string r.id), ("rule", destinationForm r.destination),
    ("trunk_ids", texts r.trunkIds), ("hide_phone_number", .bool r.hidesCaller)]

def participantForm (p : Participant) : Tree :=
  .object [("sip_participant_id", .string p.id), ("sip_call_id", .string p.callId),
    ("sip_trunk_id", .string p.trunkId), ("sip_call_to", .string p.callTo),
    ("room_name", .string p.room), ("participant_identity", .string p.identity),
    ("created_at", .string p.createdAt.text)]

def sentForm (s : SentDigits) : Tree :=
  .object [("sip_participant_id", .string s.participantId), ("digits", .string s.digits)]

def decisionForm (d : Decision) : Tree :=
  .object [("sip_trunk_id", .string d.trunkId), ("sip_dispatch_rule_id", .string d.ruleId),
    ("room_name", .string d.room), ("participant_identity", .string d.identity),
    ("caller_number", optional d.caller)]

open Service

def form : (a : Action) → a.Result → Tree
  | .ping, () => .null
  | .createTrunk _, t | .deleteTrunk _, t => trunkForm t
  | .listTrunks, ts => items trunkForm ts
  | .createRule _, r | .deleteRule _, r => ruleForm r
  | .listRules, rs => items ruleForm rs
  | .createParticipant _, p | .deleteParticipant _, p => participantForm p
  | .listParticipants, ps => items participantForm ps
  | .sendDigits .., s => sentForm s
  | .matchCall _, d => decisionForm d

lemma texts_shows (ss : List String) : (Codec.list .string).Shows ss (texts ss) := by
  have h := list_shows (f := id) fun s (_ : s ∈ ss) => string_shows s
  rwa [List.map_id] at h

lemma trunkForm_shows (t : Trunk) : TrunkView.codec.Shows (.ofTrunk t) (trunkForm t) :=
  record_shows ⟨rfl, string_shows _, rfl, texts_shows _, rfl, string_shows _, rfl, string_shows _,
    rfl, string_shows _, rfl, string_shows _, rfl⟩

lemma destinationForm_shows (d : Destination) : Destination.codec.Shows d (destinationForm d) := by
  cases d <;> exact tagged_shows

lemma ruleForm_shows (r : Rule) : Rule.codec.Shows r (ruleForm r) :=
  record_shows ⟨rfl, string_shows _, rfl, destinationForm_shows _, rfl, texts_shows _, rfl,
    bool_shows _, rfl⟩

lemma participantForm_shows (p : Participant) : Participant.codec.Shows p (participantForm p) :=
  record_shows ⟨rfl, string_shows _, rfl, string_shows _, rfl, string_shows _, rfl, string_shows _,
    rfl, string_shows _, rfl, string_shows _, rfl, ofText_shows _ _ _, rfl⟩

lemma sentForm_shows (s : SentDigits) : SentDigits.codec.Shows s (sentForm s) :=
  record_shows ⟨rfl, string_shows _, rfl, string_shows _, rfl⟩

lemma optional_shows (o : Option String) : Codec.string.option.Shows o (optional o) := by
  cases o with
  | none => exact none_shows _
  | some s => exact some_shows (string_shows s)

lemma decisionForm_shows (d : Decision) : Decision.codec.Shows d (decisionForm d) :=
  record_shows ⟨rfl, string_shows _, rfl, string_shows _, rfl, string_shows _, rfl, string_shows _,
    rfl, optional_shows _, rfl⟩

lemma items_shows {α β : Type} {c : Codec β} {f : α → β} {form : α → Tree} (as : List α)
    (h : ∀ a, c.Shows (f a) (form a)) : (Page.codec c).Shows ⟨as.map f⟩ (items form as) :=
  record_shows ⟨rfl, list_shows fun a _ => h a, rfl⟩

lemma view_shows (a : Action) (x : a.Result) : (viewCodec a).Shows (view a x) (form a x) := by
  cases a with
  | ping => exact null_shows
  | createTrunk r => exact trunkForm_shows x
  | deleteTrunk id => exact trunkForm_shows x
  | listTrunks => exact items_shows x trunkForm_shows
  | createRule r => exact ruleForm_shows x
  | deleteRule id => exact ruleForm_shows x
  | listRules =>
    have h := items_shows (f := id) x ruleForm_shows
    rw [List.map_id] at h
    exact h
  | createParticipant r => exact participantForm_shows x
  | deleteParticipant id => exact participantForm_shows x
  | listParticipants =>
    have h := items_shows (f := id) x participantForm_shows
    rw [List.map_id] at h
    exact h
  | sendDigits id digits => exact sentForm_shows x
  | matchCall call => exact decisionForm_shows x

lemma members_fit {n : ℕ} {ms : List (String × Tree)}
    (h : ms.Forall fun m => m.2.Fits (n + 1)) : (Tree.object ms).Fits (n + 2) :=
  .object (List.forall_iff_forall_mem.mp h)

lemma texts_fits (ss : List String) : (texts ss).Fits 2 := by
  refine .list fun t ht => ?_
  obtain ⟨s, -, rfl⟩ := List.mem_map.mp ht
  exact .string s

lemma items_fits {α : Type} {form : α → Tree} {n : ℕ} (h : ∀ a, (form a).Fits (n + 1))
    (as : List α) : (items form as).Fits (n + 3) := by
  have hl : (Tree.list (as.map form)).Fits (n + 2) := .list fun t ht => by
    obtain ⟨a, -, rfl⟩ := List.mem_map.mp ht
    exact h a
  have hm : [("items", Tree.list (as.map form))].Forall fun m => m.2.Fits (n + 2) := hl
  exact members_fit hm

lemma trunkForm_fits (t : Trunk) : (trunkForm t).Fits 3 :=
  members_fit ⟨.string _, texts_fits _, .string _, .string _, .string _, .string _⟩

lemma destinationForm_fits (d : Destination) : (destinationForm d).Fits 2 := by
  cases d <;> exact members_fit ⟨.string _, .string _⟩

lemma ruleForm_fits (r : Rule) : (ruleForm r).Fits 3 :=
  members_fit ⟨.string _, destinationForm_fits _, texts_fits _, .bool _⟩

lemma participantForm_fits (p : Participant) : (participantForm p).Fits 3 :=
  members_fit ⟨.string _, .string _, .string _, .string _, .string _, .string _, .string _⟩

lemma form_fits (a : Action) (x : a.Result) : (form a x).Fits 5 := by
  have hn : 3 ≤ 5 := by decide
  cases a with
  | ping => exact .null
  | createTrunk r => exact (trunkForm_fits x).mono hn
  | deleteTrunk id => exact (trunkForm_fits x).mono hn
  | listTrunks => exact items_fits trunkForm_fits x
  | createRule r => exact (ruleForm_fits x).mono hn
  | deleteRule id => exact (ruleForm_fits x).mono hn
  | listRules => exact items_fits ruleForm_fits x
  | createParticipant r => exact (participantForm_fits x).mono hn
  | deleteParticipant id => exact (participantForm_fits x).mono hn
  | listParticipants => exact items_fits participantForm_fits x
  | sendDigits id digits => exact members_fit ⟨.string _, .string _⟩
  | matchCall call =>
    have ho : (optional x.caller).Fits 4 := by
      cases x.caller with
      | none => exact .null
      | some s => exact .string s
    exact members_fit ⟨.string _, .string _, .string _, .string _, ho⟩

def envelope (a : Action) : Outcome a.Result → Tree
  | .ok x => .object [("success", .bool true), ("data", form a x), ("error", .null),
    ("code", .null)]
  | .error f => .object [("success", .bool false), ("data", .null), ("error", .string f.text),
    ("code", .string f.kind.code)]

/-- An outcome is answered by its envelope, with the status that goes with it; `success` tells
whether the status is one of success. -/
structure Answers (a : Action) (o : Outcome a.Result) (r : HttpResponse) : Prop where
  body : Tree.ofOctets? r.body = some (envelope a o)
  created : a.creates → (∃ x, o = .ok x) → r.status = 201
  done : ¬a.creates → (∃ x, o = .ok x) → r.status = 200
  failed : ∀ f, o = .error f → r.status = statusOf f.kind
  success : (envelope a o).get? "success" = some (.bool true) ↔ 200 ≤ r.status ∧ r.status < 300
  type : r.header? "content-type" = some "application/json"

lemma envelope_fits (a : Action) (o : Outcome a.Result) : (envelope a o).Fits depthLimit := by
  have hn : 6 ≤ depthLimit := by decide
  refine Tree.Fits.mono ?_ hn
  cases o with
  | ok x => exact members_fit ⟨.bool _, form_fits a x, .null, .null⟩
  | error f => exact members_fit ⟨.bool _, .null, .string _, .string _⟩

lemma envelope_shows (a : Action) (x : a.Result) :
    (Envelope.codec (viewCodec a)).Shows (.ofResult (view a x)) (envelope a (.ok x)) :=
  record_shows ⟨rfl, bool_shows _, rfl, some_shows (view_shows a x), rfl, none_shows _, rfl,
    none_shows _, rfl⟩

lemma failure_shows (a : Action) (f : Failure) :
    (Envelope.codec Codec.null).Shows (.ofFailure f) (envelope a (.error f)) :=
  record_shows ⟨rfl, bool_shows _, rfl, none_shows _, rfl, some_shows (string_shows _), rfl,
    some_shows (string_shows _), rfl⟩

lemma respond_body (a : Action) (o : Outcome a.Result) :
    (respond a o).body = (envelope a o).write := by
  cases o with
  | ok x => exact envelope_shows a x
  | error f => exact failure_shows a f

lemma statusOf_bounds (k : FailureKind) : 400 ≤ statusOf k ∧ statusOf k < 600 := by
  cases k <;> decide

theorem respond_answers (a : Action) (o : Outcome a.Result) : Answers a o (respond a o) where
  body := by rw [respond_body, ofOctets?_write (envelope_fits a o)]
  created ha ho := by
    obtain ⟨x, rfl⟩ := ho
    cases a <;> first | rfl | exact absurd ha id
  done ha ho := by
    obtain ⟨x, rfl⟩ := ho
    cases a <;> first | rfl | exact absurd trivial ha
  failed f ho := by
    subst ho
    rfl
  success := by
    cases o with
    | ok x =>
      have hs : (respond a (.ok x)).status = 201 ∨ (respond a (.ok x)).status = 200 := by
        cases a <;> first | exact .inl rfl | exact .inr rfl
      refine ⟨fun _ => by omega, fun _ => rfl⟩
    | error f =>
      have hs : (respond a (.error f)).status = statusOf f.kind := rfl
      have hb := statusOf_bounds f.kind
      refine ⟨fun h => ?_, fun h => by omega⟩
      simp [envelope, Tree.get?, List.lookup] at h
  type := by cases o <;> rfl

end Api

end Switchboard
