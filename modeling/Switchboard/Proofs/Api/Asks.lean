import Switchboard.Proofs.Api.Answers

/-! What clients ask for: which requests ask for which action of the service, told by their methods,
paths and bodies. -/

namespace Switchboard.Api

open Text Json Service

structure Carries {α : Type} (q : HttpRequest) (c : Codec α) (form : α) : Prop where
  json : q.isJson = true
  short : q.body.length ≤ bodyLimit
  form : readFront c.read q.body = .ok form

/-- After `start` the path has a segment that stands for an id, and then `rest`. A segment at the
end of a path is not empty. -/
def Names (q : HttpRequest) (start rest id : String) : Prop :=
  ∃ segment, q.path = start ++ "/" ++ segment ++ rest ∧ (rest = "" → segment ≠ "") ∧
    '/' ∉ segment.toList ∧ percentDecode? segment = some id

inductive Asks (q : HttpRequest) : Action → Prop
  | createTrunk (f : TrunkForm) (hm : q.method = "POST") (hp : q.path = "/sip/trunks")
    (hb : Carries q TrunkForm.codec f) :
    Asks q (.createTrunk ⟨f.inboundAddresses, f.outboundAddress, f.outboundNumber, f.numberPattern,
      f.username, f.password⟩)
  | listTrunks (hm : q.method = "GET") (hp : q.path = "/sip/trunks") : Asks q .listTrunks
  | deleteTrunk (id : String) (hm : q.method = "DELETE") (hn : Names q "/sip/trunks" "" id) :
    Asks q (.deleteTrunk id)
  | createRule (f : RuleForm) (hm : q.method = "POST") (hp : q.path = "/sip/dispatch-rules")
    (hb : Carries q RuleForm.codec f) :
    Asks q (.createRule ⟨f.destination, f.trunkIds, f.hidesCaller⟩)
  | listRules (hm : q.method = "GET") (hp : q.path = "/sip/dispatch-rules") : Asks q .listRules
  | deleteRule (id : String) (hm : q.method = "DELETE")
    (hn : Names q "/sip/dispatch-rules" "" id) : Asks q (.deleteRule id)
  | matchCall (f : CallForm) (hm : q.method = "POST") (hp : q.path = "/sip/dispatch")
    (hb : Carries q CallForm.codec f) : Asks q (.matchCall ⟨f.address, f.number, f.caller⟩)
  | createParticipant (f : ParticipantForm) (hm : q.method = "POST")
    (hp : q.path = "/sip/participants") (hb : Carries q ParticipantForm.codec f) :
    Asks q (.createParticipant ⟨f.trunkId, f.callTo, f.room, f.identity⟩)
  | listParticipants (hm : q.method = "GET") (hp : q.path = "/sip/participants") :
    Asks q .listParticipants
  | deleteParticipant (id : String) (hm : q.method = "DELETE")
    (hn : Names q "/sip/participants" "" id) : Asks q (.deleteParticipant id)
  | sendDigits (id : String) (f : DigitsForm) (hm : q.method = "POST")
    (hn : Names q "/sip/participants" "/dtmf" id) (hb : Carries q DigitsForm.codec f) :
    Asks q (.sendDigits id f.digits)

lemma segments_ne_nil (cs : List Char) : segments cs ≠ [] := by
  cases cs with
  | nil => exact List.cons_ne_nil _ _
  | cons c cs =>
    unfold segments
    split
    · split_ifs <;> exact List.cons_ne_nil _ _
    · exact List.cons_ne_nil _ _

lemma segments_append (cs ds : List Char) :
    segments (cs ++ '/' :: ds) = segments cs ++ segments ds := by
  induction cs with
  | nil =>
    obtain ⟨s, ss, hs⟩ := List.exists_cons_of_ne_nil (segments_ne_nil ds)
    simp [segments, hs]
  | cons c cs ih =>
    obtain ⟨s, ss, hs⟩ := List.exists_cons_of_ne_nil (segments_ne_nil cs)
    rw [List.cons_append, segments, ih, segments, hs]
    simp only [List.cons_append]
    split_ifs <;> rfl

lemma segments_single {cs : List Char} (h : '/' ∉ cs) : segments cs = [cs] := by
  induction cs with
  | nil => rfl
  | cons c cs ih =>
    rw [List.mem_cons, not_or] at h
    rw [segments, ih h.2]
    simp [Ne.symm h.1]

def parts (path : String) : List String := (segments path.toList).map String.ofList

lemma parts_append (a b : String) : parts (a ++ "/" ++ b) = parts a ++ parts b := by
  have hl : (a ++ "/" ++ b).toList = a.toList ++ '/' :: b.toList := by simp
  rw [parts, hl, segments_append, List.map_append]
  rfl

lemma parts_single {s : String} (h : '/' ∉ s.toList) : parts s = [s] := by
  rw [parts, segments_single h]
  simp

lemma parts_trunks : parts "/sip/trunks" = ["", "sip", "trunks"] := by decide

lemma parts_rules : parts "/sip/dispatch-rules" = ["", "sip", "dispatch-rules"] := by decide

lemma parts_participants : parts "/sip/participants" = ["", "sip", "participants"] := by decide

structure Leads (q : HttpRequest) (x : Resource) (line : Option String) (a : Action) : Prop where
  resource : Resource.ofPath? q.path = some x
  method : q.method ∈ x.methods
  plain : q.method ≠ "OPTIONS" ∧ q.method ≠ "HEAD"
  verdict : x.verdict q = .perform line a

section

variable {q : HttpRequest} {α : Type}

lemma Carries.read {c : Codec α} {form : α} (h : Carries q c form) : readBody c q = .ok form := by
  simp [readBody, h.json, h.short, h.form, Except.mapError]

lemma Names.found {start id : String} (h : Names q start "" id) : ∃ segment, segment ≠ "" ∧
    readId segment = .ok id ∧
      Resource.ofPath? q.path = Resource.ofSegments? (parts start ++ [segment]) := by
  obtain ⟨segment, hp, hne, hs, hd⟩ := h
  rw [String.append_empty] at hp
  refine ⟨segment, hne rfl, by simp [readId, hd], ?_⟩
  rw [hp, ← parts_single hs, ← parts_append]
  rfl

lemma Names.found_under {start id : String} (h : Names q start "/dtmf" id) : ∃ segment,
    readId segment = .ok id ∧
      Resource.ofPath? q.path = Resource.ofSegments? (parts start ++ [segment] ++ ["dtmf"]) := by
  obtain ⟨segment, hp, -, hs, hd⟩ := h
  have hl : ("/dtmf" : String) = "/" ++ "dtmf" := by decide
  have hn : '/' ∉ ("dtmf" : String).toList := by decide
  refine ⟨segment, by simp [readId, hd], ?_⟩
  rw [hp, hl, ← String.append_assoc, ← parts_single hs, ← parts_append, ← parts_single hn,
    ← parts_append]
  rfl

end

lemma carries_encode {α : Type} {c : Codec α} {levels : ℕ} {form : α} (h : c.ReadsBack levels form)
    (hl : levels ≤ depthLimit) (hs : (c.encode form).length ≤ bodyLimit) (method target : String) :
    Carries ⟨method, target, some "application/json", c.encode form⟩ c form where
  json := by cbv
  short := hs
  form := by
    have hr := h.reads depthLimit hl []
    rw [List.append_nil] at hr
    simp [readFront, Codec.encode, hr, Except.map]

example : (⟨"POST", "/sip/trunks", some "application/json; a=\"é\"", []⟩ : HttpRequest).isJson =
    false := by decide +kernel

example : (⟨"POST", "/sip/trunks", some "application/json; a=\"\"\"", []⟩ : HttpRequest).isJson =
    true := by cbv

lemma trunkForm_readsBack (f : TrunkForm) : TrunkForm.codec.ReadsBack 3 f :=
  record_readsBack (by decide) (by decide)
    ⟨list_readsBack le_rfl _ fun a _ => string_readsBack _ a, string_readsBack _ _,
      string_readsBack _ _, string_readsBack _ _, string_readsBack _ _, string_readsBack _ _,
      trivial⟩ rfl

lemma leads_of_method {q : HttpRequest} {m : String} {x : Resource} {line : Option String}
    {a : Action} (hm : q.method = m) (hx : m ∈ x.methods) (hp : m ≠ "OPTIONS" ∧ m ≠ "HEAD")
    (hr : Resource.ofPath? q.path = some x) (hv : x.verdict q = .perform line a) :
    Leads q x line a where
  resource := hr
  method := hm ▸ hx
  plain := hm ▸ hp
  verdict := hv

lemma createTrunk_leads {q : HttpRequest} {r : TrunkRequest} (h : Asks q (.createTrunk r)) :
    Leads q .trunks (some "API: Creating SIP trunk") (.createTrunk r) := by
  cases h with
  | createTrunk f hm hp hb =>
    refine leads_of_method hm (.head _) (by decide) (by rw [hp]; decide) ?_
    simp only [Resource.verdict, hm, if_true, hb.read]
    rfl

theorem Asks.leads {q : HttpRequest} {a : Action} (h : Asks q a) :
    ∃ x line, Leads q x line a := by
  cases h with
  | createTrunk f hm hp hb => exact ⟨_, _, createTrunk_leads (.createTrunk f hm hp hb)⟩
  | listTrunks hm hp =>
    refine ⟨.trunks, none, leads_of_method hm (.tail _ (.head _)) (by decide)
      (by rw [hp]; decide) ?_⟩
    simp [Resource.verdict, hm]
  | deleteTrunk id hm hn =>
    obtain ⟨segment, hne, hid, hp⟩ := hn.found
    refine ⟨.trunk segment, some ("API: Deleting SIP trunk " ++ id),
      leads_of_method hm (.head _) (by decide) ?_ ?_⟩
    · simp [hp, parts_trunks, Resource.ofSegments?, hne]
    · simp only [Resource.verdict, hid]
      rfl
  | createRule f hm hp hb =>
    refine ⟨.rules, some "API: Creating SIP dispatch rule",
      leads_of_method hm (.head _) (by decide) (by rw [hp]; decide) ?_⟩
    simp only [Resource.verdict, hm, if_true, hb.read]
    rfl
  | listRules hm hp =>
    refine ⟨.rules, none, leads_of_method hm (.tail _ (.head _)) (by decide)
      (by rw [hp]; decide) ?_⟩
    simp [Resource.verdict, hm]
  | deleteRule id hm hn =>
    obtain ⟨segment, hne, hid, hp⟩ := hn.found
    refine ⟨.rule segment, some ("API: Deleting SIP dispatch rule " ++ id),
      leads_of_method hm (.head _) (by decide) ?_ ?_⟩
    · simp [hp, parts_rules, Resource.ofSegments?, hne]
    · simp only [Resource.verdict, hid]
      rfl
  | matchCall f hm hp hb =>
    refine ⟨.dispatch, none, leads_of_method hm (.head _) (by decide) (by rw [hp]; decide) ?_⟩
    simp only [Resource.verdict, hb.read]
    rfl
  | createParticipant f hm hp hb =>
    refine ⟨.participants, some ("API: Creating SIP participant in room " ++ f.room),
      leads_of_method hm (.head _) (by decide) (by rw [hp]; decide) ?_⟩
    simp only [Resource.verdict, hm, if_true, hb.read]
    rfl
  | listParticipants hm hp =>
    refine ⟨.participants, none, leads_of_method hm (.tail _ (.head _)) (by decide)
      (by rw [hp]; decide) ?_⟩
    simp [Resource.verdict, hm]
  | deleteParticipant id hm hn =>
    obtain ⟨segment, hne, hid, hp⟩ := hn.found
    refine ⟨.participant segment, some ("API: Deleting SIP participant " ++ id),
      leads_of_method hm (.head _) (by decide) ?_ ?_⟩
    · simp [hp, parts_participants, Resource.ofSegments?, hne]
    · simp only [Resource.verdict, hid]
      rfl
  | sendDigits id f hm hn hb =>
    obtain ⟨segment, hid, hp⟩ := hn.found_under
    refine ⟨.tones segment, none, leads_of_method hm (.head _) (by decide) ?_ ?_⟩
    · simp [hp, parts_participants, Resource.ofSegments?]
    · simp only [Resource.verdict, hid, hb.read]
      rfl

end Switchboard.Api
