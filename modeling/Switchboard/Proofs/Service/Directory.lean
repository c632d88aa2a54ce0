import Switchboard.Proofs.Service.Documents
import Switchboard.Proofs.Service.Surroundings
import Switchboard.Proofs.Text.Precedence

/-! What the actions do to a registry of records, told without a store: a record is under its id in
a map for its kind, and an action is one step. -/

namespace Switchboard.Service

open Store Time Text

abbrev Shelf (k : Kind) : Type := Std.TreeMap String k.Record (compareOn octets)

abbrev Directory : Type := (k : Kind) → Shelf k

namespace Directory

variable (d : Directory) (k : Kind)

def empty : Directory := fun _ => ∅

def records : List k.Record := (d k).toList.map Prod.snd

def add (r : k.Record) : Outcome k.Record × Directory :=
  let id := k.entity.id r
  if (d k).contains id then
    (.error (.alreadyExists (k.name ++ " insert " ++ id ++ ": " ++ k.title id)), d)
  else (.ok r, Function.update d k ((d k).insert id r))

variable {d k} in
lemma add_taken {r : k.Record} (h : (d k).contains (k.entity.id r) = true) :
    d.add k r = (.error (.alreadyExists
      (k.name ++ " insert " ++ k.entity.id r ++ ": " ++ k.title (k.entity.id r))), d) :=
  if_pos h

variable {d k} in
lemma add_fresh {r : k.Record} (h : (d k).contains (k.entity.id r) = false) :
    d.add k r = (.ok r, Function.update d k ((d k).insert (k.entity.id r) r)) :=
  if_neg (by simp [h])

def find (id : String) : Outcome k.Record :=
  match (d k)[id]? with
  | some r => .ok r
  | none => .error (.notFound (k.title id))

def remove (id : String) (objection : Option Failure) : Outcome k.Record × Directory :=
  match d.find k id, objection with
  | .error f, _ => (.error f, d)
  | .ok _, some f => (.error f, d)
  | .ok r, none => (.ok r, Function.update d k ((d k).erase id))

def naming (id : String) : List Rule := (d.records .rule).filter (id ∈ ·.trunkIds)

def objection (id : String) : Option Failure :=
  if d.naming id = [] then none
  else some (.failedPrecondition ("trunk " ++ id ++ " is referenced by dispatch rules " ++
    String.intercalate ", " ((d.naming id).map Rule.id)))

def missing (ids : List String) : List String := ids.filter fun id => !(d .trunk).contains id

end Directory

variable {ε : Type}

def Surroundings.deliver (w : Surroundings ε) (limit : Span) (p : Participant) (digits : Digits)
    (e : ε) : Outcome SentDigits × ε :=
  let late : Failure :=
    .deadlineExceeded ("send_sip_participant_dtmf did not finish within " ++ limit.text)
  match w.hinder (.send p digits) e with
  | (.none, e) => w.send p digits e
  | (.fail f, e) => (.error f, e)
  | (.hang, e) => (.error late, e)
  | (.delay t, e) => if limit < t then (.error late, e) else w.send p digits e

def Directory.perform (w : Surroundings ε) (limit : Span) (controlled : Bool) :
    (a : Action) → ε × Directory → Outcome a.Result × ε × Directory
  | .ping, (e, d) => (.ok (), e, d)
  | .createTrunk r, (e, d) =>
    match r.check with
    | .error f => (.error f, e, d)
    | .ok () =>
      let (id, e) := w.allocate "ST_" e
      let (o, d) := d.add .trunk (.ofRequest id r)
      (o, e, d)
  | .listTrunks, (e, d) => (.ok (d.records .trunk), e, d)
  | .deleteTrunk id, (e, d) =>
    let (o, d) := d.remove .trunk id (d.objection id)
    (o, e, d)
  | .createRule r, (e, d) =>
    match r.check with
    | .error f => (.error f, e, d)
    | .ok () =>
      let (id, e) := w.allocate "SDR_" e
      let rule := Rule.ofRequest id r
      if d.missing rule.trunkIds = [] then
        let (o, d) := d.add .rule rule
        (o, e, d)
      else
        (.error (.invalidArgument ("unknown trunk ids: " ++
          String.intercalate ", " (d.missing rule.trunkIds))), e, d)
  | .listRules, (e, d) => (.ok (d.records .rule), e, d)
  | .deleteRule id, (e, d) =>
    let (o, d) := d.remove .rule id none
    (o, e, d)
  | .createParticipant r, (e, d) =>
    match r.check with
    | .error f => (.error f, e, d)
    | .ok () =>
      if (d .trunk).contains r.trunkId then
        let (id, e) := w.allocate "SP_" e
        let (callId, e) := w.allocate "SCL_" e
        let (o, d) := d.add .participant (.ofRequest id callId (w.clock e) r)
        (o, e, d)
      else (.error (.invalidArgument ("unknown trunk id: " ++ r.trunkId)), e, d)
  | .listParticipants, (e, d) => (.ok (d.records .participant), e, d)
  | .deleteParticipant id, (e, d) =>
    let (o, d) := d.remove .participant id none
    (o, e, d)
  | .sendDigits id text, (e, d) =>
    match Digits.parse text, d.find .participant id with
    | .error f, _ => (.error f, e, d)
    | .ok _, .error f => (.error f, e, d)
    | .ok digits, .ok p =>
      if controlled then
        let (o, e) := w.deliver limit p digits e
        (o, e, d)
      else (.error (.unimplemented "DTMF delivery needs a call control channel"), e, d)
  | .matchCall call, (e, d) => (route (d.records .trunk) (d.records .rule) call, e, d)

lemma trunkRequest_check_kind {r : TrunkRequest} {f : Failure} (h : r.check = .error f) :
    f.kind = .invalidArgument := by
  unfold TrunkRequest.check numberMatcher? numberMatcher at h
  split_ifs at h with ha hp
  · cases h
    rfl
  · cases h
  · cases hm : Matcher.ofText r.numberPattern with
    | ok m => simp [hm, Except.map, Except.mapError] at h
    | error fault =>
      simp only [hm, Except.map, Except.mapError, Except.error.injEq] at h
      subst h
      rfl

lemma ruleRequest_check_kind {r : RuleRequest} {f : Failure} (h : r.check = .error f) :
    f.kind = .invalidArgument := by
  unfold RuleRequest.check at h
  split_ifs at h <;> cases h <;> rfl

lemma participantRequest_check_kind {r : ParticipantRequest} {f : Failure}
    (h : r.check = .error f) : f.kind = .invalidArgument := by
  unfold ParticipantRequest.check at h
  split_ifs at h <;> cases h <;> rfl

lemma Directory.add_kind {d : Directory} {k : Kind} {r : k.Record} {f : Failure}
    (h : (d.add k r).1 = .error f) : f.kind = .alreadyExists := by
  cases ht : (d k).contains (k.entity.id r) with
  | true =>
    rw [add_taken ht] at h
    cases h
    rfl
  | false =>
    rw [add_fresh ht] at h
    cases h

def Action.creates : Action → Prop
  | createTrunk _ | createRule _ | createParticipant _ => True
  | _ => False

theorem Directory.create_refused {w : Surroundings ε} {limit : Span} {controlled : Bool}
    {a : Action} (ha : a.creates) {e : ε} {d : Directory} {f : Failure}
    (h : (perform w limit controlled a (e, d)).1 = .error f) :
    f.kind = .invalidArgument ∨ f.kind = .alreadyExists := by
  cases a with
  | createTrunk r =>
    simp only [perform] at h
    cases hc : r.check with
    | error g =>
      simp only [hc, Except.error.injEq] at h
      exact .inl (h ▸ trunkRequest_check_kind hc)
    | ok u =>
      simp only [hc] at h
      exact .inr (add_kind h)
  | createRule r =>
    simp only [perform] at h
    cases hc : r.check with
    | error g =>
      simp only [hc, Except.error.injEq] at h
      exact .inl (h ▸ ruleRequest_check_kind hc)
    | ok u =>
      simp only [hc] at h
      split_ifs at h
      · exact .inr (add_kind h)
      · cases h
        exact .inl rfl
  | createParticipant r =>
    simp only [perform] at h
    cases hc : r.check with
    | error g =>
      simp only [hc, Except.error.injEq] at h
      exact .inl (h ▸ participantRequest_check_kind hc)
    | ok u =>
      simp only [hc] at h
      split_ifs at h
      · exact .inr (add_kind h)
      · cases h
        exact .inl rfl
  | _ => exact absurd ha id

end Switchboard.Service
