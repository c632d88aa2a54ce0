import Switchboard.Proofs.Registry.Rearrangements
import Switchboard.Proofs.Service.Brevity
import Switchboard.Proofs.Service.Causes

/-! Actions without a store, and on one that cannot be reached. Without a store nothing is even
looked at. A closed pool is told of nothing but the first request, so an action comes as far as its
own checks, and the answer is theirs or that the store is not ready. -/

namespace Switchboard

open Json Store Time

lemma document_json (k : Kind) (r : k.Record) :
    Tree.ofOctets? (k.document r) = some (k.form r) := by
  rw [document_eq]
  exact ofOctets?_write (form_fits_depth k r)

namespace Service

variable {σ α β : Type}

def Action.check : Action → Outcome Unit
  | createTrunk r => r.check
  | createRule r => r.check
  | createParticipant r => r.check
  | sendDigits _ text => (Digits.parse text).map fun _ => ()
  | _ => .ok ()

lemma parse_of_check_error {id text : String} {f : Failure}
    (h : (Action.sendDigits id text).check = .error f) : Digits.parse text = .error f := by
  unfold Action.check at h
  cases hd : Digits.parse text with
  | error g => simpa [hd, Except.map] using h
  | ok digits => simp [hd, Except.map] at h

lemma parse_of_check_ok {id text : String} (h : (Action.sendDigits id text).check = .ok ()) :
    ∃ digits, Digits.parse text = .ok digits := by
  unfold Action.check at h
  cases hd : Digits.parse text with
  | error g => simp [hd, Except.map] at h
  | ok digits => exact ⟨digits, rfl⟩

lemma action_check_kind {a : Action} {f : Failure} (h : a.check = .error f) :
    f.kind = .invalidArgument := by
  cases a with
  | createTrunk r => exact trunkRequest_check_kind h
  | createRule r => exact ruleRequest_check_kind h
  | createParticipant r => exact participantRequest_check_kind h
  | sendDigits id text => exact digits_parse_kind (parse_of_check_error h)
  | _ => cases h

def Plan.Refused : Plan α → Prop
  | .done _ => False
  | .ask (.store r) _ => (ClosedPool.serve r).outcome = .error ClosedPool.unavailable
  | .ask (.send _ _) _ => False
  | .allocate _ next => ∀ id, (next id).Refused
  | .clock next => ∀ now, (next now).Refused
  | .note _ next => next.Refused

lemma Plan.Refused.bind {p : Plan α} (h : p.Refused) (k : α → Plan β) : (p.bind k).Refused := by
  induction p with
  | done a => exact absurd h id
  | ask r next ih =>
    cases r with
    | store r => exact h
    | send p d => exact absurd h id
  | allocate start next ih => exact fun id => ih id (h id)
  | clock next ih => exact fun now => ih now (h now)
  | note n next ih => exact ih h

namespace Operation

def Refused (op : Operation α) : Prop := Plan.Refused op.run

variable {op : Operation α} {next : α → Operation β} {o : Outcome α}

lemma refused_checked {a : α} (h : o = .ok a) (hn : (next a).Refused) :
    (ofOutcome o >>= next).Refused := by
  subst h
  exact hn

lemma run_checked {f : Failure} (h : o = .error f) :
    (ofOutcome o >>= next).run = .done (.error f) := by
  subst h
  rfl

lemma Refused.bind (h : op.Refused) (next : α → Operation β) : (op >>= next).Refused :=
  Plan.Refused.bind h _

lemma Refused.within (h : op.Refused) (context : String) : (op.within context).Refused :=
  Plan.Refused.bind h _

lemma refused_store {r : Store.Request}
    (h : (ClosedPool.serve r).outcome = .error ClosedPool.unavailable) :
    (Operation.store r).Refused := h

lemma refused_list (e : Entity α) : e.list.Refused := ((refused_store rfl).within _).bind _

lemma refused_find (e : Entity α) (id : String) : (e.find id).Refused :=
  ((refused_store rfl).within _).bind _

lemma refused_load (e : Entity α) (id : String) : (e.load id).Refused := (refused_find e id).bind _

lemma refused_remove (e : Entity α) (id : String) (check : α → Outcome Unit) :
    (e.remove id check).Refused := (refused_load e id).bind _

lemma refused_insert {k : Kind} (r : k.Record) : (k.entity.insert r).Refused := by
  have hs : (ClosedPool.serve (.insert k.entity.kind (k.entity.id r) (k.document r))).outcome =
      .error ClosedPool.unavailable := by
    rw [ClosedPool.serve, document_json]
    rfl
  exact (refused_store hs).within _

lemma refused_createTrunk {r : TrunkRequest} (h : r.check = .ok ()) : (createTrunk r).Refused :=
  refused_checked h fun id => (refused_insert (k := .trunk) (Trunk.ofRequest id r)).bind _

lemma refused_missingTrunks (ids : List String) {next : List String → Operation β}
    (h : (next []).Refused) : (missingTrunks ids >>= next).Refused := by
  cases ids with
  | nil => exact h
  | cons id ids => exact ((refused_find trunkEntity id).bind _).bind next

lemma refused_createRule {r : RuleRequest} (h : r.check = .ok ()) : (createRule r).Refused := by
  refine refused_checked h fun id => refused_missingTrunks _ ?_
  exact (refused_insert (k := .rule) (Rule.ofRequest id r)).bind _

lemma refused_createParticipant {r : ParticipantRequest} (h : r.check = .ok ()) :
    (createParticipant r).Refused :=
  refused_checked h ((refused_find trunkEntity r.trunkId).bind _)

lemma refused_sendDigits (q : Equipment) (id : String) {text : String} {digits : Digits}
    (h : Digits.parse text = .ok digits) : (sendDigits q id text).Refused :=
  refused_checked h ((refused_load participantEntity id).bind _)

end Operation

open Operation

theorem refused_operation (controlled : Bool) {a : Action} (h : a.check = .ok ()) :
    (a.operation ⟨true, controlled⟩).Refused := by
  change (a.body ⟨true, controlled⟩).Refused
  cases a with
  | ping => rfl
  | createTrunk r => exact refused_createTrunk h
  | listTrunks => exact (refused_list trunkEntity).bind _
  | deleteTrunk id => exact (refused_list ruleEntity).bind _
  | createRule r => exact refused_createRule h
  | listRules => exact (refused_list ruleEntity).bind _
  | deleteRule id => exact (refused_remove ruleEntity id _).bind _
  | createParticipant r => exact refused_createParticipant h
  | listParticipants => exact (refused_list participantEntity).bind _
  | deleteParticipant id => exact (refused_remove participantEntity id _).bind _
  | sendDigits id text =>
    obtain ⟨digits, hd⟩ := parse_of_check_ok h
    exact refused_sendDigits _ id hd
  | matchCall call => exact (refused_list trunkEntity).bind _

lemma operation_unchecked (controlled : Bool) {a : Action} {f : Failure} (h : a.check = .error f) :
    (a.operation ⟨true, controlled⟩).run = .done (.error f) := by
  change (a.body ⟨true, controlled⟩).run = _
  cases a with
  | createTrunk r => exact run_checked h
  | createRule r => exact run_checked h
  | createParticipant r => exact run_checked h
  | sendDigits id text => exact run_checked (parse_of_check_error h)
  | _ => cases h

structure World.Shut (w : World σ) (P : σ → Prop) : Prop where
  disturb : ∀ {s}, P s → ∀ r, (w.disturb (.store r) s).1 = .none ∧ P (w.disturb (.store r) s).2
  answer : ∀ {s}, P s → ∀ r, (w.answer (.store r) s).1 = (ClosedPool.serve r).outcome
  allocate : ∀ {s}, P s → ∀ start, P (w.allocate start s).2
  note : ∀ {s}, P s → ∀ n, P (w.note n s)

lemma Plan.Refused.run {w : World σ} {P : σ → Prop} (hw : w.Shut P) (limit : Span)
    {p : Plan (Outcome α)} {writing : Bool} (hb : p.Brief writing) (hp : p.Refused) (waited : Span)
    (record : List Exchange) {s : σ} (hs : P s) :
    ∃ r, (p.run w.watched limit waited (record, s)).1 =
        some (.error ⟨.notReady, r.tells ClosedPool.unavailable.message⟩) ∧
      (p.run w.watched limit waited (record, s)).2.1 =
        ⟨.store r, some (.error ClosedPool.unavailable)⟩ :: record := by
  induction p generalizing waited s with
  | done a => exact absurd hp id
  | ask r next ih =>
    cases r with
    | send p d => exact absurd hp id
    | store r =>
      obtain ⟨hd, hs'⟩ := hw.disturb hs r
      have ha := (hw.answer hs' r).trans hp
      refine ⟨r, ?_⟩
      simp only [Plan.run, World.watched, hd, ha, hb.1]
      exact ⟨rfl, rfl⟩
  | allocate start next ih => exact ih _ (hb _) (hp _) waited (hw.allocate hs start)
  | clock next ih => exact ih _ (hb _) (hp _) waited hs
  | note n next ih => exact ih hb hp waited (hw.note hs n)

lemma Session.shut : world.Shut fun s => s.store = some .closedPool ∧ s.faults = [] where
  disturb := by
    rintro s ⟨hs, hf⟩ r
    simp [world, Session.disturb, Store.disturb, hs, hf]
  answer := by
    rintro s ⟨hs, -⟩ r
    simp [world, Session.answer, askStore, hs, Backend.serve]
  allocate h _ := h
  note h _ := h

theorem World.Shut.perform {w : World σ} {P : σ → Prop} (hw : w.Shut P) (limit : Span)
    (controlled : Bool) (a : Action) {s : σ} (hs : P s) :
    let result := w.perform limit ⟨true, controlled⟩ a s
    match a.check with
    | .error f => result = (.error f, [], s)
    | .ok () => ∃ r, result.1 = .error ⟨.notReady, r.tells ClosedPool.unavailable.message⟩ ∧
        result.2.1 = [⟨.store r, some (.error ClosedPool.unavailable)⟩] := by
  intro result
  cases hc : a.check with
  | error f =>
    simp only [result, World.perform, operation_unchecked controlled hc]
    rfl
  | ok u =>
    obtain ⟨r, ho, hr⟩ := (refused_operation controlled hc).run hw limit
      (brief_operation ⟨true, controlled⟩ a) ⟨0⟩ [] hs
    exact ⟨r, congrArg (Session.conclude a limit) ho, hr⟩

namespace Session

lemma perform_unconnected {s : Session} (h : s.store = none) (a : Action) :
    s.perform a = (.error notConnected, account a (.error notConnected) s) := by
  have hq : s.equipment = ⟨false, s.control.isSome⟩ := by simp [equipment, h]
  rw [perform, hq]
  rfl

/-- Without a store every action fails in the same way and leaves all but the log and the counts as
they are. On a closed pool an action fails as its own checks do; if they pass, the store is not
ready, and the one request made is named. No document of a record is in the way. -/
theorem perform_unreachable (s : Session) (a : Action) :
    (s.store = none → notConnected.kind = .notReady ∧
      s.perform a = (.error notConnected, account a (.error notConnected) s) ∧
      (s.perform a).2.allocated = s.allocated) ∧
    (s.store = some .closedPool → s.faults = [] →
      (∃ f, (s.perform a).1 = .error f ∧ f.kind = match a.check with
        | .error _ => .invalidArgument
        | .ok () => .notReady) ∧
      match a.check with
      | .error f => s.perform a = (.error f, account a (.error f) s)
      | .ok () => ∃ r, (s.perform a).1 =
            .error ⟨.notReady, r.tells ClosedPool.unavailable.message⟩ ∧
          (world.perform s.limit s.equipment a s).2.1 =
            [⟨.store r, some (.error ClosedPool.unavailable)⟩]) ∧
    ∀ (k : Kind) (r : k.Record), Tree.ofOctets? (k.document r) = some (k.form r) := by
  refine ⟨fun hn => ?_, fun hp hf => ?_, document_json⟩
  · have hr := perform_unconnected hn a
    exact ⟨rfl, hr, by rw [hr]; rfl⟩
  · have hq : s.equipment = ⟨true, s.control.isSome⟩ := by simp [equipment, hp]
    have hw := shut.perform s.limit s.control.isSome a ⟨hp, hf⟩
    rw [perform_eq_world, hq]
    cases hc : a.check with
    | error f =>
      simp only [hc] at hw ⊢
      rw [hw]
      exact ⟨⟨f, rfl, action_check_kind hc⟩, rfl⟩
    | ok u =>
      simp only [hc] at hw ⊢
      obtain ⟨r, ho, hr⟩ := hw
      exact ⟨⟨_, ho, rfl⟩, r, ho, hr⟩

example :
    let s : Session := { (default : Session) with store := some .closedPool }
    (s.perform (.sendDigits "SP_1" "12#")).1 = .error (.notReady
      ("sip_participant get SP_1: Database unavailable: " ++ ClosedPool.reason)) := rfl

end Session

end Service

end Switchboard
