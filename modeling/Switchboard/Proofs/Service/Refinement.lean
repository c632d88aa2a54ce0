import Switchboard.Proofs.Service.Mirrors
import Switchboard.Proofs.Service.Yields

/-! Actions on a store of documents come to what they come to on a directory of records. -/

namespace Switchboard.Service

open Store Time Operation

variable {ε : Type} {w : Surroundings ε} {e : ε} {m : Memory} {d : Directory} {k : Kind}

lemma yields_request (verb id : String) (r : Store.Request) :
    (k.entity.request verb id r).Yields w.calm.world (e, m)
      ((m.serve r).outcome.mapError (·.within (k.name ++ " " ++ verb ++ " " ++ id)))
      (e, (m.serve r).store) := by
  have hs : (Operation.store r).Yields w.calm.world (e, m) (m.serve r).outcome
      (e, (m.serve r).store) := yields_ask rfl
  simpa only [Entity.request, entity_kind] using
    hs.within (k.entity.kind.name ++ " " ++ verb ++ " " ++ id)

namespace Mirrors

lemma yields_find (h : Mirrors m d) (k : Kind) (id : String) :
    (k.entity.find id).Yields w.calm.world (e, m) (.ok (d k)[id]?) (e, m) := by
  have hg : (Operation.store (.get k id)).Yields w.calm.world (e, m) (.ok (m.get? k id)) (e, m) :=
    yields_ask rfl
  refine hg.find ?_
  rw [h.held]
  cases hr : (d k)[id]? with
  | none => rfl
  | some r => simp [decode_document (h.proper k id r hr).2]

lemma yields_load (h : Mirrors m d) (k : Kind) (id : String) :
    (k.entity.load id).Yields w.calm.world (e, m) (d.find k id) (e, m) := by
  have hl := (h.yields_find (w := w) (e := e) k id).load
  unfold Directory.find
  cases hr : (d k)[id]? <;> rwa [hr] at hl

lemma yields_list (h : Mirrors m d) (k : Kind) :
    k.entity.list.Yields w.calm.world (e, m) (.ok (d.records k)) (e, m) := by
  have hl : (Operation.store (.list k)).Yields w.calm.world (e, m)
      (.ok ((d.records k).map k.document)) (e, m) := by
    rw [← h.documents k]
    exact yields_ask rfl
  exact hl.list (decodeAll_documents _ fun r hr => (h.proper k _ r ((h.mem_records r).mp hr)).2)

lemma yields_insert_taken (h : Mirrors m d) {r : k.Record}
    (ht : (d k).contains (k.entity.id r) = true) :
    (k.entity.insert r).Yields w.calm.world (e, m) (.error (.alreadyExists
      (k.name ++ " insert " ++ k.entity.id r ++ ": " ++ k.title (k.entity.id r)))) (e, m) := by
  have hi := yields_request (w := w) (e := e) (m := m) (k := k) "insert" (k.entity.id r)
    (.insert k (k.entity.id r) (k.document r))
  have hs : m.serve (.insert k (k.entity.id r) (k.document r)) =
      ⟨.error (.alreadyExists (k.title (k.entity.id r))), [], m⟩ := by
    simp [Memory.serve, h.contains_eq, ht]
  have hv : " insert " = " " ++ "insert" ++ " " := by decide
  have hm : Failure.alreadyExists
      (k.name ++ " insert " ++ k.entity.id r ++ ": " ++ k.title (k.entity.id r)) =
      (Failure.alreadyExists (k.title (k.entity.id r))).within
        (k.name ++ " " ++ "insert" ++ " " ++ k.entity.id r) := by
    simp [hv, Failure.within, Failure.alreadyExists, String.append_assoc]
  rw [hs] at hi
  unfold Entity.insert
  rw [entity_kind, hm]
  exact hi

lemma yields_insert (h : Mirrors m d) {r : k.Record}
    (ht : (d k).contains (k.entity.id r) = false) :
    (k.entity.insert r).Yields w.calm.world (e, m) (.ok ())
      (e, (Write.put k (k.entity.id r) (k.document r)).apply m) := by
  have hi := yields_request (w := w) (e := e) (m := m) (k := k) "insert" (k.entity.id r)
    (.insert k (k.entity.id r) (k.document r))
  have hs : m.serve (.insert k (k.entity.id r) (k.document r)) =
      ⟨.ok (), [⟨.debug, "Stored " ++ k.title (k.entity.id r)⟩],
        (Write.put k (k.entity.id r) (k.document r)).apply m⟩ := by
    simp [Memory.serve, h.contains_eq, ht, Write.apply]
  rw [hs] at hi
  unfold Entity.insert
  rw [entity_kind]
  exact hi

lemma yields_delete (h : Mirrors m d) {r : k.Record} {id : String} (hr : (d k)[id]? = some r) :
    (k.entity.delete r).Yields w.calm.world (e, m) (.ok ()) (e, (Write.drop k id).apply m) := by
  obtain ⟨rfl, -⟩ := h.proper k id r hr
  have hi := yields_request (w := w) (e := e) (m := m) (k := k) "delete" (k.entity.id r)
    (.delete k (k.entity.id r))
  have hs : m.serve (.delete k (k.entity.id r)) =
      ⟨.ok true, [⟨.debug, "Removed " ++ k.title (k.entity.id r)⟩],
        (Write.drop k (k.entity.id r)).apply m⟩ := by
    simp [Memory.serve, h.contains_eq, Std.TreeMap.contains_eq_isSome_getElem?, hr, Write.apply]
  rw [hs] at hi
  unfold Entity.delete
  rw [entity_kind]
  exact hi.bind (yields_pure () _)

end Mirrors

variable {α β : Type}

def Follows (w : Surroundings ε) (op : Operation α) (s : ε × Memory)
    (result : Outcome α × ε × Directory) : Prop :=
  ∃ m, op.Yields w.calm.world s result.1 (result.2.1, m) ∧ Mirrors m result.2.2

lemma Follows.after {op : Operation α} {next : α → Operation β} {s s' : ε × Memory} {a : α}
    {result : Outcome β × ε × Directory} (h : Follows w (next a) s' result)
    (hy : op.Yields w.calm.world s (.ok a) s') : Follows w (op >>= next) s result := by
  obtain ⟨m, hn, hm⟩ := h
  exact ⟨m, hy.bind hn, hm⟩

lemma follows_error {op : Operation α} {next : α → Operation β} {f : Failure} (h : Mirrors m d)
    (hy : op.Yields w.calm.world (e, m) (.error f) (e, m)) :
    Follows w (op >>= next) (e, m) (.error f, e, d) :=
  ⟨m, hy.bind_error, h⟩

lemma yields_outcome {o o' : Outcome α} (h : o = o') (s : ε × Memory) :
    (ofOutcome o).Yields w.calm.world s o' s :=
  h ▸ yields_ofOutcome o s

lemma yields_given (start : String) :
    (allocate start).Yields w.calm.world (e, m) (.ok (w.allocate start e).1)
      ((w.allocate start e).2, m) :=
  yields_allocate _ _

lemma yields_now : clock.Yields w.calm.world (e, m) (.ok (w.clock e)) (e, m) := yields_clock _

lemma follows_create (h : Mirrors m d) {r : k.Record} (hs : k.Storable r) (level : Level)
    (text : String) :
    Follows w (do k.entity.insert r; note level text; return r) (e, m)
      ((d.add k r).1, e, (d.add k r).2) := by
  cases ht : (d k).contains (k.entity.id r) with
  | true =>
    rw [Directory.add_taken ht]
    exact follows_error h (h.yields_insert_taken ht)
  | false =>
    have hf : m.get? k (k.entity.id r) = none :=
      (Table.contains_eq_false _ _).mp ((h.contains_eq k _).trans ht)
    rw [Directory.add_fresh ht]
    exact ⟨_, (h.yields_insert ht).bind ((yields_note _ _ _).bind (yields_pure r _)), h.add hs hf⟩

lemma follows_remove (h : Mirrors m d) (id : String) (check : k.Record → Outcome Unit)
    (objection : Option Failure) (level : Level) (text : k.Record → String)
    (hc : ∀ r, (d k)[id]? = some r → check r = match objection with
      | some f => .error f
      | none => .ok ()) :
    Follows w (do let r ← k.entity.remove id check; note level (text r); return r) (e, m)
      ((d.remove k id objection).1, e, (d.remove k id objection).2) := by
  have hl := h.yields_load (w := w) (e := e) k id
  unfold Directory.remove Entity.remove
  unfold Directory.find at *
  cases hr : (d k)[id]? with
  | none =>
    simp only [hr] at hl ⊢
    exact follows_error h hl.bind_error
  | some r =>
    simp only [hr] at hl ⊢
    have hcr := hc r hr
    cases objection with
    | some f => exact follows_error h (hl.bind (yields_outcome hcr _).bind_error)
    | none =>
      refine ⟨_, (hl.bind ((yields_outcome hcr _).bind ((h.yields_delete hr).bind
        (yields_pure r _)))).bind ((yields_note _ _ _).bind (yields_pure r _)), h.remove k id⟩

lemma yields_missingTrunks (h : Mirrors m d) (ids : List String) :
    (missingTrunks ids).Yields w.calm.world (e, m) (.ok (d.missing ids)) (e, m) := by
  induction ids with
  | nil => exact yields_pure [] _
  | cons id ids ih =>
    have hm : d.missing (id :: ids) =
        if (d .trunk)[id]?.isSome then d.missing ids else id :: d.missing ids := by
      rw [Directory.missing, List.filter_cons, Std.TreeMap.contains_eq_isSome_getElem?]
      cases (d .trunk)[id]?.isSome <;> rfl
    rw [hm]
    exact (h.yields_find .trunk id).bind (ih.bind (yields_pure _ _))

section

variable (h : Mirrors m d) (limit : Span) (controlled : Bool)
include h

lemma follows_createTrunk (r : TrunkRequest) :
    Follows w (createTrunk r) (e, m)
      (Directory.perform w limit controlled (.createTrunk r) (e, d)) := by
  simp only [Directory.perform, createTrunk]
  cases hc : r.check with
  | error f => exact follows_error h (yields_outcome rfl _)
  | ok u =>
    refine Follows.after ?_ (yields_outcome rfl _)
    refine Follows.after ?_ (yields_given _)
    exact follows_create (k := .trunk) h trivial _ _

lemma follows_createRule (r : RuleRequest) :
    Follows w (createRule r) (e, m)
      (Directory.perform w limit controlled (.createRule r) (e, d)) := by
  simp only [Directory.perform, createRule]
  cases hc : r.check with
  | error f => exact follows_error h (yields_outcome rfl _)
  | ok u =>
    refine Follows.after ?_ (yields_outcome rfl _)
    refine Follows.after ?_ (yields_given _)
    refine Follows.after ?_ (yields_missingTrunks h _)
    by_cases hm : d.missing (Rule.ofRequest (w.allocate "SDR_" e).1 r).trunkIds = []
    · simp only [hm, List.isEmpty_nil, Bool.not_true, Bool.false_eq_true, if_false, if_true]
      exact follows_create (k := .rule) h trivial _ _
    · have hn :
          (d.missing (Rule.ofRequest (w.allocate "SDR_" e).1 r).trunkIds).isEmpty = false := by
        simpa using hm
      simp only [hm, hn, Bool.not_false, if_true, if_false]
      exact ⟨m, (yields_throw _ _).bind_error, h⟩

lemma follows_createParticipant (r : ParticipantRequest) :
    Follows w (createParticipant r) (e, m)
      (Directory.perform w limit controlled (.createParticipant r) (e, d)) := by
  simp only [Directory.perform, createParticipant]
  cases hc : r.check with
  | error f => exact follows_error h (yields_outcome rfl _)
  | ok u =>
    refine Follows.after ?_ (yields_outcome rfl _)
    refine Follows.after ?_ (h.yields_find .trunk r.trunkId)
    rw [Std.TreeMap.contains_eq_isSome_getElem?]
    cases hr : (d .trunk)[r.trunkId]? with
    | none => exact ⟨m, yields_throw _ _, h⟩
    | some t =>
      simp only [Option.isNone_some, Option.isSome_some, Bool.false_eq_true, if_false, if_true]
      refine Follows.after ?_ (yields_given _)
      refine Follows.after ?_ (yields_given _)
      refine Follows.after ?_ yields_now
      exact follows_create (k := .participant) h (show Timestamp.Valid _ from (w.clock _).2) _ _

lemma follows_deleteTrunk (id : String) :
    Follows w (deleteTrunk id) (e, m)
      (Directory.perform w limit controlled (.deleteTrunk id) (e, d)) := by
  simp only [Directory.perform, deleteTrunk]
  refine Follows.after ?_ (h.yields_list .rule)
  refine follows_remove (k := .trunk) h id _ _ _ _ fun t ht => ?_
  obtain ⟨hi, -⟩ := h.proper .trunk id t ht
  have hf : (d.records .rule).filter (·.references id) = d.naming id := rfl
  rw [Directory.objection, unreferenced, show t.id = id from hi, hf]
  by_cases hn : d.naming id = []
  · rw [if_pos hn, if_pos (List.isEmpty_iff.mpr hn)]
  · rw [if_neg hn, if_neg fun hc => hn (List.isEmpty_iff.mp hc)]

lemma follows_matchCall (call : Call) :
    Follows w (matchCall call) (e, m)
      (Directory.perform w limit controlled (.matchCall call) (e, d)) := by
  simp only [Directory.perform, matchCall]
  refine Follows.after ?_ (h.yields_list .trunk)
  refine Follows.after ?_ (h.yields_list .rule)
  cases hr : route (d.records .trunk) (d.records .rule) call with
  | ok decision => exact ⟨m, (yields_note _ _ _).bind (yields_pure _ _), h⟩
  | error f => exact ⟨m, (yields_note _ _ _).bind (yields_throw _ _), h⟩

lemma follows_list (k : Kind) (level : Level) (text : List k.Record → String) :
    Follows w (do let rs ← k.entity.list; note level (text rs); return rs) (e, m)
      (.ok (d.records k), e, d) :=
  ⟨m, (h.yields_list k).bind ((yields_note _ _ _).bind (yields_pure _ _)), h⟩

lemma follows_body (a : Action) (ha : ∀ id text, a ≠ .sendDigits id text) :
    Follows w (a.body ⟨true, controlled⟩) (e, m)
      (Directory.perform w limit controlled a (e, d)) := by
  cases a with
  | ping => exact ⟨m, yields_ask rfl, h⟩
  | createTrunk r => exact follows_createTrunk h limit controlled r
  | listTrunks => exact follows_list h .trunk _ _
  | deleteTrunk id => exact follows_deleteTrunk h limit controlled id
  | createRule r => exact follows_createRule h limit controlled r
  | listRules => exact follows_list h .rule _ _
  | deleteRule id => exact follows_remove (k := .rule) h id _ none _ _ fun _ _ => rfl
  | createParticipant r => exact follows_createParticipant h limit controlled r
  | listParticipants => exact follows_list h .participant _ _
  | deleteParticipant id => exact follows_remove (k := .participant) h id _ none _ _ fun _ _ => rfl
  | sendDigits id text => exact absurd rfl (ha id text)
  | matchCall call => exact follows_matchCall h limit controlled call

end

def Agree (x : Outcome α × ε × Memory) (y : Outcome α × ε × Directory) : Prop :=
  x.1 = y.1 ∧ x.2.1 = y.2.1 ∧ Mirrors x.2.2 y.2.2

lemma Follows.agrees {a : Action} {limit : Span} {controlled : Bool}
    {result : Outcome a.Result × ε × Directory}
    (h : Follows w (a.body ⟨true, controlled⟩) (e, m) result) :
    Agree (w.calm.perform limit controlled a (e, m)) result := by
  obtain ⟨m', hy, hm⟩ := h
  have hr : (a.operation ⟨true, controlled⟩).run.run w.calm.world limit ⟨0⟩ (e, m) =
      (some result.1, result.2.1, m') := hy.run limit ⟨0⟩
  rw [Surroundings.perform, Surroundings.carryOut, hr]
  exact ⟨rfl, rfl, hm⟩

lemma send_carryOut (p : Participant) (digits : Digits) (limit : Span)
    {k : SentDigits → Operation SentDigits}
    (hk : ∀ sent s, (k sent).Yields w.calm.world s (.ok sent) s) (id text : String) :
    w.calm.carryOut limit (.sendDigits id text) (ask (.send p digits) >>= k).run (e, m) =
      ((w.deliver limit p digits e).1, (w.deliver limit p digits e).2, m) := by
  obtain ⟨next, hp, hok, hf⟩ : ∃ next, (ask (.send p digits) >>= k).run =
      .ask (.send p digits) next ∧ (∀ sent, next (.ok sent) = (k sent).run) ∧
        ∀ f, next (.error f) = .done (.error f) := ⟨_, rfl, fun _ => rfl, fun _ => rfl⟩
  have hn (o : Outcome SentDigits) (waited : Span) (s : ε × Memory) :
      (next o).run w.calm.world limit waited s = (some o, s) := by
    cases o with
    | error f => rw [hf, Plan.run]
    | ok sent =>
      rw [hok]
      exact (hk sent s).run limit waited
  have hd : w.calm.world.disturb (.send p digits) (e, m) =
      ((w.hinder (.send p digits) e).1.disturbance, (w.hinder (.send p digits) e).2, m) := rfl
  have ha (e : ε) : w.calm.world.answer (.send p digits) (e, m) =
      ((w.send p digits e).1, (w.send p digits e).2, m) := rfl
  have ht : "send_sip_participant_dtmf did not finish within " =
      "send_sip_participant_dtmf" ++ " did not finish within " := by decide
  rw [Surroundings.carryOut, hp]
  simp only [Plan.run, hd, ha, hn, Surroundings.deliver, ht]
  cases hh : w.hinder (.send p digits) e with
  | mk x e' =>
    cases x with
    | none => rfl
    | fail f => rfl
    | hang => rfl
    | delay t =>
      have hz : (⟨0⟩ : Span) + t = t := congrArg Span.mk (Nat.zero_add t.nanos)
      simp only [Hindrance.disturbance, hz]
      split_ifs <;> rfl

lemma send_agrees (h : Mirrors m d) (p : Participant) (digits : Digits) (limit : Span)
    {k : SentDigits → Operation SentDigits}
    (hk : ∀ sent s, (k sent).Yields w.calm.world s (.ok sent) s) (id text : String) :
    Agree (w.calm.carryOut limit (.sendDigits id text) (ask (.send p digits) >>= k).run (e, m))
      ((w.deliver limit p digits e).1, (w.deliver limit p digits e).2, d) := by
  rw [send_carryOut p digits limit hk]
  exact ⟨rfl, rfl, h⟩

lemma sendDigits_agrees (h : Mirrors m d) (limit : Span) (controlled : Bool) (id text : String) :
    Agree (w.calm.perform limit controlled (.sendDigits id text) (e, m))
      (Directory.perform w limit controlled (.sendDigits id text) (e, d)) := by
  have hl := h.yields_load (w := w) (e := e) .participant id
  simp only [Directory.perform]
  cases hp : Digits.parse text with
  | error f => exact Follows.agrees (follows_error h (yields_outcome hp _))
  | ok digits =>
    have hy : (ofOutcome (Digits.parse text)).Yields w.calm.world (e, m) (.ok digits) (e, m) :=
      yields_outcome hp _
    cases hf : d.find .participant id with
    | error f =>
      rw [hf] at hl
      exact Follows.agrees (Follows.after (follows_error h hl) hy)
    | ok p =>
      rw [hf] at hl
      cases controlled with
      | false =>
        exact Follows.agrees (Follows.after (Follows.after ⟨m, yields_throw _ _, h⟩ hl) hy)
      | true =>
        have hr : ((Action.sendDigits id text).operation ⟨true, true⟩).run.run w.calm.world limit
            ⟨0⟩ (e, m) = _ := (hy.run_bind _ limit ⟨0⟩).trans (hl.run_bind _ limit ⟨0⟩)
        rw [Surroundings.perform, Surroundings.carryOut, hr]
        exact send_agrees h p digits limit
          (fun sent s => (yields_note _ _ s).bind (yields_pure sent _)) id text

theorem perform_agrees (h : Mirrors m d) (limit : Span) (controlled : Bool) (a : Action) :
    Agree (w.calm.perform limit controlled a (e, m))
      (Directory.perform w limit controlled a (e, d)) := by
  -- a channel may keep an action waiting, so sending is no step of the kind the others are
  by_cases ha : ∀ id text, a ≠ .sendDigits id text
  · exact (follows_body h limit controlled a ha).agrees
  · push Not at ha
    obtain ⟨id, text, rfl⟩ := ha
    exact sendDigits_agrees h limit controlled id text

def results {σ : Type} (step : (a : Action) → σ → Outcome a.Result × σ) :
    List Action → σ → List (Σ a : Action, Outcome a.Result)
  | [], _ => []
  | a :: as, s => ⟨a, (step a s).1⟩ :: results step as (step a s).2

lemma results_eq_of_mirrors (h : Mirrors m d) (limit : Span) (controlled : Bool)
    (as : List Action) :
    results (w.calm.perform limit controlled) as (e, m) =
      results (Directory.perform w limit controlled) as (e, d) := by
  induction as generalizing e m d with
  | nil => rfl
  | cons a as ih =>
    obtain ⟨ho, he, hm⟩ := perform_agrees (w := w) (e := e) h limit controlled a
    have hr := ih (e := (w.calm.perform limit controlled a (e, m)).2.1) hm
    rw [results, results, ho]
    refine congrArg _ (hr.trans ?_)
    rw [he]

/-- A run on a store that was empty gives what it gives on an empty directory. -/
theorem results_eq (w : Surroundings ε) (limit : Span) (controlled : Bool) (as : List Action)
    (e : ε) :
    results (w.calm.perform limit controlled) as (e, Memory.empty) =
      results (Directory.perform w limit controlled) as (e, Directory.empty) :=
  results_eq_of_mirrors .empty limit controlled as

end Switchboard.Service
