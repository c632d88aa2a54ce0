import Switchboard.Proofs.Api.Simulation
import Switchboard.Proofs.Service.Twins

/-! Passwords are kept from clients and from the log: two runs of requests that differ in nothing
but the passwords of trunks to create are answered the same, logged the same and counted the same. -/

namespace Switchboard.Api

open Store Time Service Operation

/-! ### Actions -/

def Shown (a a' : Action) (x : a.Result) (x' : a'.Result) : Prop := form a x = form a' x'

lemma createTrunk_twins {r r' : TrunkRequest} (h : r.veiled = r'.veiled) :
    (createTrunk r).Twins (Shown (.createTrunk r) (.createTrunk r')) (createTrunk r') := by
  have hc : r.check = r'.check := eq_of_veiled h TrunkRequest.check fun _ => rfl
  rw [createTrunk, createTrunk, hc]
  refine (twins_outcome _).bind fun _ _ _ => (twins_allocate "ST_").bind ?_
  rintro id _ rfl
  have ht : Kind.trunk.Twins (Trunk.ofRequest id r) (Trunk.ofRequest id r') :=
    eq_of_veiled h (fun r => (Trunk.ofRequest id r).veiled) fun _ => rfl
  have ha := eq_of_veiled h TrunkRequest.inboundAddresses fun _ => rfl
  refine twins_creating trunkForm (fun _ => rfl) ht .info ?_
  simp only [Trunk.ofRequest, ha]

lemma deleteTrunk_twins (id : String) :
    (deleteTrunk id).Twins (Shown (.deleteTrunk id) (.deleteTrunk id)) (deleteTrunk id) := by
  refine (twins_list (k := .rule)).bind fun rules rules' h => ?_
  obtain rfl : rules = rules' := Kind.Twins.eq_of_plain h fun _ => rfl
  exact twins_removing (k := .trunk) trunkForm (fun _ => rfl) id (fun _ => rfl) .info
    fun _ => rfl

lemma createRule_twins (r : RuleRequest) :
    (createRule r).Twins (Shown (.createRule r) (.createRule r)) (createRule r) := by
  refine (twins_outcome _).bind fun _ _ _ => (twins_allocate "SDR_").bind ?_
  rintro id _ rfl
  refine (twins_missingTrunks _).bind ?_
  rintro missing _ rfl
  by_cases hm : missing.isEmpty
  · simp only [hm]
    exact twins_creating (k := .rule) ruleForm (fun _ => rfl) rfl .info rfl
  · simp only [hm]
    exact twins_throw _

lemma createParticipant_twins (r : ParticipantRequest) :
    (createParticipant r).Twins (Shown (.createParticipant r) (.createParticipant r))
      (createParticipant r) := by
  refine (twins_outcome _).bind fun _ _ _ => (twins_find (k := .trunk) _).bind fun t t' ht => ?_
  cases ht with
  | none => exact twins_throw _
  | some h =>
    refine (twins_allocate "SP_").bind ?_
    rintro id _ rfl
    refine (twins_allocate "SCL_").bind ?_
    rintro callId _ rfl
    refine twins_clock.bind ?_
    rintro now _ rfl
    exact twins_creating (k := .participant) participantForm (fun _ => rfl) rfl .info rfl

lemma sendDigits_twins (q : Equipment) (id text : String) :
    (sendDigits q id text).Twins (Shown (.sendDigits id text) (.sendDigits id text))
      (sendDigits q id text) := by
  refine (twins_outcome _).bind ?_
  rintro digits _ rfl
  refine (twins_load (k := .participant) id).bind fun p p' h => ?_
  obtain rfl : p = p' := h
  cases hc : q.controlled with
  | false => exact twins_throw _
  | true =>
    refine (twins_ask (.send p digits)).bind fun sent sent' hs => ?_
    obtain rfl : sent = sent' := hs
    exact (twins_note _ _).bind fun _ _ _ => twins_pure rfl

lemma matchCall_twins (call : Call) :
    (matchCall call).Twins (Shown (.matchCall call) (.matchCall call)) (matchCall call) := by
  refine (twins_list (k := .trunk)).bind fun trunks trunks' ht =>
    (twins_list (k := .rule)).bind fun rules rules' hr => ?_
  obtain rfl : rules = rules' := Kind.Twins.eq_of_plain hr fun _ => rfl
  rw [route_twins ht]
  cases route trunks' rules call with
  | ok d => exact (twins_note _ _).bind fun _ _ _ => twins_pure rfl
  | error f => exact (twins_note _ _).bind fun _ _ _ => twins_throw f

lemma items_congr {α : Type} {form : α → Json.Tree} {as as' : List α}
    (h : as.map form = as'.map form) : items form as = items form as' := by
  rw [items, items, h]

theorem operation_twins (q : Equipment) {a a' : Action} (h : a.Twins a') :
    (a.operation q).Twins (Shown a a') (a'.operation q) := by
  have hc : (connect q).Twins Eq (connect q) := by
    rw [connect]
    split_ifs
    · exact twins_pure rfl
    · exact twins_throw _
  refine hc.bind fun _ _ _ => ?_
  cases h with
  | createTrunk h => exact createTrunk_twins h
  | same =>
    cases a with
    | ping => exact Twins.mono (twins_ask (.store (.same .ping))) fun _ _ _ => rfl
    | createTrunk r => exact createTrunk_twins rfl
    | listTrunks =>
      exact (twins_listing (k := .trunk) trunkForm (fun _ => rfl) .debug
        fun _ _ hl => by rw [hl]).mono fun _ _ => items_congr
    | deleteTrunk id => exact deleteTrunk_twins id
    | createRule r => exact createRule_twins r
    | listRules =>
      exact (twins_listing (k := .rule) ruleForm (fun _ => rfl) .debug
        fun _ _ hl => by rw [hl]).mono fun _ _ => items_congr
    | deleteRule id =>
      exact twins_removing (k := .rule) ruleForm (fun _ => rfl) id (fun _ => rfl) .info
        fun _ => rfl
    | createParticipant r => exact createParticipant_twins r
    | listParticipants =>
      exact (twins_listing (k := .participant) participantForm (fun _ => rfl) .debug
        fun _ _ hl => by rw [hl]).mono fun _ _ => items_congr
    | deleteParticipant id =>
      exact twins_removing (k := .participant) participantForm (fun _ => rfl) id (fun _ => rfl)
        .info fun _ => rfl
    | sendDigits id digits => exact sendDigits_twins q id digits
    | matchCall call => exact matchCall_twins call

/-! ### Outcomes -/

section

variable {a a' : Action} {o : Outcome a.Result} {o' : Outcome a'.Result}

lemma conclude_agreed (ha : a.Twins a') (limit : Span) {x : Option (Outcome a.Result)}
    {x' : Option (Outcome a'.Result)} (h : Option.Rel (Agreed (Shown a a')) x x') :
    Agreed (Shown a a') (Session.conclude a limit x) (Session.conclude a' limit x') := by
  cases h with
  | none =>
    simp only [Session.conclude, ha.name]
    exact .error _
  | some h => exact h

variable (h : Agreed (Shown a a') o o')
include h

lemma warnOf_agreed (ha : a.Twins a') : Session.warnOf a o = Session.warnOf a' o' := by
  cases h with
  | ok h => rfl
  | error f => simp only [Session.warnOf, ha.name]

lemma counted_agreed (ha : a.Twins a') (t : Metrics.Tally) :
    Session.counted a o t = Session.counted a' o' t := by
  have hl (success : String) : o.label success = o'.label success := by
    cases h <;> rfl
  cases ha with
  | createTrunk => simp only [Session.counted, hl, Action.name]
  | same => cases a <;> simp only [Session.counted, hl]

lemma complaintsOf_agreed : complaintsOf o = complaintsOf o' := by
  cases h <;> rfl

lemma respond_agreed (ha : a.Twins a') : respond a o = respond a' o' := by
  cases h with
  | error f => rfl
  | @ok x x' h =>
    have hs : successStatus a = successStatus a' := by cases ha <;> rfl
    have he : envelope a (.ok x) = envelope a' (.ok x') := by
      simp only [envelope, show form a x = form a' x' from h]
    have hw : (Envelope.codec (viewCodec a)).encode (.ofResult (view a x)) =
        (Envelope.codec (viewCodec a')).encode (.ofResult (view a' x')) :=
      (envelope_shows a x).trans ((congrArg Json.Tree.write he).trans (envelope_shows a' x').symm)
    simp only [respond, hs, hw]

end

/-! ### Hosts -/

def report (x : Σ a : Action, Outcome a.Result) : String × Outcome Json.Tree :=
  (x.1.name, x.2.map (form x.1))

lemma report_agreed {a a' : Action} {o : Outcome a.Result} {o' : Outcome a'.Result}
    (ha : a.Twins a') (h : Agreed (Shown a a') o o') : report ⟨a, o⟩ = report ⟨a', o'⟩ := by
  refine Prod.ext ha.name ?_
  cases h with
  | ok h => exact congrArg Except.ok h
  | error f => rfl

structure Host.Blind {σ : Type} (h : Host σ) (S : σ → σ → Prop) : Prop where
  perform : ∀ {a a' : Action} {s s' : σ}, a.Twins a' → S s s' →
    Agreed (Shown a a') (h.perform a s).1 (h.perform a' s').1 ∧
      S (h.perform a s).2 (h.perform a' s').2
  note : ∀ (ns : List Notice) {s s' : σ}, S s s' → S (h.note ns s) (h.note ns s')
  count : ∀ (key : Metrics.RequestKey) {s s' : σ}, S s s' → S (h.count key s) (h.count key s')
  tally : ∀ {s s' : σ}, S s s' → h.tally s = h.tally s'

inductive SessionsAlike : Session → Session → Prop
  | mk (s : Session) {m m' : Memory} (h : m.Alike m') :
    SessionsAlike { s with store := some (.memory m) } { s with store := some (.memory m') }

namespace SessionsAlike

variable {s s' : Session} (h : SessionsAlike s s')
include h

lemma equipment : s.equipment = s'.equipment := by
  cases h
  rfl

lemma limit : s.limit = s'.limit := by
  cases h
  rfl

lemma notices : s.notices = s'.notices := by
  cases h
  rfl

lemma tally : s.tally = s'.tally := by
  cases h
  rfl

lemma account {a a' : Action} {o : Outcome a.Result} {o' : Outcome a'.Result} (ha : a.Twins a')
    (ho : Agreed (Shown a a') o o') :
    SessionsAlike (Session.account a o s) (Session.account a' o' s') := by
  obtain ⟨s, hm⟩ := h
  simp only [Session.account, warnOf_agreed ho ha, counted_agreed ho ha]
  exact .mk (Session.account a' o' s) hm

end SessionsAlike

lemma disturb_twins {r r' : Store.Request} (h : r.Twins r') (fs : List Fault) :
    disturb r fs = disturb r' fs := by
  cases h with
  | same => rfl
  | @insert k data data' id h =>
    induction fs with
    | nil => rfl
    | cons f fs ih =>
      have hf : f.meets (.insert k id data) = f.meets (.insert k id data') := rfl
      simp only [disturb, hf, ih]

lemma session_blind : Session.world.Blind SessionsAlike where
  disturb hr hs := by
    obtain ⟨s, hm⟩ := hs
    cases hr with
    | send p d => exact ⟨rfl, .mk s hm⟩
    | @store r r' hr =>
      simp only [Session.world, Session.disturb, disturb_twins hr]
      exact ⟨trivial, .mk { s with faults := (disturb r' s.faults).2 } hm⟩
  answer hr hs := by
    obtain ⟨s, hm⟩ := hs
    cases hr with
    | send p d => exact ⟨agreed_self _, .mk s hm⟩
    | store hr =>
      obtain ⟨ho, hn, hm⟩ := serve_alike hm hr
      refine ⟨ho, ?_⟩
      simp only [Session.world, Session.answer, Session.askStore, Backend.serve, hn]
      exact .mk { s with notices := s.notices ++ _ } hm
  allocate start s s' hs := by
    obtain ⟨s, hm⟩ := hs
    exact ⟨rfl, .mk { s with allocated := s.allocated + 1 } hm⟩
  clock hs := by
    obtain ⟨s, hm⟩ := hs
    rfl
  note n s s' hs := by
    obtain ⟨s, hm⟩ := hs
    exact .mk { s with notices := s.notices ++ [n] } hm

lemma sessionHost_blind : sessionHost.Blind SessionsAlike where
  perform {a a' s s'} ha hs := by
    obtain ⟨ho, ht⟩ := (operation_twins s'.equipment ha).run session_blind s'.limit ⟨0⟩ hs
    simp only [sessionHost, Session.perform, hs.equipment, hs.limit, ht.limit]
    exact ⟨conclude_agreed ha _ ho, ht.account ha (conclude_agreed ha _ ho)⟩
  note ns s s' hs := by
    obtain ⟨s, hm⟩ := hs
    exact .mk { s with notices := s.notices ++ ns } hm
  count key s s' hs := by
    obtain ⟨s, hm⟩ := hs
    exact .mk { s with tally := { s.tally with requests := s.tally.requests.add key } } hm
  tally hs := hs.tally

/-! ### Services in surroundings -/

section

variable {ε : Type} (w : Surroundings ε)

inductive LoggedAlike : (ε × Memory) × List Notice → (ε × Memory) × List Notice → Prop
  | mk (e : ε) {m m' : Memory} (h : m.Alike m') (ns : List Notice) :
    LoggedAlike ((e, m), ns) ((e, m'), ns)

lemma LoggedAlike.parts {s s' : (ε × Memory) × List Notice} (h : LoggedAlike s s') :
    s.1.1 = s'.1.1 ∧ s.1.2.Alike s'.1.2 ∧ s.2 = s'.2 := by
  obtain ⟨e, hm, ns⟩ := h
  exact ⟨rfl, hm, rfl⟩

lemma logged_blind : w.calm.logged.Blind LoggedAlike where
  disturb hr hs := by
    obtain ⟨e, hm, ns⟩ := hs
    cases hr with
    | send p d => exact ⟨rfl, .mk _ hm ns⟩
    | store hr => exact ⟨rfl, .mk e hm ns⟩
  answer hr hs := by
    obtain ⟨e, hm, ns⟩ := hs
    cases hr with
    | send p d => exact ⟨agreed_self _, .mk _ hm ns⟩
    | store hr =>
      obtain ⟨ho, hn, hm⟩ := serve_alike hm hr
      refine ⟨ho, ?_⟩
      simp only [Surroundings.logged, hn]
      exact .mk e hm _
  allocate start s s' hs := by
    obtain ⟨e, hm, ns⟩ := hs
    exact ⟨rfl, .mk _ hm ns⟩
  clock hs := by
    obtain ⟨e, hm, ns⟩ := hs
    rfl
  note n s s' hs := by
    obtain ⟨e, hm, ns⟩ := hs
    exact .mk e hm _

structure PostsAlike (s s' : Post ε) : Prop where
  rest : s.rest = s'.rest
  memory : s.memory.Alike s'.memory
  notices : s.notices = s'.notices
  tally : s.tally = s'.tally
  outcomes : s.outcomes.map report = s'.outcomes.map report

lemma PostsAlike.refl (s : Post ε) : PostsAlike s s := ⟨rfl, .refl _, rfl, rfl, rfl⟩

lemma postHost_blind (limit : Span) (controlled : Bool) :
    (postHost w.calm limit controlled).Blind PostsAlike where
  perform {a a' s s'} ha hs := by
    have hl : LoggedAlike ((s.rest, s.memory), []) ((s'.rest, s'.memory), []) := by
      rw [hs.rest]
      exact .mk _ hs.memory []
    obtain ⟨ho, ht⟩ := (operation_twins ⟨true, controlled⟩ ha).run (logged_blind w) limit ⟨0⟩ hl
    have hc := conclude_agreed ha limit ho
    obtain ⟨hr, hm, hn⟩ := ht.parts
    refine ⟨hc, hr, hm, ?_, ?_, ?_⟩
    · simp only [postHost, Surroundings.attend, hs.notices, hn, warnOf_agreed hc ha]
    · simp only [postHost, Surroundings.attend, hs.tally, counted_agreed hc ha]
    · simp only [postHost, Surroundings.attend, List.map_append, hs.outcomes, List.map_cons,
        report_agreed ha hc, List.map_nil]
  note ns s s' hs := { hs with notices := congrArg (· ++ ns) hs.notices }
  count key s s' hs :=
    { hs with tally := congrArg (fun t => { t with requests := t.requests.add key }) hs.tally }
  tally hs := hs.tally

end

/-! ### Requests -/

/-- The same request, or two to create the same trunk but for its password. -/
inductive Alike : HttpRequest → HttpRequest → Prop
  | same (q : HttpRequest) : Alike q q
  | createTrunk {q q' : HttpRequest} {r r' : TrunkRequest} (h : Asks q (.createTrunk r))
    (h' : Asks q' (.createTrunk r')) (hv : r.veiled = r'.veiled) : Alike q q'

section

variable {σ : Type} {h : Host σ} {S : σ → σ → Prop}

lemma carryOut_blind (hb : h.Blind S) (v : Verdict) {s s' : σ} (hs : S s s') :
    (v.carryOut h s).1 = (v.carryOut h s').1 ∧ S (v.carryOut h s).2 (v.carryOut h s').2 := by
  cases v with
  | reply r => exact ⟨rfl, hs⟩
  | health =>
    obtain ⟨ho, hs⟩ := hb.perform (.same .ping) hs
    refine ⟨?_, hs⟩
    simp only [Verdict.carryOut]
    generalize (h.perform .ping s).1 = o at ho ⊢
    generalize (h.perform .ping s').1 = o' at ho ⊢
    cases ho <;> rfl
  | metrics => exact ⟨congrArg metricsResponse (hb.tally hs), hs⟩
  | perform line a =>
    obtain ⟨ho, hs⟩ := hb.perform (.same a) (hb.note (line.toList.map (⟨.info, ·⟩)) hs)
    refine ⟨respond_agreed ho (.same a), ?_⟩
    simp only [Verdict.carryOut, complaintsOf_agreed ho]
    exact hb.note _ hs

lemma serveOn_blind (hb : h.Blind S) {q q' : HttpRequest} (hq : Alike q q') {s s' : σ}
    (hs : S s s') :
    (serveOn h q s).1 = (serveOn h q' s').1 ∧ S (serveOn h q s).2 (serveOn h q' s').2 := by
  cases hq with
  | same =>
    simp only [serveOn]
    split_ifs with hm
    · exact ⟨rfl, hs⟩
    · cases Resource.ofPath? q.path with
      | none => exact ⟨rfl, hb.count _ hs⟩
      | some x =>
        simp only
        split_ifs with hx
        · obtain ⟨hr, hs⟩ := carryOut_blind hb (x.verdict q) hs
          rw [hr]
          exact ⟨rfl, hb.count _ hs⟩
        · exact ⟨rfl, hb.count _ hs⟩
  | createTrunk hq hq' hv =>
    have hm {q : HttpRequest} {r : TrunkRequest} (h : Asks q (.createTrunk r)) :
        q.method = "POST" := by
      cases h
      assumption
    rw [serveOn_leads (createTrunk_leads hq), serveOn_leads (createTrunk_leads hq')]
    obtain ⟨ho, hs⟩ := hb.perform (.createTrunk hv) (hb.note _ hs)
    rw [respond_agreed ho (.createTrunk hv), complaintsOf_agreed ho, hm hq, hm hq']
    exact ⟨rfl, hb.count _ (hb.note _ hs)⟩

theorem serveAll_blind (hb : h.Blind S) {qs qs' : List HttpRequest}
    (hq : List.Forall₂ Alike qs qs') {s s' : σ} (hs : S s s') :
    (serveAll h qs s).1 = (serveAll h qs' s').1 ∧ S (serveAll h qs s).2 (serveAll h qs' s').2 := by
  induction hq generalizing s s' with
  | nil => exact ⟨rfl, hs⟩
  | cons hq _ ih =>
    obtain ⟨hr, hs⟩ := serveOn_blind hb hq hs
    obtain ⟨hrs, hs⟩ := ih hs
    exact ⟨congrArg₂ List.cons hr hrs, hs⟩

end

/-- Whatever is asked for, passwords of trunks make no difference to what clients are answered, nor
to what is logged, counted and reported of outcomes: from a session or a service with any documents
in its store, in surroundings that are the same for both. -/
theorem passwords_unseen {qs qs' : List HttpRequest} (hq : List.Forall₂ Alike qs qs') :
    (∀ (s : Session) (m : Memory),
      let start := { s with store := some (.memory m) }
      let x := serveAll sessionHost qs start
      let x' := serveAll sessionHost qs' start
      x.1 = x'.1 ∧ x.2.notices = x'.2.notices ∧ x.2.tally = x'.2.tally) ∧
    ∀ (ε : Type) (w : Surroundings ε) (limit : Span) (controlled : Bool) (start : Post ε),
      let x := serveAll (postHost w.calm limit controlled) qs start
      let x' := serveAll (postHost w.calm limit controlled) qs' start
      x.1 = x'.1 ∧ x.2.notices = x'.2.notices ∧ x.2.tally = x'.2.tally ∧
        x.2.outcomes.map report = x'.2.outcomes.map report := by
  refine ⟨fun s m => ?_, fun ε w limit controlled start => ?_⟩
  · obtain ⟨hr, hs⟩ := serveAll_blind sessionHost_blind hq (.mk s (.refl m))
    exact ⟨hr, hs.notices, hs.tally⟩
  · obtain ⟨hr, hs⟩ := serveAll_blind (postHost_blind w limit controlled) hq (.refl start)
    exact ⟨hr, hs.notices, hs.tally, hs.outcomes⟩

lemma visit_alike (f f' : TrunkForm) (hv : f.request.veiled = f'.request.veiled)
    (hs : (TrunkForm.codec.encode f).length ≤ bodyLimit)
    (hs' : (TrunkForm.codec.encode f').length ≤ bodyLimit) :
    List.Forall₂ Alike (visit f) (visit f') :=
  .cons (.createTrunk (sending_asks f hs) (sending_asks f' hs') hv)
    (.cons (.same _) (.cons (.same _) .nil))

theorem passwords_unseen_visit :
    let other := { offered with password := "" }
    let x := serveAll sessionHost (visit offered) vacant
    let x' := serveAll sessionHost (visit other) vacant
    sending offered ≠ sending other ∧ List.Forall₂ Alike (visit offered) (visit other) ∧
      x.1 = x'.1 ∧ x.2.notices = x'.2.notices ∧ x.2.tally = x'.2.tally :=
  have hq := visit_alike offered { offered with password := "" } rfl (by decide +kernel)
    (by decide +kernel)
  have hne : TrunkForm.codec.encode offered ≠
      TrunkForm.codec.encode { offered with password := "" } := by decide +kernel
  ⟨fun h => hne (congrArg HttpRequest.body h), hq, (passwords_unseen hq).1 vacant .empty⟩

end Switchboard.Api
