import Switchboard.Proofs.Registry.WellFormed
import Switchboard.Proofs.Service.Directory
import Switchboard.Proofs.Service.Matches

/-! On a store that only the service writes to, every record is well formed, and no action fails
internally of its own accord: an internal failure is one that it was handed. -/

namespace Switchboard.Service

open Store Time Operation

variable {α β : Type} {k : Kind}

def Proper : Request → List Event → Prop
  | .store (.insert k id data), _ =>
    ∃ r : k.Record, k.Storable r ∧ k.WellFormed r ∧ id = k.entity.id r ∧ data = k.document r
  | _, _ => True

inductive Caused (f : Failure) (past : List Event) : Prop
  | send (p : Participant) (d : Digits) (h : .asked (.send p d) (.error f) ∈ past)
  | store (r : Store.Request) (g : Failure) (h : .asked (.store r) (.error g) ∈ past)
    (hg : g.kind = .internal)
  | found (k : Kind) (id : String) (data : Text.Octets)
    (h : .asked (.store (.get k id)) (.ok (some data)) ∈ past) (hd : k.entity.decode data = .error f)
  | listed (k : Kind) (docs : List Text.Octets) (h : .asked (.store (.list k)) (.ok docs) ∈ past)
    (hd : k.entity.decodeAll docs = .error f)

def Accounted (P : α → Prop) : Outcome α → List Event → Prop
  | .ok a, _ => P a
  | .error f, past => f.kind = .internal → Caused f past

namespace Operation

def Careful (op : Operation α) (P : α → Prop) : Prop := ∀ past, op.Meets Proper (Accounted P) past

variable {op : Operation α} {next : α → Operation β} {P : α → Prop} {Q : β → Prop}

lemma Careful.bind (h : op.Careful P) (hn : ∀ a, P a → (next a).Careful Q) :
    (op >>= next).Careful Q := by
  intro past
  rw [meets_bind]
  refine (h past).mono fun o past' ho => ?_
  cases o with
  | ok a => exact hn a ho past'
  | error f => exact ho

lemma careful_outcome {o : Outcome α} (h : ∀ f, o = .error f → f.kind ≠ .internal) :
    (ofOutcome o).Careful (o = .ok ·) := by
  intro past
  cases o with
  | ok a => exact rfl
  | error f => exact fun hf => absurd hf (h f rfl)

lemma careful_pure {a : α} (h : P a) : (pure a : Operation α).Careful P := fun _ => h

lemma careful_throw {f : Failure} (h : f.kind ≠ .internal) : (throw f : Operation α).Careful P :=
  fun _ hf => absurd hf h

lemma careful_note (level : Level) (text : String) : (note level text).Careful fun _ => True :=
  fun _ => trivial

lemma careful_allocate (start : String) : (allocate start).Careful fun _ => True :=
  fun _ _ => trivial

lemma careful_clock : clock.Careful Timestamp.Valid := fun _ _ hv => hv

lemma careful_ping : (Operation.store .ping).Careful fun _ => True := by
  refine fun past => ⟨trivial, fun o => ?_⟩
  cases o with
  | ok u => trivial
  | error f => exact .store .ping f (.head _)

lemma careful_send (p : Participant) (d : Digits) : (ask (.send p d)).Careful fun _ => True := by
  refine fun past => ⟨trivial, fun o => ?_⟩
  cases o with
  | ok sent => trivial
  | error f => exact fun _ => .send p d (.head _)

end Operation

/-! ### Records in the store -/

lemma careful_find (k : Kind) (id : String) : (k.entity.find id).Careful fun _ => True := by
  refine fun past => (find_meets id _).mpr ⟨trivial, fun o => ?_⟩
  rcases o with f | _ | data
  · exact .store (.get k id) f (.head _)
  · trivial
  · cases hd : k.entity.decode data with
    | ok r => simp only [hd, Except.map, Accounted]
    | error f =>
      simp only [hd]
      exact fun _ => .found k id data (.head _) hd

lemma careful_load (k : Kind) (id : String) : (k.entity.load id).Careful fun _ => True := by
  refine fun past => (load_meets id _).mpr ⟨trivial, fun o => ?_⟩
  rcases o with f | _ | data
  · exact .store (.get k id) f (.head _)
  · exact nofun
  · cases hd : k.entity.decode data with
    | ok r => simp only [hd, Accounted]
    | error f =>
      simp only [hd]
      exact fun _ => .found k id data (.head _) hd

lemma careful_list (k : Kind) : k.entity.list.Careful fun _ => True := by
  refine fun past => (entities_meets _).mpr ⟨trivial, fun o => ?_⟩
  cases o with
  | error f => exact .store (.list k) f (.head _)
  | ok docs =>
    cases hd : k.entity.decodeAll docs with
    | ok rs => simp only [hd, Accounted]
    | error f =>
      simp only [hd]
      exact fun _ => .listed k docs (.head _) hd

lemma careful_insert {r : k.Record} (hs : k.Storable r) (hw : k.WellFormed r) :
    (k.entity.insert r).Careful fun _ => True := by
  refine fun past => (insert_meets r _).mpr ⟨⟨r, hs, hw, rfl, rfl⟩, fun o => ?_⟩
  cases o with
  | ok u => trivial
  | error f => exact .store _ f (.head _)

lemma careful_delete (r : k.Record) : (k.entity.delete r).Careful fun _ => True := by
  refine fun past => (delete_meets r _).mpr ⟨trivial, fun o => ?_⟩
  rcases o with f | _ | _
  · exact .store _ f (.head _)
  · exact nofun
  · trivial

lemma careful_remove (k : Kind) (id : String) {check : k.Record → Outcome Unit}
    (h : ∀ r f, check r = .error f → f.kind ≠ .internal) :
    (k.entity.remove id check).Careful fun _ => True :=
  (careful_load k id).bind fun r _ => (careful_outcome (h r)).bind fun _ _ =>
    (careful_delete r).bind fun _ _ => careful_pure trivial

lemma careful_missingTrunks (ids : List String) : (missingTrunks ids).Careful fun _ => True := by
  induction ids with
  | nil => exact careful_pure trivial
  | cons id ids ih =>
    exact (careful_find .trunk id).bind fun _ _ => ih.bind fun _ _ => careful_pure trivial

/-! ### Actions -/

lemma not_internal {f : Failure} (h : f.kind = .invalidArgument) : f.kind ≠ .internal := by
  rw [h]
  nofun

lemma careful_told {op : Operation α} (h : op.Careful fun _ => True) (level : Level)
    (text : α → String) :
    (do let a ← op; note level (text a); return a : Operation α).Careful fun _ => True :=
  h.bind fun _ _ => (careful_note _ _).bind fun _ _ => careful_pure trivial

lemma careful_createTrunk (r : TrunkRequest) : (createTrunk r).Careful fun _ => True := by
  have hc : ∀ f, r.check = .error f → f.kind ≠ .internal :=
    fun f h => not_internal (trunkRequest_check_kind h)
  refine (careful_outcome hc).bind fun _ hr => (careful_allocate _).bind fun id _ => ?_
  exact (careful_insert (k := .trunk) trivial (TrunkRequest.wellFormed hr id)).bind fun _ _ =>
    (careful_note _ _).bind fun _ _ => careful_pure trivial

lemma careful_createRule (r : RuleRequest) : (createRule r).Careful fun _ => True := by
  have hc : ∀ f, r.check = .error f → f.kind ≠ .internal :=
    fun f h => not_internal (ruleRequest_check_kind h)
  refine (careful_outcome hc).bind fun _ hr => (careful_allocate _).bind fun id _ => ?_
  refine (careful_missingTrunks _).bind fun missing _ => ?_
  have hrest : (do
      ruleEntity.insert (Rule.ofRequest id r)
      note .info ("Created SIP dispatch rule " ++ (Rule.ofRequest id r).id ++ " for " ++
        if (Rule.ofRequest id r).isWildcard then "all trunks"
        else String.intercalate ", " (Rule.ofRequest id r).trunkIds)
      return Rule.ofRequest id r : Operation Rule).Careful fun _ => True :=
    (careful_insert (k := .rule) trivial (RuleRequest.wellFormed hr id)).bind fun _ _ =>
      (careful_note _ _).bind fun _ _ => careful_pure trivial
  cases hm : missing.isEmpty with
  | true => exact hrest
  | false => exact careful_throw nofun

lemma careful_createParticipant (r : ParticipantRequest) :
    (createParticipant r).Careful fun _ => True := by
  have hc : ∀ f, r.check = .error f → f.kind ≠ .internal :=
    fun f h => not_internal (participantRequest_check_kind h)
  refine (careful_outcome hc).bind fun _ hr => (careful_find .trunk r.trunkId).bind fun found _ => ?_
  cases found with
  | none => exact careful_throw nofun
  | some t =>
    refine (careful_allocate _).bind fun id _ => (careful_allocate _).bind fun callId _ => ?_
    refine careful_clock.bind fun now hv => ?_
    have hw := ParticipantRequest.wellFormed hr id callId now
    exact (careful_insert (k := .participant) (r := .ofRequest id callId now r) hv hw).bind fun _ _ =>
      (careful_note _ _).bind fun _ _ => careful_pure trivial

lemma careful_deleteTrunk (id : String) : (deleteTrunk id).Careful fun _ => True := by
  refine (careful_list .rule).bind fun rules _ => careful_told (careful_remove .trunk id ?_) _ _
  intro t f h
  simp only [unreferenced] at h
  split_ifs at h
  cases h
  exact FailureKind.noConfusion

lemma digits_parse_kind {text : String} {f : Failure} (h : Digits.parse text = .error f) :
    f.kind = .invalidArgument := by
  unfold Digits.parse at h
  split_ifs at h
  · cases h
    rfl
  · split at h <;> cases h
    rfl

lemma careful_sendDigits (q : Equipment) (id text : String) :
    (sendDigits q id text).Careful fun _ => True := by
  have hc : ∀ f, Digits.parse text = .error f → f.kind ≠ .internal :=
    fun f h => not_internal (digits_parse_kind h)
  refine (careful_outcome hc).bind fun digits _ => (careful_load .participant id).bind fun p _ => ?_
  have hsend := careful_told (careful_send p digits) .info fun _ =>
    "Sent DTMF " ++ digits.text ++ " to SIP participant " ++ p.id
  cases hq : q.controlled with
  | true => exact hsend
  | false => exact careful_throw nofun

lemma careful_matchCall (call : Call) : (matchCall call).Careful fun _ => True := by
  refine (careful_list .trunk).bind fun trunks _ => (careful_list .rule).bind fun rules _ => ?_
  cases hr : route trunks rules call with
  | ok d => exact (careful_note _ _).bind fun _ _ => careful_pure trivial
  | error f => exact (careful_note _ _).bind fun _ _ => careful_throw (route_not_internal hr)

theorem careful_operation (q : Equipment) (a : Action) : (a.operation q).Careful fun _ => True := by
  have hc : (connect q).Careful fun _ => True := by
    unfold connect
    split_ifs
    · exact careful_pure trivial
    · exact careful_throw nofun
  have hfree (f : Failure) (h : (.ok () : Outcome Unit) = .error f) : f.kind ≠ .internal := nomatch h
  refine hc.bind fun _ _ => ?_
  cases a with
  | ping => exact careful_ping
  | createTrunk r => exact careful_createTrunk r
  | listTrunks => exact careful_told (careful_list .trunk) _ _
  | deleteTrunk id => exact careful_deleteTrunk id
  | createRule r => exact careful_createRule r
  | listRules => exact careful_told (careful_list .rule) _ _
  | deleteRule id => exact careful_told (careful_remove .rule id fun _ => hfree) _ _
  | createParticipant r => exact careful_createParticipant r
  | listParticipants => exact careful_told (careful_list .participant) _ _
  | deleteParticipant id => exact careful_told (careful_remove .participant id fun _ => hfree) _ _
  | sendDigits id digits => exact careful_sendDigits q id digits
  | matchCall call => exact careful_matchCall call

/-! ### Scenes -/

namespace Scene

variable {moves : List Move} {i : ℕ} {e : Event} {f : Failure}

def failure? (s : Scene) (i : ℕ) : Option Failure :=
  s.clients[i]?.bind fun c =>
    match c.plan.result? with
    | some (.error f) => some f
    | _ => none

lemma event_of_past (h : e ∈ (play moves).pastOf i) :
    ∃ us v ws, moves = us ++ v :: ws ∧ (play us).event? v = some (i, e) := by
  rw [pastOf_play, List.mem_reverse, mem_doings] at h
  obtain ⟨before, after, he⟩ := List.append_of_mem h
  obtain ⟨us, v, ws, hm, -, hv, -⟩ := play_split he
  exact ⟨us, v, ws, hm, hv⟩

lemma stored_wellFormed {id : String} {data : Text.Octets}
    (hg : (play moves).memory.get? k id = some data) :
    ∃ r : k.Record, k.entity.decode data = .ok r ∧ k.entity.id r = id ∧ k.WellFormed r := by
  have hm (q : Equipment) (a : Action) :
      (a.operation q).Meets Proper (Accounted fun _ => True) [] := careful_operation q a []
  obtain ⟨⟨i, e⟩, hx, hw⟩ := put_of_stored hg
  obtain rfl := Event.written_put hw
  obtain ⟨before, after, he⟩ := List.append_of_mem hx
  obtain ⟨-, -, r, hs, hr, rfl, rfl⟩ := may_of_asked hm he
  exact ⟨r, decode_document hs, rfl, hr⟩

lemma memory_error {m : Memory} {r : Store.Request} {g : Failure}
    (h : (m.serve r).outcome = .error g) : g.kind = .alreadyExists := by
  unfold Memory.serve at h
  cases r with
  | insert k id data =>
    simp only at h
    split_ifs at h
    cases h
    rfl
  | delete k id =>
    simp only at h
    split_ifs at h
  | _ => cases h

lemma source_of_caused (h : Caused f ((play moves).pastOf i)) :
    (∃ p d, .asked (.send p d) (.error f) ∈ (play moves).pastOf i) ∨
      ∃ g, g.kind = .internal ∧ .turn i (.fail g) ∈ moves := by
  cases h with
  | send p d h => exact .inl ⟨p, d, h⟩
  | store r g h hg =>
    obtain ⟨us, v, ws, rfl, hv⟩ := event_of_past h
    obtain ⟨t, c, plan, m, rfl, -, ht, -⟩ := event_turn hv
    rcases Plan.turn_asked ht with ⟨ho, -⟩ | ⟨g', rfl, ho⟩
    · rw [memory_error ho] at hg
      cases hg
    · cases ho
      exact .inr ⟨g, hg, by simp⟩
  | found k id data h hd =>
    obtain ⟨us, v, ws, rfl, hv⟩ := event_of_past h
    obtain ⟨r, hr, -⟩ := stored_wellFormed (Except.ok.inj (event_ok hv).1)
    cases hr.symm.trans hd
  | listed k docs h hd =>
    obtain ⟨us, v, ws, rfl, hv⟩ := event_of_past h
    obtain ⟨rs, hrs, -⟩ := (play_sound us).told.kept.holds_records k
    have hl : ((play us).memory.table k).documents = docs := Except.ok.inj (event_ok hv).1
    rw [Memory.Holds, hl, hd] at hrs
    cases hrs

lemma internal_source (hf : (play moves).failure? i = some f) (hk : f.kind = .internal) :
    (∃ p d, .asked (.send p d) (.error f) ∈ (play moves).pastOf i) ∨
      ∃ g, g.kind = .internal ∧ .turn i (.fail g) ∈ moves := by
  have hm (q : Equipment) (a : Action) :
      (a.operation q).Meets Proper (Accounted fun _ => True) [] := careful_operation q a []
  cases hc : (play moves).clients[i]? with
  | none => simp [failure?, hc] at hf
  | some c =>
    have hend := play_meets hm moves (List.mem_of_getElem? hc)
    refine source_of_caused ?_
    rw [pastOf, hc]
    simp only [failure?, hc, Option.bind_some] at hf
    obtain ⟨a, plan, past⟩ := c
    cases plan with
    | done o =>
      cases o with
      | ok x => cases hf
      | error g =>
        cases hf
        exact hend hk
    | _ => cases hf

lemma started {c : Client} (hc : (play moves).clients[i]? = some c) :
    ∃ before controlled during, moves = before ++ .start controlled c.action :: during ∧
      (play before).clients.length = i := by
  induction moves using List.reverseRecOn generalizing c with
  | nil => simp [play, opening] at hc
  | append_singleton moves v ih =>
    rw [play_snoc] at hc
    have hwas {c' : Client} (hc' : (play moves).clients[i]? = some c')
        (ha : c'.action = c.action) : ∃ before controlled during,
        moves ++ [v] = before ++ .start controlled c.action :: during ∧
          (play before).clients.length = i := by
      obtain ⟨before, controlled, during, rfl, hl⟩ := ih hc'
      exact ⟨before, controlled, during ++ [v], by simp [ha], hl⟩
    rcases move_cases (play moves) v with
      ⟨controlled, a, rfl, _, hs⟩ | ⟨_, hs⟩ | ⟨j, t, d, e, plan, m, _, hd, _, _, hs⟩
    · rw [hs, List.getElem?_append] at hc
      split_ifs at hc with hi
      · exact hwas hc rfl
      · rw [List.getElem?_singleton] at hc
        split_ifs at hc with hz
        obtain rfl := Option.some.inj hc
        exact ⟨moves, controlled, [], rfl, by omega⟩
    · exact hwas (hs ▸ hc) rfl
    · rw [hs] at hc
      by_cases hij : j = i
      · subst hij
        rw [List.getElem?_set_self (List.getElem?_eq_some_iff.mp hd).1] at hc
        obtain rfl := Option.some.inj hc
        exact hwas hd rfl
      · exact hwas (by rwa [List.getElem?_set_ne hij] at hc) rfl

lemma unsuited_of_match (hd : (play moves).decision? i = some (.error f))
    (hk : f.kind = .invalidArgument) (hf : ∀ g, .turn i (.fail g) ∉ moves) :
    ∃ call us vs trunks rules, ((play moves).clients[i]?.map Client.action = some (.matchCall call)) ∧
      us <+: vs ∧ vs <+: moves ∧ (play us).memory.Holds .trunk trunks ∧
      (play vs).memory.Holds .rule rules ∧ route trunks rules call = .error f ∧
      Unsuited trunks rules call := by
  obtain ⟨c, hc, hd'⟩ := Option.bind_eq_some_iff.mp hd
  obtain ⟨call, past, rfl⟩ := Client.eq_of_decision? hd'
  obtain ⟨before, controlled, during, rfl, rfl⟩ := started hc
  obtain ⟨d₁, d₂, trunks, rules, h⟩ := exists_moments (o := .error f) hd
    (fun g hg => hf g (by simp [hg]))
  have hw (t : Trunk) (ht : t ∈ trunks) : t.WellFormed := by
    obtain ⟨data, hg, hdec⟩ := (h.stores_trunk t).mp ht
    obtain ⟨r, hr, -, hwf⟩ := stored_wellFormed (k := .trunk) hg
    obtain rfl := Except.ok.inj (hr.symm.trans hdec)
    exact hwf
  have hp (d : List Move) : before ++ .start controlled (.matchCall call) :: d <+:
      before ++ .start controlled (.matchCall call) :: during ↔ d <+: during := by
    rw [List.prefix_append_right_inj, List.prefix_cons_inj]
  refine ⟨call, before ++ .start controlled (.matchCall call) :: d₁,
    before ++ .start controlled (.matchCall call) :: (d₁ ++ d₂), trunks, rules, by rw [hc]; rfl, ?_,
    (hp _).mpr h.within, h.holds₁, h.holds₂, h.outcome.symm,
    unsuited_of_route hw h.outcome.symm hk⟩
  rw [List.prefix_append_right_inj, List.prefix_cons_inj]
  exact List.prefix_append d₁ d₂

/-- Whoever works on a store that was empty, in whatever order: what is stored is well formed and
under its own id, so a trunk always tells whether it takes a number; an action fails internally only
with a failure of the call channel, or because a request of its own failed so on the way; and a
match is wrongly asked for only when no candidate takes the number or its rule misses a caller. -/
theorem play_wellFormed (moves : List Move) :
    (∀ k id data, (play moves).memory.get? k id = some data →
      ∃ r : k.Record, k.entity.decode data = .ok r ∧ k.entity.id r = id ∧ k.WellFormed r) ∧
    (∀ i f, (play moves).failure? i = some f → f.kind = .internal →
      (∃ p d, .asked (.send p d) (.error f) ∈ (play moves).pastOf i) ∨
        ∃ g, g.kind = .internal ∧ .turn i (.fail g) ∈ moves) ∧
    (∀ t : Trunk, (play moves).memory.Stores .trunk t → ∀ number,
      (∃ b, t.accepts number = .ok b) ∧ ∀ c : PatternCache, ∃ b, (c.accepts t number).1 = .ok b) ∧
    ∀ i f, (play moves).decision? i = some (.error f) → f.kind = .invalidArgument →
      (∀ g, .turn i (.fail g) ∉ moves) →
      ∃ call us vs trunks rules,
        ((play moves).clients[i]?.map Client.action = some (.matchCall call)) ∧
        us <+: vs ∧ vs <+: moves ∧ (play us).memory.Holds .trunk trunks ∧
        (play vs).memory.Holds .rule rules ∧ route trunks rules call = .error f ∧
        Unsuited trunks rules call := by
  refine ⟨fun k id data hg => stored_wellFormed hg, fun i f hf hk => internal_source hf hk, ?_,
    fun i f hd hk hf => unsuited_of_match hd hk hf⟩
  rintro t ⟨data, hg, hd⟩ number
  obtain ⟨r, hr, -, hw⟩ := stored_wellFormed (k := .trunk) hg
  obtain rfl := Except.ok.inj (hr.symm.trans hd)
  exact ⟨⟨_, hw.accepts number⟩, fun c => hw.cache_accepts c number⟩

/-- A trunk, a rule for its callers and a participant are created; the channel breaks down under
digits, and a call without a number cannot be given a room. -/
def breakdown : List Move :=
  [.start true (.createTrunk ⟨["192.0.2.1"], "", "", "", "", ""⟩), .turn 0 (.grant "ST_1"),
    .turn 0 .serve, .turn 0 .log,
    .start true (.createRule ⟨.individual "call-", ["ST_1", "ST_1"], true⟩),
    .turn 1 (.grant "SDR_1"), .turn 1 .serve, .turn 1 .serve, .turn 1 .log,
    .start true (.createParticipant ⟨"ST_1", "+15550100", "lobby", none⟩), .turn 2 .serve,
    .turn 2 (.grant "SP_1"), .turn 2 (.grant "SCL_1"),
    .turn 2 (.tick ⟨⟨⟨2024, 2, 29⟩, 12, 0, 0, 0⟩, by decide⟩), .turn 2 .serve, .turn 2 .log,
    .start true (.sendDigits "SP_1" "1#"), .turn 3 .serve,
    .turn 3 (.reply (.error (.internal "line lost"))),
    .start true (.matchCall ⟨"192.0.2.1", "+15550100", ""⟩), .turn 4 .serve, .turn 4 .serve,
    .turn 4 .log]

theorem play_wellFormed_breakdown :
    (∃ data p, (play breakdown).memory.get? .participant "SP_1" = some data ∧
      participantEntity.decode data = .ok p ∧ p.id = "SP_1" ∧ p.WellFormed) ∧
    (∃ p d, .asked (.send p d) (.error (.internal "line lost")) ∈ (play breakdown).pastOf 3) ∧
    (∃ t : Trunk, (play breakdown).memory.Stores .trunk t ∧ ∃ b, t.accepts "+15550100" = .ok b) ∧
    ∃ f call trunks rules, (play breakdown).decision? 4 = some (.error f) ∧
      Unsuited trunks rules call := by
  obtain ⟨hstored, hinternal, haccepts, hmatch⟩ := play_wellFormed breakdown
  have hparticipant : ((play breakdown).memory.get? .participant "SP_1").isSome := by
    decide +kernel
  have htrunk : ((play breakdown).memory.get? .trunk "ST_1").isSome := by decide +kernel
  have hf (i : ℕ) (g : Failure) : .turn i (.fail g) ∉ breakdown := by simp [breakdown]
  refine ⟨?_, ?_, ?_, ?_⟩
  · obtain ⟨data, hg⟩ := Option.isSome_iff_exists.mp hparticipant
    obtain ⟨p, hd, hid, hw⟩ := hstored _ _ _ hg
    exact ⟨data, p, hg, hd, hid, hw⟩
  · have h3 : (play breakdown).failure? 3 = some (.internal "line lost") := by decide +kernel
    exact (hinternal 3 _ h3 rfl).resolve_right fun ⟨g, _, hg⟩ => hf 3 g hg
  · obtain ⟨data, hg⟩ := Option.isSome_iff_exists.mp htrunk
    obtain ⟨t, hd, hid, -⟩ := hstored _ _ _ hg
    have hs : (play breakdown).memory.Stores .trunk t := ⟨data, by rw [hid, hg], hd⟩
    exact ⟨t, hs, (haccepts t hs "+15550100").1⟩
  · have h4 : (play breakdown).decision? 4 = some (.error (.invalidArgument
        "dispatch rule SDR_1 gives each caller a room and needs a caller number")) := by
      decide +kernel
    obtain ⟨call, us, vs, trunks, rules, -, -, -, -, -, -, hu⟩ := hmatch 4 _ h4 rfl (hf 4)
    exact ⟨_, call, trunks, rules, h4, hu⟩

end Scene

end Switchboard.Service
