import Switchboard.Proofs.Service.Matches

/-! A match while rules are being removed. The trunk of a call stays what it was; the rule that wins
may be another, or none, and another may not take callers without a number. -/

namespace Switchboard

inductive FallsTo (rules : List Rule) (call : Call) (trunkId : String) : Outcome Decision → Prop
  | decided {r d} (hm : r ∈ rules) (hr : selectRule rules trunkId = some r)
    (ht : d.trunkId = trunkId) (hd : d.ruleId = r.id) : FallsTo rules call trunkId (.ok d)
  | noRule (hr : selectRule rules trunkId = none) :
    FallsTo rules call trunkId (.error (.notFound ("no dispatch rule for trunk " ++ trunkId)))
  | anonymous {r start} (hm : r ∈ rules) (hr : selectRule rules trunkId = some r)
    (hd : r.destination = .individual start) (hn : call.caller = "") :
    FallsTo rules call trunkId (.error (.invalidArgument ("dispatch rule " ++ r.id ++
      " gives each caller a room and needs a caller number")))

lemma route_fallsTo {trunks : List Trunk} {rules : List Rule} {call : Call} {d : Decision}
    (h : route trunks rules call = .ok d) (rules' : List Rule) :
    FallsTo rules' call d.trunkId (route trunks rules' call) := by
  have hr := routes_route trunks rules call
  rw [h] at hr
  cases hr with
  | @routed cs t r hc hp ht hr hn =>
    obtain ⟨htc, htt⟩ := List.mem_filter.mp ht.mem
    have hr' := routes_route trunks rules' call
    generalize route trunks rules' call = o at hr' ⊢
    -- the trunks are the same, so of the ways that a call can go only the last three are left
    cases hr' with
    | noTrunk hc' =>
      rw [← hc, hc'] at htc
      cases htc
    | @noPattern before t' after fault hc' hb hf =>
      have hmem : t' ∈ cs := by simp [← hc, hc']
      exact absurd (hf.symm.trans (hp t' hmem)) nofun
    | refused hc' hne hp' ha =>
      rw [← hc, hc'] at htc
      simp [ha t htc] at htt
    | noRule hc' hp' ht' hr' =>
      subst hc hc'
      obtain rfl := ht'.unique ht
      exact .noRule ((selectRule_eq_none_iff _ _).mpr hr')
    | anonymous hc' hp' ht' hr' hd hn' =>
      subst hc hc'
      obtain rfl := ht'.unique ht
      exact .anonymous (mem_of_preferred hr'.mem) (selectRule_eq_some hr') hd hn'
    | routed hc' hp' ht' hr' hn' =>
      subst hc hc'
      obtain rfl := ht'.unique ht
      exact .decided (mem_of_preferred hr'.mem) (selectRule_eq_some hr') rfl rfl

end Switchboard

namespace Switchboard.Service

open Store

/-- Of all that is stored, the action can touch rules only, and only remove them. -/
def Action.sparing : Action → Bool
  | createTrunk _ | deleteTrunk _ | createRule _ | createParticipant _ | deleteParticipant _ =>
    false
  | _ => true

lemma Action.sparing_addition? {a : Action} (h : a.sparing) : a.addition? = none := by
  cases a <;> first | rfl | cases h

lemma Action.sparing_target? {a : Action} (h : a.sparing) {k : Kind} {id : String}
    (ht : a.target? = some (k, id)) : k = .rule := by
  cases a with
  | deleteRule id =>
    cases ht
    rfl
  | deleteTrunk id => cases h
  | deleteParticipant id => cases h
  | _ => cases ht

def Move.taker? (s : Scene) : Move → Option Client
  | .start .. => none
  | .turn i _ => s.clients[i]?

namespace Scene

variable {us vs before d₀ during : List Move}

lemma drops_rule (hs : ∀ v ∈ vs, ∀ c ∈ v.taker? (play (us ++ vs)), c.action.sparing)
    {x : ℕ × Event} (hx : x ∈ (play us).chronicle vs) {w : Write} (hw : x.2.written = some w) :
    ∃ id, w = .drop .rule id := by
  obtain ⟨i, e⟩ := x
  obtain ⟨es, es', he⟩ := List.append_of_mem hx
  obtain ⟨vs', v, vs'', rfl, -, hv, -⟩ := chronicle_split he
  obtain ⟨t, -, -, -, rfl, -⟩ := event_turn hv
  have hall : opening.chronicle (us ++ (vs' ++ .turn i t :: vs'')) =
      (opening.chronicle us ++ es) ++ (i, e) :: es' := by
    rw [chronicle_append, show opening.playOn us = play us from rfl, he, List.append_assoc]
  have hspare (c : Client) (hc : (play (us ++ (vs' ++ .turn i t :: vs''))).clients[i]? = some c) :
      c.action.sparing := hs (.turn i t) (by simp) c hc
  cases w with
  | put k id data =>
    obtain rfl := Event.written_put hw
    obtain ⟨c, hc, -, hg⟩ := may_of_asked Action.meets_grounds hall
    obtain ⟨ha, -⟩ := hg.added k id data rfl
    simp [Action.sparing_addition? (hspare c hc)] at ha
  | drop k id =>
    obtain rfl := Event.written_drop hw
    obtain ⟨c, hc, -, hg⟩ := may_of_asked Action.meets_grounds hall
    obtain ⟨other, ht⟩ := hg.removed k id rfl
    obtain rfl := Action.sparing_target? (hspare c hc) ht
    exact ⟨id, rfl⟩

/-- A call that would be routed comes to an outcome while rules are being removed: by a rule that
was left when the rules were read, or by none; or the rule that wins then needs a number that the
call has not. -/
theorem match_among_removals {controlled : Bool} {call : Call} {trunks : List Trunk}
    {rules : List Rule} {d : Decision}
    (ht : (play before).memory.Holds .trunk trunks) (hr : (play before).memory.Holds .rule rules)
    (hd : route trunks rules call = .ok d)
    (hs : ∀ v ∈ d₀ ++ during, ∀ c ∈ v.taker? (matching (before ++ d₀) controlled call during),
      c.action.sparing)
    (hf : ∀ f, .turn (play (before ++ d₀)).clients.length (.fail f) ∉ during) :
    let s := matching (before ++ d₀) controlled call
    let i := (play (before ++ d₀)).clients.length
    (∃ turns : List Turn, (∀ f, .fail f ∉ turns) ∧
      ((s (during ++ turns.map (.turn i))).decision? i).isSome) ∧
    ∀ o, (s during).decision? i = some o →
      ∃ d₁ rules', d₁ <+: during ∧ (s d₁).decision? i = none ∧
        (s d₁).memory.Holds .rule rules' ∧ rules' ⊆ rules ∧ FallsTo rules' call d.trunkId o := by
  intro s i
  refine ⟨match_finishes (before ++ d₀) controlled call during, fun o ho => ?_⟩
  obtain ⟨d₁, d₂, trunks', rules', h⟩ := exists_moments ho hf
  have hplay (e : List Move) : matching (before ++ d₀) controlled call e =
      (play before).playOn (d₀ ++ .start controlled (.matchCall call) :: e) := by
    rw [matching, List.append_assoc, play_append]
  have hdrop {e : List Move} (he : e <+: during) {x : ℕ × Event}
      (hx : x ∈ (play before).chronicle (d₀ ++ .start controlled (.matchCall call) :: e))
      {w : Write} (hw : x.2.written = some w) : ∃ id, w = .drop .rule id := by
    obtain ⟨rest, rfl⟩ := he
    have hx' : x ∈ (play before).chronicle
        (d₀ ++ .start controlled (.matchCall call) :: (e ++ rest)) := by
      rw [← List.cons_append, ← List.append_assoc, chronicle_append]
      exact List.mem_append_left _ hx
    refine drops_rule (fun v hv c hc => ?_) hx' hw
    rw [← List.append_assoc] at hc
    rcases List.mem_append.mp hv with hv | hv
    · exact hs v (List.mem_append_left _ hv) c hc
    · rcases List.mem_cons.mp hv with rfl | hv
      · cases hc
      · exact hs v (List.mem_append_right _ hv) c hc
  -- so the trunks are still the same when they are listed
  have htable : (matching (before ++ d₀) controlled call d₁).memory.table .trunk =
      (play before).memory.table .trunk := by
    rw [hplay]
    refine table_playOn fun x hx w hw => ?_
    obtain ⟨id, rfl⟩ := hdrop h.within₁ hx hw
    exact show Kind.rule ≠ .trunk by decide
  obtain rfl : trunks' = trunks := by
    have ht' := h.holds₁
    rw [Memory.Holds, htable] at ht'
    exact Except.ok.inj (ht'.symm.trans ht)
  refine ⟨d₁ ++ d₂, rules', h.within, h.undecided₂, h.holds₂, fun r hr' => ?_, ?_⟩
  · obtain ⟨data, hg, hdec⟩ := (h.stores_rule r).mp hr'
    rw [hplay] at hg
    refine ((play_sound before).told.kept.mem_iff hr r).mpr ⟨data, ?_, hdec⟩
    -- a rule that is there now was there before, for none was put since
    refine (get?_playOn hg).resolve_right ?_
    rintro ⟨x, hx, hw⟩
    obtain ⟨id, hid⟩ := hdrop h.within hx hw
    cases hid
  · rw [h.outcome]
    exact route_fallsTo hd rules'

/-- A trunk is created, a rule for it, and a rule that gives each caller a room. -/
def rulesCreated : List Move :=
  [.start false (.createTrunk ⟨[], "", "", "", "", ""⟩), .turn 0 (.grant "ST_1"), .turn 0 .serve,
    .turn 0 .log, .start false (.createRule ⟨.direct "lobby", ["ST_1"], false⟩),
    .turn 1 (.grant "SDR_1"), .turn 1 .serve, .turn 1 .serve, .turn 1 .log,
    .start false (.createRule ⟨.individual "call-", [], false⟩), .turn 2 (.grant "SDR_2"),
    .turn 2 .serve, .turn 2 .log]

def deletionBegun : List Move := [.start false (.deleteRule "SDR_1"), .turn 3 .serve]

/-- A match lists the trunks, the rule for the trunk is deleted, and the match lists the rules. -/
def deletedBetween : List Move :=
  [.turn 4 .serve, .turn 3 .serve, .turn 4 .serve, .turn 3 .log, .turn 4 .log]

def createdTrunks : List Trunk := [⟨"ST_1", [], "", "", "", "", ""⟩]

def createdRules : List Rule :=
  [⟨"SDR_1", .direct "lobby", ["ST_1"], false⟩, ⟨"SDR_2", .individual "call-", [], false⟩]

def withheld : Call := ⟨"192.0.2.1", "+15550100", ""⟩

def lobby : Decision := ⟨"ST_1", "SDR_1", "lobby", "sip_", some ""⟩

def needsNumber : Outcome Decision :=
  .error (.invalidArgument "dispatch rule SDR_2 gives each caller a room and needs a caller number")

lemma createdTrunks_held : (play rulesCreated).memory.Holds .trunk createdTrunks := by
  unfold Memory.Holds
  decide +kernel

lemma createdRules_held : (play rulesCreated).memory.Holds .rule createdRules := by
  unfold Memory.Holds
  decide +kernel

lemma createdRules_route : route createdTrunks createdRules withheld = .ok lobby := by
  decide +kernel

lemma deletedBetween_sparing : ∀ v ∈ deletionBegun ++ deletedBetween,
    ∀ c ∈ v.taker? (matching (rulesCreated ++ deletionBegun) false withheld deletedBetween),
      c.action.sparing := by
  decide +kernel

lemma deletedBetween_decision :
    (matching (rulesCreated ++ deletionBegun) false withheld deletedBetween).decision?
      (play (rulesCreated ++ deletionBegun)).clients.length = some needsNumber := by
  decide +kernel

theorem match_among_removals_around_deletion :
    let s := matching (rulesCreated ++ deletionBegun) false withheld
    let i := (play (rulesCreated ++ deletionBegun)).clients.length
    ∃ d₁ rules', d₁ <+: deletedBetween ∧ (s d₁).decision? i = none ∧
      (s d₁).memory.Holds .rule rules' ∧ rules' ⊆ createdRules ∧
      FallsTo rules' withheld "ST_1" needsNumber := by
  have hi : (play (rulesCreated ++ deletionBegun)).clients.length = 4 := by decide +kernel
  exact (match_among_removals createdTrunks_held createdRules_held createdRules_route
    deletedBetween_sparing (by simp [hi, deletedBetween])).2 needsNumber deletedBetween_decision

theorem match_around_deletion_fails_otherwise :
    (play rulesCreated).memory.Holds .trunk createdTrunks ∧
      (play rulesCreated).memory.Holds .rule createdRules ∧
      route createdTrunks createdRules withheld = .ok lobby ∧
      (∀ v ∈ deletionBegun ++ deletedBetween,
        ∀ c ∈ v.taker? (matching (rulesCreated ++ deletionBegun) false withheld deletedBetween),
          c.action.sparing) ∧
      (∀ i f, .turn i (.fail f) ∉ deletionBegun ++ deletedBetween) ∧
      ∃ o, (matching (rulesCreated ++ deletionBegun) false withheld deletedBetween).decision?
          (play (rulesCreated ++ deletionBegun)).clients.length = some o ∧
        (∀ d, o ≠ .ok d) ∧ ∀ text, o ≠ .error (.notFound text) := by
  refine ⟨createdTrunks_held, createdRules_held, createdRules_route, deletedBetween_sparing,
    by simp [deletionBegun, deletedBetween], _, deletedBetween_decision, nofun, fun text he => ?_⟩
  cases he

end Scene

end Switchboard.Service
