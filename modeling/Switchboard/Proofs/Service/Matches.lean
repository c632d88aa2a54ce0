import Switchboard.Proofs.Registry.Routes
import Switchboard.Proofs.Service.Freshness
import Switchboard.Proofs.Service.Surroundings
import Switchboard.Proofs.Service.Yields

/-! A match lists the trunks and, some time after, the rules: what it decides it decides by two
moments of the time in which it was under way, whatever else happened then. -/

namespace Switchboard.Service

open Store Time Operation

inductive Matched (call : Call) : Outcome Decision → List Event → Prop
  | unlisted {o past} (k : Kind) (f : Failure)
    (h : .asked (.store (.list k)) (.error f) ∈ past) : Matched call o past
  | undecoded {o past} (k : Kind) (docs : List Text.Octets) (f : Failure)
    (h : .asked (.store (.list k)) (.ok docs) ∈ past) (hd : k.entity.decodeAll docs = .error f) :
    Matched call o past
  | routed {docs docs' trunks rules n} (ht : Kind.trunk.entity.decodeAll docs = .ok trunks)
    (hr : Kind.rule.entity.decodeAll docs' = .ok rules) :
    Matched call (route trunks rules call) [.noted n, .asked (.store (.list .rule)) (.ok docs'),
      .asked (.store (.list .trunk)) (.ok docs)]

lemma matchCall_meets (call : Call) :
    (matchCall call).Meets (fun _ _ => True) (Matched call) [] := by
  rw [matchCall, meets_bind]
  refine (entities_meets (k := .trunk) _).mpr ⟨trivial, fun o => ?_⟩
  cases o with
  | error f => exact .unlisted .trunk f (.head _)
  | ok docs =>
    cases ht : Kind.trunk.entity.decodeAll docs with
    | error f =>
      simp only [ht]
      exact .undecoded .trunk docs f (.head _) ht
    | ok trunks =>
      simp only [ht]
      refine (meets_bind _ _ _).mpr ((entities_meets (k := .rule) _).mpr ⟨trivial, fun o => ?_⟩)
      cases o with
      | error f => exact .unlisted .rule f (.head _)
      | ok docs' =>
        cases hr : Kind.rule.entity.decodeAll docs' with
        | error f =>
          simp only [hr]
          exact .undecoded .rule docs' f (.head _) hr
        | ok rules =>
          simp only [hr]
          have hm (n : Notice) : Matched call (route trunks rules call)
              [.noted n, .asked (.store (.list .rule)) (.ok docs'),
                .asked (.store (.list .trunk)) (.ok docs)] := .routed ht hr
          generalize route trunks rules call = o at hm ⊢
          cases o with
          | ok d => exact hm _
          | error f => exact hm _

instance {α : Type} [DecidableEq α] : DecidableEq (Outcome α)
  | .ok a, .ok b => decidable_of_iff (a = b) ⟨congrArg _, Except.ok.inj⟩
  | .error f, .error g => decidable_of_iff (f = g) ⟨congrArg _, Except.error.inj⟩
  | .ok _, .error _ => isFalse nofun
  | .error _, .ok _ => isFalse nofun

def Client.decision? : Client → Option (Outcome Decision)
  | ⟨.matchCall _, .done o, _⟩ => some o
  | _ => none

lemma Client.eq_of_decision? {c : Client} {o : Outcome Decision} (h : c.decision? = some o) :
    ∃ call past, c = ⟨.matchCall call, .done o, past⟩ := by
  unfold decision? at h
  split at h
  · cases h
    exact ⟨_, _, rfl⟩
  · cases h

namespace Scene

def decision? (s : Scene) (i : ℕ) : Option (Outcome Decision) := s.clients[i]?.bind Client.decision?

def matching (before : List Move) (controlled : Bool) (call : Call) (during : List Move) : Scene :=
  play (before ++ .start controlled (.matchCall call) :: during)

variable {before during : List Move} {controlled : Bool} {call : Call} {o : Outcome Decision}
  {i : ℕ} {e : Event} {k : Kind}

lemma matching_append (before : List Move) (controlled : Bool) (call : Call) (d₁ d₂ : List Move) :
    matching before controlled call (d₁ ++ d₂) =
      (matching before controlled call d₁).playOn d₂ := by
  rw [matching, matching, ← play_append, List.append_assoc, List.cons_append]

lemma matching_kept (before : List Move) (controlled : Bool) (call : Call) (during : List Move) :
    (matching before controlled call during).memory.Kept :=
  (play_sound _).told.kept

lemma matching_start (before : List Move) (controlled : Bool) (call : Call) :
    (matching before controlled call []).clients[(play before).clients.length]? =
      some ⟨.matchCall call, ((Action.matchCall call).operation ⟨true, controlled⟩).run, []⟩ := by
  rw [matching, play_snoc]
  exact List.getElem?_concat_length

lemma match_finishes (before : List Move) (controlled : Bool) (call : Call) (during : List Move) :
    let i := (play before).clients.length
    ∃ turns : List Turn, (∀ f, .fail f ∉ turns) ∧
      ((matching before controlled call (during ++ turns.map (.turn i))).decision? i).isSome := by
  intro i
  obtain ⟨plan, past, hc, -⟩ := clients_playOn _ during (matching_start before controlled call)
  rw [← matching_append, List.nil_append] at hc
  obtain ⟨turns, hf, c, hc', hr⟩ := canFinish hc
  obtain ⟨plan', past', hc'', -⟩ := clients_playOn _ (turns.map (.turn i)) hc
  obtain rfl := Option.some.inj (hc'.symm.trans hc'')
  refine ⟨turns, hf, ?_⟩
  rw [matching_append, decision?, hc', Option.bind_some]
  cases plan' with
  | done o => rfl
  | _ => cases hr

lemma undecided {s : Scene} {v : Move} (h : s.event? v = some (i, e)) : s.decision? i = none := by
  obtain ⟨t, c, plan, m, -, hc, ht, -⟩ := event_turn h
  rw [decision?, hc, Option.bind_some, Option.eq_none_iff_forall_ne_some]
  intro o ho
  obtain ⟨call, past, rfl⟩ := c.eq_of_decision? ho
  cases t <;> cases ht

lemma matched (ho : (matching before controlled call during).decision?
      (play before).clients.length = some o) :
    Matched call o (doings (play before).clients.length
      ((matching before controlled call []).chronicle during)).reverse := by
  obtain ⟨plan, past, hc, hm⟩ :=
    clients_playOn _ during (matching_start before controlled call)
  rw [← matching_append, List.nil_append] at hc
  have hmatch : plan.Meets (fun _ _ => True) (Matched call) past := hm _ _ (matchCall_meets call)
  have hpast : (doings (play before).clients.length
      ((matching before controlled call []).chronicle during)).reverse = past := by
    have hp := pastOf_playOn (matching before controlled call []) during
      (play before).clients.length
    rw [← matching_append, List.nil_append, pastOf, pastOf, hc, matching_start] at hp
    simpa using hp.symm
  rw [hpast]
  rw [decision?, hc, Option.bind_some] at ho
  obtain ⟨call', past', he⟩ := Client.eq_of_decision? ho
  cases he
  exact hmatch

lemma matching_split {x : ℕ × Event}
    (hx : x ∈ (matching before controlled call []).chronicle during) :
    ∃ us v ws, during = us ++ v :: ws ∧ (matching before controlled call us).event? v = some x := by
  obtain ⟨before', after, he⟩ := List.append_of_mem hx
  obtain ⟨us, v, ws, rfl, -, hv, -⟩ := chronicle_split he
  rw [← matching_append, List.nil_append] at hv
  exact ⟨us, v, ws, rfl, hv⟩

structure Moments (before : List Move) (controlled : Bool) (call : Call) (during : List Move)
    (o : Outcome Decision) (d₁ d₂ : List Move) (trunks : List Trunk) (rules : List Rule) :
    Prop where
  within : d₁ ++ d₂ <+: during
  undecided₁ :
    (matching before controlled call d₁).decision? (play before).clients.length = none
  undecided₂ :
    (matching before controlled call (d₁ ++ d₂)).decision? (play before).clients.length = none
  holds₁ : (matching before controlled call d₁).memory.Holds .trunk trunks
  holds₂ : (matching before controlled call (d₁ ++ d₂)).memory.Holds .rule rules
  outcome : o = route trunks rules call

lemma exists_moments
    (ho : (matching before controlled call during).decision? (play before).clients.length = some o)
    (hf : ∀ f, .turn (play before).clients.length (.fail f) ∉ during) :
    ∃ d₁ d₂ trunks rules, Moments before controlled call during o d₁ d₂ trunks rules := by
  have hm := matched ho
  generalize hp : (doings _ ((matching before controlled call []).chronicle during)).reverse = past
    at hm
  have hmem (e : Event) (he : e ∈ past) : ((play before).clients.length, e) ∈
      (matching before controlled call []).chronicle during := by
    rwa [← hp, List.mem_reverse, mem_doings] at he
  cases hm with
  | unlisted k f h =>
    obtain ⟨us, v, ws, rfl, hv⟩ := matching_split (hmem _ h)
    obtain ⟨t, c, plan, m, rfl, -, ht, -⟩ := event_turn hv
    -- a store in memory lists what it has, so the request was lost on the way
    obtain ⟨hlist, -⟩ | ⟨f, rfl, -⟩ := Plan.turn_asked ht
    · cases hlist
    · exact absurd (by simp) (hf f)
  | undecoded k docs f h hd =>
    obtain ⟨us, v, ws, rfl, hv⟩ := matching_split (hmem _ h)
    -- but all that is stored can be decoded
    obtain ⟨rs, hrs, -⟩ := (matching_kept before controlled call us).holds_records k
    have hlist : _ = docs := Except.ok.inj (event_ok hv).1
    rw [Memory.Holds, hlist, hd] at hrs
    cases hrs
  | @routed docs docs' trunks rules n ht hr =>
    have hs := doings_sublist (play before).clients.length
      ((matching before controlled call []).chronicle during)
    rw [← List.reverse_reverse (doings _ _), hp] at hs
    -- the chronicle is cut where the trunks were listed, and what follows where the rules were
    obtain ⟨es, es', he, htrunks, hs⟩ := List.cons_sublist_iff.mp hs
    have hrules := hs.subset (.head _)
    obtain ⟨ps, qs, rfl⟩ := List.append_of_mem htrunks
    obtain ⟨ps', qs', rfl⟩ := List.append_of_mem hrules
    rw [List.append_assoc, List.cons_append, ← List.append_assoc] at he
    obtain ⟨d₁, v, ws, rfl, -, hv, hws⟩ := chronicle_split he
    obtain ⟨d₂, v', ws', rfl, -, hv', -⟩ := chronicle_split hws
    rw [← matching_append, List.nil_append] at hv
    rw [← playOn_cons, ← playOn_append, ← matching_append, List.nil_append] at hv'
    exact ⟨d₁, v :: d₂, trunks, rules, ⟨v' :: ws', by simp⟩, undecided hv, undecided hv',
      holds_of_listed hv ht, holds_of_listed hv' hr, rfl⟩

namespace Moments

variable {d₁ d₂ : List Move} {trunks : List Trunk} {rules : List Rule}

lemma stores_trunk (h : Moments before controlled call during o d₁ d₂ trunks rules) (t : Trunk) :
    t ∈ trunks ↔ (matching before controlled call d₁).memory.Stores .trunk t :=
  (matching_kept before controlled call d₁).mem_iff h.holds₁ t

lemma stores_rule (h : Moments before controlled call during o d₁ d₂ trunks rules) (r : Rule) :
    r ∈ rules ↔ (matching before controlled call (d₁ ++ d₂)).memory.Stores .rule r :=
  (matching_kept before controlled call (d₁ ++ d₂)).mem_iff h.holds₂ r

lemma within₁ (h : Moments before controlled call during o d₁ d₂ trunks rules) : d₁ <+: during :=
  (List.prefix_append d₁ d₂).trans h.within

end Moments

lemma not_deleted (hn : (granted (matching before controlled call during).events).Nodup)
    {d : List Move} (hd : d <+: during) {r : k.Record}
    (hs : (matching before controlled call d).memory.Stores k r) :
    ∀ c ∈ (play before).clients, ¬c.deleted k (k.entity.id r) := by
  intro c hc hdel
  obtain ⟨x, hx, hw⟩ := dropped_of_deleted hc hdel
  obtain ⟨rest, rfl⟩ := hd
  rw [matching, ← List.cons_append, ← List.append_assoc] at hn
  have hgone := gone (granted_append hn) hx hw
  obtain ⟨data, hg, -⟩ := hs
  exact absurd (hgone.symm.trans hg) nofun

lemma yields_held {ε : Type} {w : Surroundings ε} {e : ε} {m : Memory} {rs : List k.Record}
    (h : m.Holds k rs) : k.entity.list.Yields w.calm.world (e, m) (.ok rs) (e, m) := by
  have hl : (store (.list k)).Yields w.calm.world (e, m) (.ok (m.table k).documents) (e, m) :=
    yields_ask rfl
  exact hl.list h

lemma perform_match {ε : Type} (w : Surroundings ε) (limit : Span) (e : ε) {m : Memory}
    {trunks : List Trunk} {rules : List Rule} (ht : m.Holds .trunk trunks)
    (hr : m.Holds .rule rules) :
    w.calm.perform limit controlled (.matchCall call) (e, m) = (route trunks rules call, e, m) := by
  have hy : (matchCall call).Yields w.calm.world (e, m) (route trunks rules call) (e, m) := by
    refine Yields.bind (yields_held (k := .trunk) ht) ?_
    refine Yields.bind (yields_held (k := .rule) hr) ?_
    cases route trunks rules call with
    | ok d => exact (yields_note _ _ _).bind (yields_pure _ _)
    | error f => exact (yields_note _ _ _).bind (yields_throw _ _)
  have hrun : ((Action.matchCall call).operation ⟨true, controlled⟩).run.run w.calm.world limit ⟨0⟩
      (e, m) = (some (route trunks rules call), e, m) := hy.run limit ⟨0⟩
  rw [Surroundings.perform, Surroundings.carryOut, hrun]
  rfl

/-- What a match tells, whatever else is under way: it comes to an outcome, and routes by the
trunks of one moment and the rules of a later one. So it names nothing whose deletion was over when
it began, passes over nothing that was there all the time and, if the trunks stayed as they were,
is as good as a match at the later moment. -/
theorem match_tells (before : List Move) (controlled : Bool) (call : Call) (during : List Move)
    (hf : ∀ f, .turn (play before).clients.length (.fail f) ∉ during) :
    let s := matching before controlled call
    let i := (play before).clients.length
    (∃ turns : List Turn, (∀ f, .fail f ∉ turns) ∧
      ((s (during ++ turns.map (.turn i))).decision? i).isSome) ∧
    ∀ o, (s during).decision? i = some o →
      ∃ d₁ d₂ trunks rules, Moments before controlled call during o d₁ d₂ trunks rules ∧
        ((granted (s during).events).Nodup → ∀ d, o = .ok d → ∀ c ∈ (play before).clients,
          ¬c.deleted .trunk d.trunkId ∧ ¬c.deleted .rule d.ruleId) ∧
        (∀ t, (∀ d, d <+: during → (s d).decision? i = none → (s d).memory.Stores .trunk t) →
          t ∈ trunks) ∧
        (∀ r, (∀ d, d <+: during → (s d).decision? i = none → (s d).memory.Stores .rule r) →
          r ∈ rules) ∧
        ((∀ x ∈ (s d₁).chronicle d₂, ∀ w, x.2.written = some w → w.kind ≠ .trunk) →
          ∀ (ε : Type) (w : Surroundings ε) (limit : Span) (e : ε),
            w.calm.perform limit controlled (.matchCall call) (e, (s (d₁ ++ d₂)).memory) =
              (o, e, (s (d₁ ++ d₂)).memory)) := by
  intro s i
  refine ⟨match_finishes before controlled call during, fun o ho => ?_⟩
  obtain ⟨d₁, d₂, trunks, rules, h⟩ := exists_moments ho hf
  refine ⟨d₁, d₂, trunks, rules, h, ?_, ?_, ?_, ?_⟩
  · intro hn d hd c hc
    obtain ⟨⟨t, ht, hti⟩, r, hr, hri⟩ := route_mem (h.outcome.symm.trans hd)
    rw [← hti, ← hri]
    exact ⟨not_deleted (k := .trunk) hn h.within₁ ((h.stores_trunk t).mp ht) c hc,
      not_deleted (k := .rule) hn h.within ((h.stores_rule r).mp hr) c hc⟩
  · intro t ht
    exact (h.stores_trunk t).mpr (ht d₁ h.within₁ h.undecided₁)
  · intro r hr
    exact (h.stores_rule r).mpr (hr (d₁ ++ d₂) h.within h.undecided₂)
  · intro hw ε w limit e
    have htable : (s (d₁ ++ d₂)).memory.table .trunk = (s d₁).memory.table .trunk := by
      rw [show s (d₁ ++ d₂) = (s d₁).playOn d₂ from matching_append before controlled call d₁ d₂]
      exact table_playOn hw
    have ht : (s (d₁ ++ d₂)).memory.Holds .trunk trunks := by
      rw [Memory.Holds, htable]
      exact h.holds₁
    rw [h.outcome]
    exact perform_match w limit e ht h.holds₂

/-- A trunk and two rules for it are created, of which the first is deleted. -/
def firstDeleted : List Move :=
  [.start false (.createTrunk ⟨[], "", "", "", "", ""⟩), .turn 0 (.grant "ST_1"), .turn 0 .serve,
    .turn 0 .log, .start false (.createRule ⟨.direct "hall", ["ST_1"], false⟩),
    .turn 1 (.grant "SDR_1"), .turn 1 .serve, .turn 1 .serve, .turn 1 .log,
    .start false (.createRule ⟨.direct "lobby", ["ST_1"], false⟩), .turn 2 (.grant "SDR_2"),
    .turn 2 .serve, .turn 2 .serve, .turn 2 .log, .start false (.deleteRule "SDR_1"),
    .turn 3 .serve, .turn 3 .serve, .turn 3 .log]

/-- A match lists the trunks; while another rule is created, it lists the rules. -/
def interrupted : List Move :=
  [.turn 4 .serve, .start false (.createRule ⟨.direct "attic", [], false⟩),
    .turn 5 (.grant "SDR_0"), .turn 5 .serve, .turn 4 .serve, .turn 5 .log, .turn 4 .log]

def ringing : Call := ⟨"192.0.2.1", "+15550100", "+15550199"⟩

theorem match_tells_interrupted :
    let s := matching firstDeleted false ringing
    let d : Decision := ⟨"ST_1", "SDR_2", "lobby", "sip_+15550199", some "+15550199"⟩
    ∃ d₁ d₂ trunks rules,
      Moments firstDeleted false ringing interrupted (.ok d) d₁ d₂ trunks rules ∧
      (∀ c ∈ (play firstDeleted).clients, ¬c.deleted .trunk "ST_1" ∧ ¬c.deleted .rule "SDR_2") ∧
      (∀ t, (∀ d, d <+: interrupted → (s d).decision? 4 = none → (s d).memory.Stores .trunk t) →
        t ∈ trunks) := by
  intro s d
  have hi : (play firstDeleted).clients.length = 4 := by decide +kernel
  have hn : (granted (matching firstDeleted false ringing interrupted).events).Nodup := by
    decide +kernel
  have ho : (matching firstDeleted false ringing interrupted).decision?
      (play firstDeleted).clients.length = some (.ok d) := by decide +kernel
  have hf (f : Failure) : .turn (play firstDeleted).clients.length (.fail f) ∉ interrupted := by
    simp [hi, interrupted]
  obtain ⟨d₁, d₂, trunks, rules, h, hd, ht, -⟩ :=
    (match_tells firstDeleted false ringing interrupted hf).2 _ ho
  rw [hi] at ht
  exact ⟨d₁, d₂, trunks, rules, h, hd hn d rfl, ht⟩

end Scene

end Switchboard.Service
