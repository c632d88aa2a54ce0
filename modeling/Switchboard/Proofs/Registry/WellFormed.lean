import Switchboard.Proofs.Registry.FirstOccurrences
import Switchboard.Proofs.Registry.Routes
import Switchboard.Proofs.Service.Documents
import Switchboard.Registry.PatternCache

/-! What a request that passed its check makes is well formed. A call among well-formed trunks is
never refused for a pattern. -/

namespace Switchboard

open Store

def Trunk.WellFormed (t : Trunk) : Prop :=
  "" ∉ t.inboundAddresses ∧ (t.numberPattern = "" ∨ ∃ m, Matcher.ofText t.numberPattern = .ok m)

def Rule.WellFormed (r : Rule) : Prop :=
  r.trunkIds.Nodup ∧ "" ∉ r.trunkIds ∧ ∀ room, r.destination = .direct room → room ≠ ""

def Participant.WellFormed (p : Participant) : Prop :=
  p.trunkId ≠ "" ∧ p.callTo ≠ "" ∧ p.room ≠ "" ∧ p.identity ≠ ""

def Store.Kind.WellFormed : (k : Kind) → k.Record → Prop
  | .trunk => Trunk.WellFormed
  | .rule => Rule.WellFormed
  | .participant => Participant.WellFormed

lemma TrunkRequest.wellFormed {r : TrunkRequest} (h : r.check = .ok ()) (id : String) :
    (Trunk.ofRequest id r).WellFormed := by
  unfold check numberMatcher? numberMatcher at h
  split_ifs at h with ha hp
  · exact ⟨ha, .inl hp⟩
  · refine ⟨ha, .inr ?_⟩
    cases hm : Matcher.ofText r.numberPattern with
    | ok m => exact ⟨m, hm⟩
    | error fault => simp [hm, Except.map, Except.mapError] at h

lemma RuleRequest.wellFormed {r : RuleRequest} (h : r.check = .ok ()) (id : String) :
    (Rule.ofRequest id r).WellFormed := by
  unfold check at h
  split_ifs at h with hd hi
  have hfirst := FirstOccurrences.of_distinctAfter r.trunkIds
  refine ⟨hfirst.nodup, fun hm => hi ((hfirst.mem_iff "").mp hm), ?_⟩
  rintro room hr rfl
  exact hd hr

lemma ParticipantRequest.chosenIdentity_ne (r : ParticipantRequest) : r.chosenIdentity ≠ "" := by
  unfold chosenIdentity
  cases hi : r.identity.filter (· ≠ "") with
  | none =>
    intro he
    have hl := congrArg String.length he
    simp at hl
  | some identity =>
    have := (Option.filter_eq_some_iff.mp hi).2
    simpa using this

lemma ParticipantRequest.wellFormed {r : ParticipantRequest} (h : r.check = .ok ())
    (id callId : String) (now : Time.Timestamp) :
    (Participant.ofRequest id callId now r).WellFormed := by
  unfold check at h
  split_ifs at h with ht hc hr
  exact ⟨ht, hc, hr, r.chosenIdentity_ne⟩

lemma Trunk.WellFormed.fault? {t : Trunk} (h : t.WellFormed) : t.fault? = none := by
  unfold Trunk.fault?
  split_ifs with hp
  · rfl
  · obtain ⟨m, hm⟩ := h.2.resolve_left hp
    simp [hm]

lemma Trunk.WellFormed.accepts {t : Trunk} (h : t.WellFormed) (number : String) :
    t.accepts number = .ok (t.takes number) := by
  rw [accepts_eq, h.fault?]

lemma Trunk.WellFormed.cache_accepts {t : Trunk} (h : t.WellFormed) (c : PatternCache)
    (number : String) : ∃ b, (c.accepts t number).1 = .ok b := by
  unfold PatternCache.accepts
  split_ifs with hp
  · exact ⟨true, rfl⟩
  · obtain ⟨m, hm⟩ := h.2.resolve_left hp
    cases c.find? t.numberPattern with
    | some m => exact ⟨_, rfl⟩
    | none => exact ⟨m.occursIn number, by simp [numberMatcher, hm, Except.mapError]⟩

lemma route_not_internal {trunks : List Trunk} {rules : List Rule} {call : Call} {f : Failure}
    (h : route trunks rules call = .error f) : f.kind ≠ .internal := by
  have hr := routes_route trunks rules call
  rw [h] at hr
  cases hr <;> nofun

/-- Why a call is refused as wrongly asked for, when no pattern is at fault: no candidate takes the
number, or the rule that was found gives each caller a room and there is no caller. -/
inductive Unsuited (trunks : List Trunk) (rules : List Rule) (call : Call) : Prop
  | number (hc : preferred Trunk.inboundAddresses call.address trunks ≠ [])
    (ha : ∀ t ∈ preferred Trunk.inboundAddresses call.address trunks,
      t.accepts call.number = .ok false)
  | caller (t : Trunk) (r : Rule) (start : String)
    (ht : selectTrunk trunks call.address call.number = .ok t)
    (hr : selectRule rules t.id = some r) (hd : r.destination = .individual start)
    (hn : call.caller = "")

lemma unsuited_of_route {trunks : List Trunk} {rules : List Rule} {call : Call} {f : Failure}
    (hw : ∀ t ∈ trunks, t.WellFormed) (h : route trunks rules call = .error f)
    (hk : f.kind = .invalidArgument) : Unsuited trunks rules call := by
  have hr := routes_route trunks rules call
  rw [h] at hr
  cases hr with
  | noTrunk => cases hk
  | noRule => cases hk
  | @noPattern before t after fault hc hb hf =>
    have ht : t ∈ trunks := mem_of_preferred (hc ▸ List.mem_append_right _ (.head _))
    rw [(hw t ht).fault?] at hf
    cases hf
  | refused hc hne hp ha =>
    subst hc
    refine .number hne fun t ht => ?_
    rw [(hw t (mem_of_preferred ht)).accepts, ha t ht]
  | anonymous hc hp ht hr hd hn =>
    exact .caller _ _ _ (selectTrunk_ok hc hp ht) (selectRule_eq_some hr) hd hn

end Switchboard
