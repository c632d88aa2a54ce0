import Switchboard.Proofs.Registry.FirstLeast

/-! Where a call goes, told without the search for it: of two preferences, for what names an
address or a trunk, and for the smallest id, the first goes before the second. -/

namespace Switchboard

open Text

def Trunk.fault? (t : Trunk) : Option Matcher.Fault :=
  if t.numberPattern = "" then none
  else
    match Matcher.ofText t.numberPattern with
    | .ok _ => none
    | .error fault => some fault

def Trunk.takes (t : Trunk) (number : String) : Bool :=
  t.numberPattern = "" ||
    match Matcher.ofText t.numberPattern with
    | .ok m => m.occursIn number
    | .error _ => false

section

variable {α : Type}

/-- The elements that name something or, only if there is none, those that name nothing. -/
def preferred (names : α → List String) (name : String) (as : List α) : List α :=
  if ∃ a ∈ as, name ∈ names a then as.filter (name ∈ names ·) else as.filter (names · = [])

lemma preferred_eq_nil_iff (names : α → List String) (name : String) (as : List α) :
    preferred names name as = [] ↔ ∀ a ∈ as, names a ≠ [] ∧ name ∉ names a := by
  unfold preferred
  split_ifs with h
  · obtain ⟨a, ha, hn⟩ := h
    refine ⟨fun hf => ?_, fun hf => absurd hn (hf a ha).2⟩
    have hm := List.filter_eq_nil_iff.mp hf a ha
    simp [hn] at hm
  · push Not at h
    simp only [List.filter_eq_nil_iff, decide_eq_true_eq]
    exact ⟨fun hf a ha => ⟨hf a ha, h a ha⟩, fun hf a ha => (hf a ha).1⟩

lemma mem_of_preferred {names : α → List String} {name : String} {as : List α} {a : α}
    (h : a ∈ preferred names name as) : a ∈ as := by
  unfold preferred at h
  split_ifs at h <;> exact (List.mem_filter.mp h).1

end

def Rule.decision (t : Trunk) (r : Rule) (caller : String) : Decision :=
  let shown := if r.hidesCaller then redacted caller else caller
  { trunkId := t.id
    ruleId := r.id
    room :=
      match r.destination with
      | .direct room => room
      | .individual start => start ++ shown
    identity := "sip_" ++ shown
    caller := if r.hidesCaller then none else some caller }

inductive Routes (trunks : List Trunk) (rules : List Rule) (call : Call) : Outcome Decision → Prop
  | noTrunk (hc : preferred Trunk.inboundAddresses call.address trunks = []) :
    Routes trunks rules call (.error (.notFound ("no trunk accepts calls from " ++ call.address)))
  | noPattern {before t after fault}
    (hc : preferred Trunk.inboundAddresses call.address trunks = before ++ t :: after)
    (hb : ∀ b ∈ before, b.fault? = none) (hf : t.fault? = some fault) :
    Routes trunks rules call (.error (.invalidArgument
      ("inbound numbers regex " ++ quoted t.numberPattern ++ ": " ++ fault.text)))
  | refused {cs} (hc : preferred Trunk.inboundAddresses call.address trunks = cs) (hne : cs ≠ [])
    (hp : ∀ t ∈ cs, t.fault? = none) (ha : ∀ t ∈ cs, t.takes call.number = false) :
    Routes trunks rules call (.error (.invalidArgument ("number " ++ call.number ++
      " is not accepted by trunks " ++ String.intercalate ", " (cs.map Trunk.id))))
  | noRule {cs t} (hc : preferred Trunk.inboundAddresses call.address trunks = cs)
    (hp : ∀ t ∈ cs, t.fault? = none) (ht : FirstLeast Trunk.id (cs.filter (·.takes call.number)) t)
    (hr : ∀ r ∈ rules, r.trunkIds ≠ [] ∧ t.id ∉ r.trunkIds) :
    Routes trunks rules call (.error (.notFound ("no dispatch rule for trunk " ++ t.id)))
  | anonymous {cs t r start} (hc : preferred Trunk.inboundAddresses call.address trunks = cs)
    (hp : ∀ t ∈ cs, t.fault? = none) (ht : FirstLeast Trunk.id (cs.filter (·.takes call.number)) t)
    (hr : FirstLeast Rule.id (preferred Rule.trunkIds t.id rules) r)
    (hd : r.destination = .individual start) (hn : call.caller = "") :
    Routes trunks rules call (.error (.invalidArgument ("dispatch rule " ++ r.id ++
      " gives each caller a room and needs a caller number")))
  | routed {cs t r} (hc : preferred Trunk.inboundAddresses call.address trunks = cs)
    (hp : ∀ t ∈ cs, t.fault? = none) (ht : FirstLeast Trunk.id (cs.filter (·.takes call.number)) t)
    (hr : FirstLeast Rule.id (preferred Rule.trunkIds t.id rules) r)
    (hn : ∀ start, r.destination = .individual start → call.caller ≠ "") :
    Routes trunks rules call (.ok (r.decision t call.caller))

lemma candidates_eq (trunks : List Trunk) (address : String) :
    candidates trunks address = preferred Trunk.inboundAddresses address trunks := by
  have he : (trunks.filter (·.lists address)).isEmpty ↔
      ¬∃ t ∈ trunks, address ∈ t.inboundAddresses := by
    simp [List.isEmpty_iff, List.filter_eq_nil_iff, Trunk.lists]
  unfold candidates preferred
  by_cases h : ∃ t ∈ trunks, address ∈ t.inboundAddresses
  · rw [if_pos h, if_neg fun hn => he.mp hn h]
    rfl
  · rw [if_neg h, if_pos (he.mpr h)]
    refine List.filter_congr fun t _ => ?_
    rw [Bool.eq_iff_iff]
    simp [Trunk.isWildcard]

lemma accepts_eq (t : Trunk) (number : String) :
    t.accepts number = match t.fault? with
      | none => .ok (t.takes number)
      | some fault => .error (fault.failure t.numberPattern) := by
  unfold Trunk.accepts Trunk.fault? Trunk.takes numberMatcher? numberMatcher
  split_ifs with h
  · simp [h, Except.map]
  · cases hm : Matcher.ofText t.numberPattern with
    | ok m => simp [h, Except.map, Except.mapError]
    | error fault => simp [Except.map, Except.mapError]

lemma accepting_ok (number : String) {cs : List Trunk} (h : ∀ t ∈ cs, t.fault? = none) :
    accepting number cs = .ok (cs.filter (·.takes number)) := by
  induction cs with
  | nil => rfl
  | cons t cs ih =>
    have ht : t.accepts number = .ok (t.takes number) := by rw [accepts_eq, h t (by simp)]
    rw [accepting, ht, ih fun t ht => h t (by simp [ht])]
    cases hk : t.takes number <;> simp [hk, bind, Except.bind, pure, Except.pure]

lemma accepting_error (number : String) {before after : List Trunk} {t : Trunk}
    {fault : Matcher.Fault} (hb : ∀ b ∈ before, b.fault? = none) (hf : t.fault? = some fault) :
    accepting number (before ++ t :: after) = .error (fault.failure t.numberPattern) := by
  induction before with
  | nil =>
    have ht : t.accepts number = .error (fault.failure t.numberPattern) := by rw [accepts_eq, hf]
    rw [List.nil_append, accepting, ht]
    rfl
  | cons b before ih =>
    have ht : b.accepts number = .ok (b.takes number) := by rw [accepts_eq, hb b (by simp)]
    rw [List.cons_append, accepting, ht, ih fun b hm => hb b (by simp [hm])]
    rfl

lemma exists_first_fault (cs : List Trunk) (h : ¬∀ t ∈ cs, t.fault? = none) :
    ∃ before t after fault, cs = before ++ t :: after ∧ (∀ b ∈ before, b.fault? = none) ∧
      t.fault? = some fault := by
  induction cs with
  | nil => simp at h
  | cons t cs ih =>
    cases hf : t.fault? with
    | some fault => exact ⟨[], t, cs, fault, rfl, by simp, hf⟩
    | none =>
      obtain ⟨before, t', after, fault, rfl, hb, ht⟩ := ih fun hcs => h fun t' ht' => by
        rcases List.mem_cons.mp ht' with rfl | ht'
        · exact hf
        · exact hcs t' ht'
      refine ⟨t :: before, t', after, fault, rfl, fun b hm => ?_, ht⟩
      rcases List.mem_cons.mp hm with rfl | hm
      · exact hf
      · exact hb b hm

section

variable {trunks : List Trunk} {address number : String} {cs : List Trunk}

lemma selectTrunk_empty (hc : preferred Trunk.inboundAddresses address trunks = []) :
    selectTrunk trunks address number =
      .error (.notFound ("no trunk accepts calls from " ++ address)) := by
  simp [selectTrunk, candidates_eq, hc, bind, Except.bind, throw, throwThe, MonadExceptOf.throw]

lemma selectTrunk_fault {before after : List Trunk} {t : Trunk} {fault : Matcher.Fault}
    (hc : preferred Trunk.inboundAddresses address trunks = before ++ t :: after)
    (hb : ∀ b ∈ before, b.fault? = none) (hf : t.fault? = some fault) :
    selectTrunk trunks address number = .error (fault.failure t.numberPattern) := by
  simp [selectTrunk, candidates_eq, hc, accepting_error number hb hf, bind, Except.bind]

lemma selectTrunk_refused (hc : preferred Trunk.inboundAddresses address trunks = cs)
    (hne : cs ≠ []) (hp : ∀ t ∈ cs, t.fault? = none)
    (ha : ∀ t ∈ cs, t.takes number = false) :
    selectTrunk trunks address number = .error (.invalidArgument ("number " ++ number ++
      " is not accepted by trunks " ++ String.intercalate ", " (cs.map Trunk.id))) := by
  have hn : cs.filter (·.takes number) = [] :=
    List.filter_eq_nil_iff.mpr fun t ht => by simp [ha t ht]
  simp [selectTrunk, candidates_eq, hc, hne, accepting_ok number hp, hn, least?, ids, bind,
    Except.bind, throw, throwThe, MonadExceptOf.throw]

lemma selectTrunk_ok (hc : preferred Trunk.inboundAddresses address trunks = cs)
    (hp : ∀ t ∈ cs, t.fault? = none) {t : Trunk}
    (ht : FirstLeast Trunk.id (cs.filter (·.takes number)) t) :
    selectTrunk trunks address number = .ok t := by
  have hl := (least?_id Trunk.id _ t).mpr ht
  have hne : cs ≠ [] := by
    rintro rfl
    simp [least?] at hl
  simp [selectTrunk, candidates_eq, hc, hne, accepting_ok number hp, hl, bind, Except.bind, pure,
    Except.pure]

end

lemma selectRule_eq_none_iff (rules : List Rule) (id : String) :
    selectRule rules id = none ↔ ∀ r ∈ rules, r.trunkIds ≠ [] ∧ id ∉ r.trunkIds := by
  rw [selectRule, least?_eq_none_iff, List.filter_eq_nil_iff]
  simp [Rule.appliesTo, Rule.isWildcard, Rule.references]

lemma preferred_rules {rules : List Rule} {id : String} {r : Rule}
    (hr : r ∈ rules.filter (·.appliesTo id))
    (hl : ∀ b ∈ rules.filter (·.appliesTo id), b.precedes r = false) :
    ∃ q : Rule → Bool, preferred Rule.trunkIds id rules =
      (rules.filter (·.appliesTo id)).filter q ∧ q r = true ∧
        ∀ b, q b = true → b.isWildcard = r.isWildcard := by
  have hra := (List.mem_filter.mp hr).2
  unfold preferred
  split_ifs with h
  · obtain ⟨b, hb, hbi⟩ := h
    -- `r` does not go behind `b`, so it names the trunk too
    have hbw : b.isWildcard = false := by
      cases hl : b.trunkIds <;> simp_all [Rule.isWildcard]
    have hrw : r.isWildcard = false := by
      by_contra hne
      have hw : r.isWildcard = true := by simpa using hne
      have hlb := hl b (List.mem_filter.mpr ⟨hb, by simp [Rule.appliesTo, Rule.references, hbi]⟩)
      simp [Rule.precedes, hbw, hw] at hlb
    refine ⟨fun b => id ∈ b.trunkIds, ?_, ?_, fun b hb => ?_⟩
    · rw [List.filter_filter]
      refine List.filter_congr fun b _ => ?_
      simp [Rule.appliesTo, Rule.references]
      tauto
    · simpa [Rule.appliesTo, hrw, Rule.references] using hra
    · rw [hrw]
      cases hl : b.trunkIds <;> simp_all [Rule.isWildcard]
  · have hn (b : Rule) (hb : b ∈ rules) : id ∉ b.trunkIds := fun hm => h ⟨b, hb, hm⟩
    have hrw : r.isWildcard = true := by
      simpa [Rule.appliesTo, Rule.references, hn r (List.mem_filter.mp hr).1] using hra
    refine ⟨Rule.isWildcard, ?_, hrw, fun b hb => hb.trans hrw.symm⟩
    rw [List.filter_filter]
    refine List.filter_congr fun b _ => ?_
    rw [Bool.eq_iff_iff]
    simpa [Rule.appliesTo, Rule.isWildcard] using Or.inl

lemma selectRule_firstLeast {rules : List Rule} {id : String} {r : Rule}
    (h : selectRule rules id = some r) :
    FirstLeast Rule.id (preferred Rule.trunkIds id rules) r := by
  have hl := Leads.of_least? ranking_rule h
  obtain ⟨q, hq, hqr, hw⟩ := preferred_rules hl.mem fun b hb => hl.not_before ranking_rule hb
  obtain ⟨bs, cs, he, hbs, hcs⟩ := hl
  refine ⟨bs.filter q, cs.filter q, ?_, fun b hb => ?_, fun b hb => ?_⟩
  · rw [hq, he, List.filter_append, List.filter_cons_of_pos hqr]
  · have hm := List.mem_filter.mp hb
    have hp := hbs b hm.1
    rw [Rule.precedes, if_pos (hw b hm.2).symm] at hp
    exact (precedes_iff _ _).mp hp
  · have hm := List.mem_filter.mp hb
    have hp := hcs b hm.1
    rw [Rule.precedes, if_pos (hw b hm.2)] at hp
    simpa [precedes] using hp

lemma selectRule_eq_some {rules : List Rule} {id : String} {r : Rule}
    (h : FirstLeast Rule.id (preferred Rule.trunkIds id rules) r) :
    selectRule rules id = some r := by
  cases hs : selectRule rules id with
  | none =>
    obtain ⟨bs, cs, he, -⟩ := h
    rw [selectRule_eq_none_iff, ← preferred_eq_nil_iff, he] at hs
    simp at hs
  | some r' => rw [(selectRule_firstLeast hs).unique h]

lemma Routes.sound {trunks : List Trunk} {rules : List Rule} {call : Call} {o : Outcome Decision}
    (h : Routes trunks rules call o) : route trunks rules call = o := by
  cases h with
  | noTrunk hc =>
    rw [route, selectTrunk_empty hc]
    rfl
  | noPattern hc hb hf =>
    rw [route, selectTrunk_fault hc hb hf]
    rfl
  | refused hc hne hp ha =>
    rw [route, selectTrunk_refused hc hne hp ha]
    rfl
  | noRule hc hp ht hr =>
    rw [route, selectTrunk_ok hc hp ht]
    simp only [bind, Except.bind, (selectRule_eq_none_iff _ _).mpr hr]
    rfl
  | anonymous hc hp ht hr hd hn =>
    rw [route, selectTrunk_ok hc hp ht]
    simp only [bind, Except.bind, selectRule_eq_some hr]
    simp [Rule.assign, hd, hn]
  | @routed cs t r hc hp ht hr hn =>
    rw [route, selectTrunk_ok hc hp ht]
    simp only [bind, Except.bind, selectRule_eq_some hr]
    cases hd : r.destination with
    | direct room => simp [Rule.assign, Rule.decision, hd, pure, Except.pure]
    | individual start => simp [Rule.assign, Rule.decision, hd, hn start hd, pure, Except.pure]

lemma exists_routes (trunks : List Trunk) (rules : List Rule) (call : Call) :
    ∃ o, Routes trunks rules call o := by
  by_cases hne : preferred Trunk.inboundAddresses call.address trunks = []
  · exact ⟨_, .noTrunk hne⟩
  by_cases hp : ∀ t ∈ preferred Trunk.inboundAddresses call.address trunks, t.fault? = none
  · by_cases ha : (preferred Trunk.inboundAddresses call.address trunks).filter
        (·.takes call.number) = []
    · exact ⟨_, .refused rfl hne hp fun t ht => by simpa using List.filter_eq_nil_iff.mp ha t ht⟩
    obtain ⟨t, ht⟩ := exists_firstLeast Trunk.id ha
    by_cases hr : preferred Rule.trunkIds t.id rules = []
    · exact ⟨_, .noRule rfl hp ht ((preferred_eq_nil_iff _ _ _).mp hr)⟩
    obtain ⟨r, hr⟩ := exists_firstLeast Rule.id hr
    by_cases hn : ∀ start, r.destination = .individual start → call.caller ≠ ""
    · exact ⟨_, .routed rfl hp ht hr hn⟩
    · push Not at hn
      obtain ⟨start, hd, hn⟩ := hn
      exact ⟨_, .anonymous rfl hp ht hr hd hn⟩
  · obtain ⟨before, t, after, fault, hc, hb, hf⟩ := exists_first_fault _ hp
    exact ⟨_, .noPattern hc hb hf⟩

lemma routes_route (trunks : List Trunk) (rules : List Rule) (call : Call) :
    Routes trunks rules call (route trunks rules call) := by
  obtain ⟨o, ho⟩ := exists_routes trunks rules call
  rwa [ho.sound]

lemma route_mem {trunks : List Trunk} {rules : List Rule} {call : Call} {d : Decision}
    (h : route trunks rules call = .ok d) :
    (∃ t ∈ trunks, t.id = d.trunkId) ∧ ∃ r ∈ rules, r.id = d.ruleId := by
  have hr := routes_route trunks rules call
  rw [h] at hr
  cases hr with
  | @routed cs t r hc hp ht hr hn =>
    refine ⟨⟨t, ?_, rfl⟩, r, mem_of_preferred hr.mem, rfl⟩
    exact mem_of_preferred (hc ▸ (List.mem_filter.mp ht.mem).1)

theorem route_eq_iff (trunks : List Trunk) (rules : List Rule) (call : Call)
    (o : Outcome Decision) : route trunks rules call = o ↔ Routes trunks rules call o := by
  refine ⟨fun h => ?_, Routes.sound⟩
  obtain ⟨o', ho⟩ := exists_routes trunks rules call
  rwa [← h, ho.sound]

end Switchboard
