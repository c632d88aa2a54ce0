import Switchboard.Proofs.Service.Conduct

/-! What an action has been told before it writes: the id of what it adds, that the trunks of a new
rule are there, and that no rule names a trunk that is to go. -/

namespace Switchboard.Service

open Store Operation

def Action.addition? : Action → Option Kind
  | createTrunk _ => some .trunk
  | createRule _ => some .rule
  | createParticipant _ => some .participant
  | _ => none

structure Action.Grounds (a : Action) (r : Request) (past : List Event) : Prop where
  added : ∀ k id data, r = .store (.insert k id data) →
    a.addition? = some k ∧ ∃ start, .allocated start id ∈ past
  present : ∀ id data rule, r = .store (.insert .rule id data) →
    ruleEntity.decode data = .ok rule → ∀ t ∈ rule.trunkIds,
      ∃ found, .asked (.store (.get .trunk t)) (.ok (some found)) ∈ past
  removed : ∀ k id, r = .store (.delete k id) → ∃ other, a.target? = some (k, other)
  unnamed : ∀ id, r = .store (.delete .trunk id) → ∃ docs rules,
    .asked (.store (.list .rule)) (.ok docs) ∈ past ∧ ruleEntity.decodeAll docs = .ok rules ∧
      ∀ rule ∈ rules, id ∉ rule.trunkIds

def Request.Reads : Request → Prop
  | .store (.insert ..) | .store (.delete ..) => False
  | _ => True

variable {α : Type} {past : List Event} {k : Kind}

lemma Action.grounds_reading (a : Action) {r : Request} (h : r.Reads) (past : List Event) :
    a.Grounds r past where
  added := by rintro _ _ _ rfl; exact h.elim
  present := by rintro _ _ _ rfl; exact h.elim
  removed := by rintro _ _ rfl; exact h.elim
  unnamed := by rintro _ rfl; exact h.elim

lemma not_writing {may : Request → List Event → Prop} {p : Plan α} {e : Event} {w : Write}
    (h : p.Meets may (fun _ past => writes past = []) (e :: past)) : e.written ≠ some w := by
  intro hw
  obtain ⟨_, past', hn, hs⟩ := h.completes
  have hm : w ∈ writes past' := List.mem_filterMap.mpr ⟨e, hs (.head _), hw⟩
  simp [hn] at hm

lemma Plan.Meets.reads {p : Plan α} (h : p.Meets Orderly (fun _ past => writes past = []) past) :
    p.Meets (fun r _ => r.Reads) (fun _ _ => True) past := by
  induction p generalizing past with
  | done a => trivial
  | ask r next ih =>
    refine ⟨?_, fun o => ih o (h.2 o)⟩
    rcases r with (_ | ⟨k, id, data⟩ | ⟨k, id⟩ | _ | _) | _
    · trivial
    · exact not_writing (h.2 (.ok ())) rfl
    · exact not_writing (h.2 (.ok true)) rfl
    · trivial
    · trivial
    · trivial
  | allocate start next ih => exact fun id => ih id (h id)
  | clock next ih => exact fun now hv => ih now (h now hv)
  | note n next ih => exact ih h

lemma Operation.Reads.grounds {op : Operation α} (h : op.Reads) (a : Action)
    (hw : writes past = []) : op.Meets a.Grounds (fun _ _ => True) past :=
  (Plan.Meets.reads (h _ past hw fun _ _ hw' _ => hw')).imp fun _ past hr =>
    a.grounds_reading hr past

lemma missingTrunks_meets {a : Action} {ids : List String}
    {ends : Outcome (List String) → List Event → Prop} (hf : ∀ f past', ends (.error f) past')
    (hok : ∀ missing past', past ⊆ past' → (∀ id ∈ ids, id ∈ missing ∨
      ∃ found, .asked (.store (.get .trunk id)) (.ok (some found)) ∈ past') →
      ends (.ok missing) past') :
    (missingTrunks ids).Meets a.Grounds ends past := by
  induction ids generalizing past ends with
  | nil => exact hok [] past (List.Subset.refl past) nofun
  | cons id ids ih =>
    rw [missingTrunks, meets_bind]
    refine (find_meets (k := .trunk) id _).mpr ⟨a.grounds_reading (by trivial) past, fun o => ?_⟩
    have hs : past ⊆ .asked (.store (.get .trunk id)) o :: past := List.subset_cons_self _ past
    rcases o with f | _ | data
    · exact hf _ (.asked (.store (.get .trunk id)) (.error f) :: past)
    · refine (meets_bind _ _ _).mpr (ih (fun f past' => hf f past') fun missing past' hs' hm => ?_)
      refine hok (id :: missing) past' (List.Subset.trans hs hs') fun id' hid' => ?_
      rcases List.mem_cons.mp hid' with rfl | hid'
      · exact .inl (.head _)
      · exact (hm id' hid').imp_left (.tail _)
    · cases hd : Kind.trunk.entity.decode data with
      | error f =>
        simp only [hd]
        exact hf f _
      | ok t =>
        simp only [hd]
        refine (meets_bind _ _ _).mpr
          (ih (fun f past' => hf f past') fun missing past' hs' hm => ?_)
        refine hok missing past' (List.Subset.trans hs hs') fun id' hid' => ?_
        rcases List.mem_cons.mp hid' with rfl | hid'
        · exact .inr ⟨data, hs' (.head _)⟩
        · exact hm id' hid'

section

variable {a : Action}

lemma create_grounds {r : k.Record} (level : Level) (text : String)
    (hg : a.Grounds (.store (.insert k (k.entity.id r) (k.document r))) past) :
    (do k.entity.insert r; note level text; return r : Operation k.Record).Meets a.Grounds
      (fun _ _ => True) past := by
  rw [meets_bind, insert_meets]
  refine ⟨hg, fun o => ?_⟩
  cases o <;> trivial

lemma remove_grounds (id : String) (check : k.Record → Outcome Unit) (level : Level)
    (text : k.Record → String)
    (hg : ∀ r past', past ⊆ past' → check r = .ok () →
      a.Grounds (.store (.delete k (k.entity.id r))) past') :
    (do let r ← k.entity.remove id check; note level (text r); return r :
      Operation k.Record).Meets a.Grounds (fun _ _ => True) past := by
  simp only [Entity.remove, meets_bind, load_meets, meets_ofOutcome, delete_meets]
  refine ⟨a.grounds_reading (by trivial) past, fun found => ?_⟩
  rcases found with f | _ | data
  · trivial
  · trivial
  · cases hd : k.entity.decode data with
    | error f => simp only [hd]
    | ok r =>
      simp only [hd]
      cases hc : check r with
      | error f => trivial
      | ok u =>
        refine ⟨hg r _ (List.subset_cons_self _ past) hc, fun o => ?_⟩
        rcases o with f | _ | _ <;> trivial

end

lemma createTrunk_grounds (r : TrunkRequest) :
    (createTrunk r).Meets (Action.createTrunk r).Grounds (fun _ _ => True) past := by
  rw [createTrunk, meets_bind, meets_ofOutcome]
  cases hc : r.check with
  | error f => trivial
  | ok u =>
    simp only
    rw [meets_bind, meets_allocate]
    intro id
    refine create_grounds (k := .trunk) _ _ ⟨?_, nofun, nofun, nofun⟩
    intro k id' data hr
    cases hr
    exact ⟨rfl, "ST_", .head _⟩

lemma createRule_grounds (r : RuleRequest) :
    (createRule r).Meets (Action.createRule r).Grounds (fun _ _ => True) past := by
  rw [createRule, meets_bind, meets_ofOutcome]
  cases hc : r.check with
  | error f => trivial
  | ok u =>
    simp only
    rw [meets_bind, meets_allocate]
    intro id
    refine (meets_bind _ _ _).mpr
      (missingTrunks_meets (fun _ _ => trivial) fun missing past' hs hm => ?_)
    by_cases he : missing.isEmpty
    · simp only [he]
      refine create_grounds (k := .rule) _ _ ⟨?_, ?_, nofun, nofun⟩
      · intro k id' data hr
        cases hr
        exact ⟨rfl, "SDR_", hs (.head _)⟩
      · -- none was missing, so each of them was found
        intro id' data rule hr hd t ht
        cases hr
        obtain rfl := Except.ok.inj ((decode_document (k := .rule) trivial).symm.trans hd)
        refine (hm t ht).resolve_left ?_
        simp [List.isEmpty_iff.mp he]
    · simp only [he]
      trivial

lemma createParticipant_grounds (r : ParticipantRequest) :
    (createParticipant r).Meets (Action.createParticipant r).Grounds (fun _ _ => True) past := by
  rw [createParticipant, meets_bind, meets_ofOutcome]
  cases hc : r.check with
  | error f => trivial
  | ok u =>
    simp only
    rw [meets_bind]
    refine (find_meets (k := .trunk) _ _).mpr
      ⟨Action.grounds_reading _ (by trivial) past, fun o => ?_⟩
    rcases o with f | _ | data
    · trivial
    · trivial
    · cases hd : Kind.trunk.entity.decode data with
      | error f =>
        simp only [hd]
        trivial
      | ok t =>
        simp only [hd]
        refine (meets_bind _ _ _).mpr ((meets_allocate _ _).mpr fun id => ?_)
        refine (meets_bind _ _ _).mpr ((meets_allocate _ _).mpr fun callId => ?_)
        refine (meets_bind _ _ _).mpr ((meets_clock _).mpr fun now _ => ?_)
        refine create_grounds (k := .participant) _ _ ⟨?_, nofun, nofun, nofun⟩
        intro k id' data' hr
        cases hr
        exact ⟨rfl, "SP_", .tail _ (.tail _ (.head _))⟩

lemma unreferenced_ok {rules : List Rule} {t : Trunk} (h : unreferenced rules t = .ok ()) :
    ∀ rule ∈ rules, t.id ∉ rule.trunkIds := by
  intro rule hr hm
  have hn : rule ∈ rules.filter (·.references t.id) :=
    List.mem_filter.mpr ⟨hr, by simpa [Rule.references] using hm⟩
  have he : (rules.filter (·.references t.id)).isEmpty := by
    by_contra he
    simp [unreferenced, he] at h
  simp [List.isEmpty_iff.mp he] at hn

lemma deleteTrunk_grounds (id : String) :
    (deleteTrunk id).Meets (Action.deleteTrunk id).Grounds (fun _ _ => True) past := by
  rw [deleteTrunk, meets_bind]
  refine (entities_meets (k := .rule) _).mpr
    ⟨Action.grounds_reading _ (by trivial) past, fun o => ?_⟩
  cases o with
  | error f => trivial
  | ok docs =>
    cases hd : Kind.rule.entity.decodeAll docs with
    | error f =>
      simp only [hd]
    | ok rules =>
      simp only [hd]
      refine remove_grounds (k := .trunk) id _ _ _ fun t past' hs hc => ⟨nofun, nofun, ?_, ?_⟩
      · intro k id' hr
        cases hr
        exact ⟨id, rfl⟩
      · intro id' hr
        cases hr
        exact ⟨docs, rules, hs (.head _), hd, unreferenced_ok hc⟩

lemma removal_grounds {a : Action} {id : String} (ht : a.target? = some (k, id)) (hk : k ≠ .trunk)
    (other : String) (past : List Event) : a.Grounds (.store (.delete k other)) past where
  added := nofun
  present := nofun
  removed := by
    intro l id' hr
    cases hr
    exact ⟨id, ht⟩
  unnamed := by
    intro id' hr
    cases hr
    exact absurd rfl hk

lemma deleteRule_grounds (id : String) :
    (deleteRule id).Meets (Action.deleteRule id).Grounds (fun _ _ => True) past :=
  remove_grounds (k := .rule) id _ _ _ fun _ past' _ _ => removal_grounds rfl (by decide) _ past'

lemma deleteParticipant_grounds (id : String) :
    (deleteParticipant id).Meets (Action.deleteParticipant id).Grounds (fun _ _ => True) past :=
  remove_grounds (k := .participant) id _ _ _ fun _ past' _ _ =>
    removal_grounds rfl (by decide) _ past'

theorem Action.grounds (q : Equipment) (a : Action) :
    (a.operation q).Meets a.Grounds (fun _ _ => True) [] := by
  rw [Action.operation, meets_bind, connect]
  cases hq : q.connected with
  | false => trivial
  | true =>
    cases a with
    | ping => exact reads_ping.grounds _ rfl
    | createTrunk r => exact createTrunk_grounds r
    | listTrunks => exact (reads_listing _ _).grounds _ rfl
    | deleteTrunk id => exact deleteTrunk_grounds id
    | createRule r => exact createRule_grounds r
    | listRules => exact (reads_listing _ _).grounds _ rfl
    | deleteRule id => exact deleteRule_grounds id
    | createParticipant r => exact createParticipant_grounds r
    | listParticipants => exact (reads_listing _ _).grounds _ rfl
    | deleteParticipant id => exact deleteParticipant_grounds id
    | sendDigits id digits => exact (reads_sendDigits q id digits).grounds _ rfl
    | matchCall call => exact (reads_matchCall call).grounds _ rfl

lemma Action.meets_grounds (q : Equipment) (a : Action) :
    (a.operation q).Meets (fun r past => Orderly r past ∧ a.Grounds r past) a.Concludes [] :=
  ((a.meets q).and (a.grounds q)).mono fun _ _ h => h.1

end Switchboard.Service
