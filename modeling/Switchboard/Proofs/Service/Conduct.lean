import Switchboard.Proofs.Service.Courses
import Switchboard.Proofs.Service.Keeping

/-! How the actions conduct themselves: they read as they like, write at most once, ask nothing
after that, and end with what they wrote. -/

namespace Switchboard.Service

open Store Time

inductive Change where
  | added (kind : Kind) (record : kind.Record)
  | removed (kind : Kind) (record : kind.Record)

def Change.write : Change → Write
  | .added k r => .put k (k.entity.id r) (k.document r)
  | .removed k r => .drop k (k.entity.id r)

namespace Action

def change? : (a : Action) → Outcome a.Result → Option Change
  | createTrunk _, .ok t => some (.added .trunk t)
  | createRule _, .ok r => some (.added .rule r)
  | createParticipant _, .ok p => some (.added .participant p)
  | deleteTrunk _, .ok t => some (.removed .trunk t)
  | deleteRule _, .ok r => some (.removed .rule r)
  | deleteParticipant _, .ok p => some (.removed .participant p)
  | _, _ => none

def target? : Action → Option (Kind × String)
  | deleteTrunk id => some (.trunk, id)
  | deleteRule id => some (.rule, id)
  | deleteParticipant id => some (.participant, id)
  | _ => none

end Action

def Event.written : Event → Option Write
  | .asked (.store r) o => r.written o
  | _ => none

def writes (past : List Event) : List Write := past.filterMap Event.written

section

variable (past : List Event)

@[simp] lemma writes_nil : writes [] = [] := rfl

@[simp] lemma writes_noted (n : Notice) : writes (.noted n :: past) = writes past := rfl

@[simp] lemma writes_allocated (start id : String) :
    writes (.allocated start id :: past) = writes past := rfl

@[simp] lemma writes_asked (r : Store.Request) (o : Outcome r.Answer) :
    writes (.asked (.store r) o :: past) = (r.written o).toList ++ writes past := by
  simp only [writes, List.filterMap_cons, Event.written]
  cases r.written o <;> rfl

end

def Orderly : Request → List Event → Prop
  | .store (.insert k id data), past => writes past = [] ∧ k.Documents id data
  | _, past => writes past = []

lemma orderly_writes {r : Request} {past : List Event} (h : Orderly r past) : writes past = [] := by
  unfold Orderly at h
  split at h
  · exact h.1
  · exact h

/-- How an action may end: it has written what its outcome tells of; what it added has an id that
was given out to it, what it removed it had loaded. -/
structure Action.Concludes (a : Action) (o : Outcome a.Result) (past : List Event) : Prop where
  wrote : writes past = ((a.change? o).map Change.write).toList
  added : ∀ k r, a.change? o = some (.added k r) →
    k.Storable r ∧ ∃ start, .allocated start (k.entity.id r) ∈ past
  removed : ∀ k r, a.change? o = some (.removed k r) → ∃ id data, a.target? = some (k, id) ∧
    .asked (.store (.get k id)) (.ok (some data)) ∈ past ∧ k.entity.decode data = .ok r

lemma Action.concludes_unchanged {a : Action} {o : Outcome a.Result} {past : List Event}
    (hc : a.change? o = none) (hw : writes past = []) : a.Concludes o past where
  wrote := by simp [hc, hw]
  added := by simp [hc]
  removed := by simp [hc]

lemma Action.change?_error (a : Action) (f : Failure) : a.change? (.error f) = none := by
  cases a <;> rfl

lemma Action.concludes_error (a : Action) (f : Failure) {past : List Event}
    (hw : writes past = []) : a.Concludes (.error f) past :=
  concludes_unchanged (a.change?_error f) hw

lemma Action.concludes_added {a : Action} {o : Outcome a.Result} {past : List Event} {k : Kind}
    {r : k.Record} {start : String} (hc : a.change? o = some (.added k r)) (hs : k.Storable r)
    (ha : .allocated start (k.entity.id r) ∈ past)
    (hw : writes past = [(Change.added k r).write]) : a.Concludes o past where
  wrote := by simp [hc, hw]
  added k' r' h := by
    rw [hc, Option.some.injEq, Change.added.injEq] at h
    obtain ⟨rfl, h⟩ := h
    obtain rfl := eq_of_heq h
    exact ⟨hs, start, ha⟩
  removed k' r' h := by simp [hc] at h

lemma Action.concludes_removed {a : Action} {o : Outcome a.Result} {past : List Event} {k : Kind}
    {r : k.Record} {id : String} {data : Text.Octets} (hc : a.change? o = some (.removed k r))
    (ht : a.target? = some (k, id)) (hw : writes past = [(Change.removed k r).write])
    (hg : .asked (.store (.get k id)) (.ok (some data)) ∈ past)
    (hd : k.entity.decode data = .ok r) : a.Concludes o past where
  wrote := by simp [hc, hw]
  added k' r' h := by simp [hc] at h
  removed k' r' h := by
    rw [hc, Option.some.injEq, Change.removed.injEq] at h
    obtain ⟨rfl, h⟩ := h
    exact ⟨id, data, ht, hg, eq_of_heq h ▸ hd⟩

variable {α β : Type}

def Operation.Reads (op : Operation α) : Prop :=
  ∀ (ends : Outcome α → List Event → Prop) (past : List Event), writes past = [] →
    (∀ o past', writes past' = [] → past ⊆ past' → ends o past') → op.Meets Orderly ends past

namespace Operation

lemma Reads.bind_meets {op : Operation α} {k : α → Operation β} {past : List Event}
    {ends : Outcome β → List Event → Prop} (h : op.Reads) (hw : writes past = [])
    (hf : ∀ f past', writes past' = [] → past ⊆ past' → ends (.error f) past')
    (hk : ∀ a past', writes past' = [] → past ⊆ past' → (k a).Meets Orderly ends past') :
    (op >>= k).Meets Orderly ends past := by
  rw [meets_bind]
  refine h _ past hw fun o past' hw' hs => ?_
  cases o with
  | ok a => exact hk a past' hw' hs
  | error f => exact hf f past' hw' hs

lemma Reads.bind {op : Operation α} {k : α → Operation β} (h : op.Reads) (hk : ∀ a, (k a).Reads) :
    (op >>= k).Reads := by
  intro ends past hw he
  exact h.bind_meets hw (fun f => he (.error f)) fun a past' hw' hs =>
    hk a ends past' hw' fun o past'' hw'' hs' => he o past'' hw'' (List.Subset.trans hs hs')

lemma reads_ofOutcome (o : Outcome α) : (ofOutcome o).Reads :=
  fun _ past hw he => he o past hw (List.Subset.refl past)

lemma reads_pure (a : α) : (pure a : Operation α).Reads := reads_ofOutcome (.ok a)

lemma reads_throw (f : Failure) : (throw f : Operation α).Reads := reads_ofOutcome (.error f)

lemma reads_note (level : Level) (text : String) : (note level text).Reads :=
  fun _ past hw he => he _ _ hw (List.subset_cons_self _ past)

lemma reads_within {op : Operation α} (h : op.Reads) (context : String) :
    (op.within context).Reads := by
  intro ends past hw he
  rw [meets_within]
  exact h _ past hw fun o past' hw' hs => he _ past' hw' hs

lemma reads_send (p : Participant) (d : Digits) : (ask (.send p d)).Reads :=
  fun _ past hw he => ⟨hw, fun _ => he _ _ hw (List.subset_cons_self _ past)⟩

lemma reads_get (k : Kind) (id : String) : (store (.get k id)).Reads :=
  fun _ past hw he => ⟨hw, fun o => he o _ (by simp [hw, Store.Request.written])
    (List.subset_cons_self _ past)⟩

lemma reads_list (k : Kind) : (store (.list k)).Reads :=
  fun _ past hw he => ⟨hw, fun o => he o _ (by simp [hw, Store.Request.written])
    (List.subset_cons_self _ past)⟩

lemma reads_ping : (store .ping).Reads :=
  fun _ past hw he => ⟨hw, fun o => he o _ (by simp [hw, Store.Request.written])
    (List.subset_cons_self _ past)⟩

end Operation

open Operation

lemma reads_find (e : Entity α) (id : String) : (e.find id).Reads := by
  refine Reads.bind (reads_within (reads_get e.kind id) _) fun found => ?_
  cases found with
  | none => exact reads_pure none
  | some data => exact Reads.bind (reads_ofOutcome _) fun a => reads_pure (some a)

lemma reads_load (e : Entity α) (id : String) : (e.load id).Reads := by
  refine Reads.bind (reads_find e id) fun found => ?_
  cases found with
  | none => exact reads_throw _
  | some a => exact reads_pure a

lemma reads_entities (e : Entity α) : e.list.Reads :=
  Reads.bind (reads_within (reads_list e.kind) _) fun _ => reads_ofOutcome _

lemma reads_missingTrunks (ids : List String) : (missingTrunks ids).Reads := by
  induction ids with
  | nil => exact reads_pure []
  | cons id ids ih =>
    exact Reads.bind (reads_find _ id) fun _ => Reads.bind ih fun _ => reads_pure _

section

variable {may : Request → List Event → Prop} {k : Kind} {past : List Event}

lemma request_meets (verb id : String) (r : Store.Request)
    (ends : Outcome r.Answer → List Event → Prop) :
    (k.entity.request verb id r).Meets may ends past ↔ may (.store r) past ∧ ∀ o : Outcome r.Answer,
      ends (o.mapError (·.within (k.name ++ " " ++ verb ++ " " ++ id)))
        (.asked (.store r) o :: past) := by
  simpa only [entity_kind] using k.entity.meets_request verb id r ends

lemma insert_meets (r : k.Record) (ends : Outcome Unit → List Event → Prop) :
    (k.entity.insert r).Meets may ends past ↔
      may (.store (.insert k (k.entity.id r) (k.document r))) past ∧ ∀ o : Outcome Unit,
        ends (o.mapError (·.within (k.name ++ " " ++ "insert" ++ " " ++ k.entity.id r)))
          (.asked (.store (.insert k (k.entity.id r) (k.document r))) o :: past) := by
  unfold Entity.insert
  rw [entity_kind]
  exact request_meets _ _ (.insert k _ _) ends

lemma delete_meets (r : k.Record) (ends : Outcome Unit → List Event → Prop) :
    (k.entity.delete r).Meets may ends past ↔
      may (.store (.delete k (k.entity.id r))) past ∧ ∀ o : Outcome Bool,
        ends (match o with
          | .ok true => .ok ()
          | .ok false => .error (.notFound (k.title (k.entity.id r)))
          | .error f => .error (f.within (k.name ++ " " ++ "delete" ++ " " ++ k.entity.id r)))
          (.asked (.store (.delete k (k.entity.id r))) o :: past) := by
  unfold Entity.delete
  rw [meets_bind, entity_kind]
  refine (request_meets _ _ (.delete k _) _).trans ?_
  refine and_congr_right fun _ => forall_congr' fun o => ?_
  rcases o with f | _ | _ <;> rfl

lemma find_meets (id : String) (ends : Outcome (Option k.Record) → List Event → Prop) :
    (k.entity.find id).Meets may ends past ↔
      may (.store (.get k id)) past ∧ ∀ o : Outcome (Option Text.Octets),
        ends (match o with
          | .ok (some data) => (k.entity.decode data).map some
          | .ok none => .ok none
          | .error f => .error (f.within (k.name ++ " " ++ "get" ++ " " ++ id)))
          (.asked (.store (.get k id)) o :: past) := by
  unfold Entity.find
  rw [meets_bind, entity_kind]
  refine (request_meets _ _ (.get k _) _).trans ?_
  refine and_congr_right fun _ => forall_congr' fun o => ?_
  rcases o with f | _ | data
  · rfl
  · rfl
  · cases hd : k.entity.decode data <;> simp [Except.mapError, Except.map, hd]

lemma entities_meets (ends : Outcome (List k.Record) → List Event → Prop) :
    k.entity.list.Meets may ends past ↔
      may (.store (.list k)) past ∧ ∀ o : Outcome (List Text.Octets),
        ends (match o with
          | .ok docs => k.entity.decodeAll docs
          | .error f => .error (f.within (k.name ++ " list")))
          (.asked (.store (.list k)) o :: past) := by
  unfold Entity.list
  rw [meets_bind, meets_within, entity_kind]
  refine and_congr_right fun _ => forall_congr' fun o => ?_
  cases o <;> rfl

lemma load_meets (id : String) (ends : Outcome k.Record → List Event → Prop) :
    (k.entity.load id).Meets may ends past ↔
      may (.store (.get k id)) past ∧ ∀ o : Outcome (Option Text.Octets),
        ends (match o with
          | .ok (some data) => k.entity.decode data
          | .ok none => .error (.notFound (k.title id))
          | .error f => .error (f.within (k.name ++ " " ++ "get" ++ " " ++ id)))
          (.asked (.store (.get k id)) o :: past) := by
  unfold Entity.load
  rw [meets_bind, entity_kind]
  refine (find_meets id _).trans ?_
  refine and_congr_right fun _ => forall_congr' fun o => ?_
  rcases o with f | _ | data
  · rfl
  · rfl
  · cases hd : k.entity.decode data <;> simp [Except.map, hd]

end

lemma create_meets {k : Kind} {r : k.Record} {past : List Event}
    {ends : Outcome k.Record → List Event → Prop} (level : Level) (text : String)
    (hw : writes past = []) (hs : k.Storable r)
    (hok : ∀ past', writes past' = [(Change.added k r).write] → past ⊆ past' →
      ends (.ok r) past')
    (hf : ∀ f past', writes past' = [] → ends (.error f) past') :
    (do k.entity.insert r; note level text; return r : Operation k.Record).Meets Orderly ends
      past := by
  rw [meets_bind, insert_meets]
  refine ⟨⟨hw, r, hs, rfl, rfl⟩, fun o => ?_⟩
  cases o with
  | ok u =>
    exact hok _ (by simp [hw, Store.Request.written, Change.write])
      (List.Subset.trans (List.subset_cons_self _ past) (List.subset_cons_self _ _))
  | error f => exact hf _ _ (by simp [hw, Store.Request.written])

lemma remove_meets {k : Kind} {past : List Event} {ends : Outcome k.Record → List Event → Prop}
    (id : String) (check : k.Record → Outcome Unit) (level : Level) (text : k.Record → String)
    (hw : writes past = [])
    (hok : ∀ r data past', writes past' = [(Change.removed k r).write] →
      .asked (.store (.get k id)) (.ok (some data)) ∈ past' → k.entity.decode data = .ok r →
      ends (.ok r) past')
    (hf : ∀ f past', writes past' = [] → ends (.error f) past') :
    (do let r ← k.entity.remove id check; note level (text r); return r :
      Operation k.Record).Meets Orderly ends past := by
  simp only [Entity.remove, meets_bind, load_meets, meets_ofOutcome, delete_meets]
  refine ⟨hw, fun found => ?_⟩
  rcases found with f | _ | data
  · exact hf _ _ (by simp [hw, Store.Request.written])
  · exact hf _ _ (by simp [hw, Store.Request.written])
  · have hg : writes (.asked (.store (.get k id)) (.ok (some data)) :: past) = [] := by
      simp [hw, Store.Request.written]
    cases hd : k.entity.decode data with
    | error f =>
      simp only [hd]
      exact hf f _ hg
    | ok r =>
      simp only [hd]
      cases hc : check r with
      | error f => exact hf f _ hg
      | ok u =>
        refine ⟨hg, fun o => ?_⟩
        rcases o with f | _ | _
        · exact hf _ _ (by simp [hw, Store.Request.written])
        · exact hf _ _ (by simp [hw, Store.Request.written])
        · exact hok r data _ (by simp [hw, Store.Request.written, Change.write]) (by simp) hd

variable {past : List Event}

lemma createTrunk_meets (r : TrunkRequest) (hw : writes past = []) :
    (createTrunk r).Meets Orderly (Action.createTrunk r).Concludes past := by
  refine (reads_ofOutcome r.check).bind_meets hw (fun f _ hw _ => Action.concludes_error _ f hw)
    fun _ past hw _ => ?_
  rw [meets_bind, meets_allocate]
  intro id
  exact create_meets (k := .trunk) _ _ hw trivial
    (fun _ hw' hs => Action.concludes_added rfl trivial (hs (.head _)) hw')
    (fun f _ hw' => Action.concludes_error _ f hw')

lemma createRule_meets (r : RuleRequest) (hw : writes past = []) :
    (createRule r).Meets Orderly (Action.createRule r).Concludes past := by
  refine (reads_ofOutcome r.check).bind_meets hw (fun f _ hw _ => Action.concludes_error _ f hw)
    fun _ past hw _ => ?_
  rw [meets_bind, meets_allocate]
  intro id
  refine (reads_missingTrunks _).bind_meets hw (fun f _ hw _ => Action.concludes_error _ f hw)
    fun missing past' hw' hs => ?_
  by_cases hm : missing.isEmpty
  · simp only [hm]
    exact create_meets (k := .rule) _ _ hw' trivial
      (fun _ hw'' hs' => Action.concludes_added rfl trivial (hs' (hs (.head _))) hw'')
      (fun f _ hw'' => Action.concludes_error _ f hw'')
  · simp only [hm]
    exact Action.concludes_error _ _ hw'

lemma createParticipant_meets (r : ParticipantRequest) (hw : writes past = []) :
    (createParticipant r).Meets Orderly (Action.createParticipant r).Concludes past := by
  refine (reads_ofOutcome r.check).bind_meets hw (fun f _ hw _ => Action.concludes_error _ f hw)
    fun _ past hw _ => ?_
  refine (reads_find _ _).bind_meets hw (fun f _ hw _ => Action.concludes_error _ f hw)
    fun found past' hw' hs => ?_
  cases found with
  | none => exact Action.concludes_error _ _ hw'
  | some t =>
    simp only [Option.isNone_some, Bool.false_eq_true, if_false]
    simp only [meets_bind, meets_allocate, meets_clock]
    intro id callId now hv
    simp only [← meets_bind]
    exact create_meets (k := .participant) _ _ hw' hv
      (fun _ hw'' hs => Action.concludes_added rfl hv (hs (.tail _ (.tail _ (.head _)))) hw'')
      (fun f _ hw'' => Action.concludes_error _ f hw'')

lemma deleteTrunk_meets (id : String) (hw : writes past = []) :
    (deleteTrunk id).Meets Orderly (Action.deleteTrunk id).Concludes past := by
  refine (reads_entities _).bind_meets hw (fun f _ hw _ => Action.concludes_error _ f hw)
    fun rules past hw _ => ?_
  exact remove_meets (k := .trunk) id _ _ _ hw
    (fun r _ _ hw' hg hd => Action.concludes_removed rfl rfl hw' hg hd)
    (fun f _ hw' => Action.concludes_error _ f hw')

lemma deleteRule_meets (id : String) (hw : writes past = []) :
    (deleteRule id).Meets Orderly (Action.deleteRule id).Concludes past :=
  remove_meets (k := .rule) id _ _ _ hw
    (fun _ _ _ hw hg hd => Action.concludes_removed rfl rfl hw hg hd)
    (fun f _ hw => Action.concludes_error _ f hw)

lemma deleteParticipant_meets (id : String) (hw : writes past = []) :
    (deleteParticipant id).Meets Orderly (Action.deleteParticipant id).Concludes past :=
  remove_meets (k := .participant) id _ _ _ hw
    (fun _ _ _ hw hg hd => Action.concludes_removed rfl rfl hw hg hd)
    (fun f _ hw => Action.concludes_error _ f hw)

lemma reads_sendDigits (q : Equipment) (id text : String) : (sendDigits q id text).Reads := by
  refine Reads.bind (reads_ofOutcome _) fun digits => Reads.bind (reads_load _ _) fun p => ?_
  have hsend : (do
      let sent ← ask (.send p digits)
      note .info ("Sent DTMF " ++ digits.text ++ " to SIP participant " ++ p.id)
      return sent : Operation SentDigits).Reads :=
    Reads.bind (reads_send p digits) fun _ => Reads.bind (reads_note _ _) fun _ => reads_pure _
  cases hc : q.controlled with
  | false => exact reads_throw _
  | true => exact hsend

lemma reads_matchCall (call : Call) : (matchCall call).Reads := by
  refine Reads.bind (reads_entities _) fun trunks => Reads.bind (reads_entities _) fun rules => ?_
  cases route trunks rules call with
  | ok d => exact Reads.bind (reads_note _ _) fun _ => reads_pure d
  | error f => exact Reads.bind (reads_note _ _) fun _ => reads_throw f

lemma reads_listing {e : Entity α} (level : Level) (text : List α → String) :
    (do let as ← e.list; note level (text as); return as : Operation (List α)).Reads :=
  Reads.bind (reads_entities e) fun _ => Reads.bind (reads_note _ _) fun _ => reads_pure _

theorem Action.meets (q : Equipment) (a : Action) :
    (a.operation q).Meets Orderly a.Concludes [] := by
  have hc : (connect q).Reads := by
    unfold connect
    split_ifs
    · exact reads_pure ()
    · exact reads_throw _
  refine hc.bind_meets rfl (fun f _ hw _ => concludes_error a f hw) fun _ past hw _ => ?_
  have hread (h : ∀ o, a.change? o = none) (hr : (a.body q).Reads) :
      (a.body q).Meets Orderly a.Concludes past :=
    hr _ past hw fun o _ hw' _ => concludes_unchanged (h o) hw'
  cases a with
  | ping => exact hread (fun _ => rfl) reads_ping
  | createTrunk r => exact createTrunk_meets r hw
  | listTrunks => exact hread (fun _ => rfl) (reads_listing _ _)
  | deleteTrunk id => exact deleteTrunk_meets id hw
  | createRule r => exact createRule_meets r hw
  | listRules => exact hread (fun _ => rfl) (reads_listing _ _)
  | deleteRule id => exact deleteRule_meets id hw
  | createParticipant r => exact createParticipant_meets r hw
  | listParticipants => exact hread (fun _ => rfl) (reads_listing _ _)
  | deleteParticipant id => exact deleteParticipant_meets id hw
  | sendDigits id digits => exact hread (fun _ => rfl) (reads_sendDigits q id digits)
  | matchCall call => exact hread (fun _ => rfl) (reads_matchCall call)

end Switchboard.Service
