import Switchboard.Proofs.Registry.Veils
import Switchboard.Proofs.Service.Conduct

/-! Two runs of the service that differ in nothing but passwords of trunks: their plans ask alike,
and whatever alike they are answered, they go on alike. -/

namespace Switchboard

open Store Text

def Store.Kind.veiled : (k : Kind) → k.Record → k.Record
  | .trunk => Trunk.veiled
  | .rule => id
  | .participant => id

def Store.Kind.Twins (k : Kind) (r r' : k.Record) : Prop := k.veiled r = k.veiled r'

namespace Store.Kind.Twins

variable {k : Kind} {r r' : k.Record}

lemma id (h : k.Twins r r') : k.entity.id r = k.entity.id r' :=
  eq_of_veiled h k.entity.id fun _ => by cases k <;> rfl

lemma map_eq {β : Type} {rs rs' : List k.Record} (h : List.Forall₂ k.Twins rs rs')
    (f : k.Record → β) (hf : ∀ r, f (k.veiled r) = f r) : rs.map f = rs'.map f := by
  induction h with
  | nil => rfl
  | cons h _ ih => exact congrArg₂ List.cons (eq_of_veiled h f hf) ih

lemma eq_of_plain {rs rs' : List k.Record} (h : List.Forall₂ k.Twins rs rs')
    (hk : ∀ r, k.veiled r = r) : rs = rs' := by
  simpa using map_eq h (fun r => r) hk

end Store.Kind.Twins

inductive Store.Kind.Alike : Kind → Octets → Octets → Prop
  | same (k : Kind) (data : Octets) : Alike k data data
  | trunk {t t' : Trunk} (h : t.veiled = t'.veiled) :
    Alike .trunk (Kind.document .trunk t) (Kind.document .trunk t')

lemma document_alike {k : Kind} {r r' : k.Record} (h : k.Twins r r') :
    k.Alike (k.document r) (k.document r') := by
  cases k with
  | trunk => exact .trunk h
  | rule =>
    obtain rfl : r = r' := h
    exact .same _ _
  | participant =>
    obtain rfl : r = r' := h
    exact .same _ _

inductive Store.Request.Twins : Store.Request → Store.Request → Prop
  | same (r : Store.Request) : Twins r r
  | insert {k : Kind} {data data' : Octets} (id : String) (h : k.Alike data data') :
    Twins (.insert k id data) (.insert k id data')

lemma route_twins {trunks trunks' : List Trunk} (h : List.Forall₂ Kind.trunk.Twins trunks trunks')
    (rules : List Rule) (call : Call) : route trunks rules call = route trunks' rules call := by
  have hv : trunks.map Trunk.veiled = trunks'.map Trunk.veiled :=
    Kind.Twins.map_eq h Trunk.veiled fun _ => rfl
  rw [← route_veiled trunks, hv, route_veiled]

namespace Service

/-! ### Outcomes -/

inductive Agreed {α β : Type} (R : α → β → Prop) : Outcome α → Outcome β → Prop
  | ok {a : α} {b : β} (h : R a b) : Agreed R (.ok a) (.ok b)
  | error (f : Failure) : Agreed R (.error f) (.error f)

section

variable {α β γ δ : Type} {R : α → β → Prop} {T : γ → δ → Prop}

lemma Agreed.refl {R : α → α → Prop} (hR : ∀ a, R a a) (o : Outcome α) : Agreed R o o := by
  cases o with
  | ok a => exact .ok (hR a)
  | error f => exact .error f

lemma agreed_self (o : Outcome α) : Agreed Eq o o := Agreed.refl (fun _ => rfl) o

lemma Agreed.bind {o : Outcome α} {o' : Outcome β} {f : α → Outcome γ} {f' : β → Outcome δ}
    (h : Agreed R o o') (hf : ∀ a b, R a b → Agreed T (f a) (f' b)) :
    Agreed T (o >>= f) (o' >>= f') := by
  cases h with
  | ok h => exact hf _ _ h
  | error e => exact .error e

lemma decode_agreed {k : Kind} {data data' : Octets} (h : k.Alike data data') :
    Agreed k.Twins (k.entity.decode data) (k.entity.decode data') := by
  cases h with
  | same => exact Agreed.refl (R := k.Twins) (fun _ => rfl) _
  | @trunk t t' h =>
    rw [decode_document (k := .trunk) (r := t) trivial,
      decode_document (k := .trunk) (r := t') trivial]
    exact .ok h

lemma decodeAll_agreed {k : Kind} {docs docs' : List Octets} (h : List.Forall₂ k.Alike docs docs') :
    Agreed (List.Forall₂ k.Twins) (k.entity.decodeAll docs) (k.entity.decodeAll docs') := by
  induction h with
  | nil => exact .ok .nil
  | cons hd _ ih =>
    exact (decode_agreed hd).bind fun r r' hr => ih.bind fun rs rs' hrs => .ok (.cons hr hrs)

end

/-! ### Requests -/

inductive Request.Twins : Request → Request → Prop
  | store {r r' : Store.Request} (h : r.Twins r') : Twins (.store r) (.store r')
  | send (p : Participant) (d : Digits) : Twins (.send p d) (.send p d)

def Request.Alike : (r r' : Request) → r.Answer → r'.Answer → Prop
  | .store (.get k _), .store (.get _ _), found, found' => Option.Rel k.Alike found found'
  | .store (.list k), .store (.list _), docs, docs' => List.Forall₂ k.Alike docs docs'
  | .store (.delete ..), .store (.delete ..), gone, gone' => gone = gone'
  | .send .., .send .., sent, sent' => sent = sent'
  | _, _, _, _ => True

/-! ### Plans -/

section

variable {α β : Type}

inductive Plan.Twins (R : α → β → Prop) : Plan α → Plan β → Prop
  | done {a : α} {b : β} (h : R a b) : Twins R (.done a) (.done b)
  | ask {r r' : Request} {next : Outcome r.Answer → Plan α} {next' : Outcome r'.Answer → Plan β}
    (hr : r.Twins r') (h : ∀ o o', Agreed (r.Alike r') o o' → Twins R (next o) (next' o')) :
    Twins R (.ask r next) (.ask r' next')
  | allocate (start : String) {next : String → Plan α} {next' : String → Plan β}
    (h : ∀ id, Twins R (next id) (next' id)) : Twins R (.allocate start next) (.allocate start next')
  | clock {next : Time.Timestamp → Plan α} {next' : Time.Timestamp → Plan β}
    (h : ∀ now, Twins R (next now) (next' now)) : Twins R (.clock next) (.clock next')
  | note (n : Notice) {next : Plan α} {next' : Plan β} (h : Twins R next next') :
    Twins R (.note n next) (.note n next')

variable {γ δ : Type} {R : α → β → Prop} {T : γ → δ → Prop}

lemma Plan.Twins.bind {p : Plan α} {p' : Plan β} {f : α → Plan γ} {f' : β → Plan δ}
    (h : p.Twins R p') (hf : ∀ a b, R a b → (f a).Twins T (f' b)) :
    (p.bind f).Twins T (p'.bind f') := by
  induction h with
  | done h => exact hf _ _ h
  | ask hr _ ih => exact .ask hr fun o o' ho => ih o o' ho
  | allocate start _ ih => exact .allocate start fun id => ih id
  | clock _ ih => exact .clock fun now => ih now
  | note n _ ih => exact .note n ih

lemma Plan.Twins.mono {R' : α → β → Prop} {p : Plan α} {p' : Plan β} (h : p.Twins R p')
    (hR : ∀ a b, R a b → R' a b) : p.Twins R' p' := by
  induction h with
  | done h => exact .done (hR _ _ h)
  | ask hr _ ih => exact .ask hr fun o o' ho => ih o o' ho
  | allocate start _ ih => exact .allocate start fun id => ih id
  | clock _ ih => exact .clock fun now => ih now
  | note n _ ih => exact .note n ih

def Operation.Twins (R : α → β → Prop) (op : Operation α) (op' : Operation β) : Prop :=
  Plan.Twins (Agreed R) op.run op'.run

namespace Operation

lemma Twins.bind {op : Operation α} {op' : Operation β} {f : α → Operation γ}
    {f' : β → Operation δ} (h : op.Twins R op') (hf : ∀ a b, R a b → (f a).Twins T (f' b)) :
    (op >>= f).Twins T (op' >>= f') := by
  refine Plan.Twins.bind h fun o o' ho => ?_
  cases ho with
  | ok h => exact hf _ _ h
  | error e => exact .done (.error e)

lemma Twins.mono {R' : α → β → Prop} {op : Operation α} {op' : Operation β}
    (h : op.Twins R op') (hR : ∀ a b, R a b → R' a b) : op.Twins R' op' := by
  refine Plan.Twins.mono h fun o o' ho => ?_
  cases ho with
  | ok h => exact .ok (hR _ _ h)
  | error e => exact .error e

lemma Twins.within {op : Operation α} {op' : Operation β} (h : op.Twins R op') (context : String) :
    (op.within context).Twins R (op'.within context) := by
  refine Plan.Twins.bind h fun o o' ho => ?_
  cases ho with
  | ok h => exact .done (.ok h)
  | error e => exact .done (.error _)

lemma twins_ofOutcome {o : Outcome α} {o' : Outcome β} (h : Agreed R o o') :
    (ofOutcome o).Twins R (ofOutcome o') := .done h

lemma twins_outcome (o : Outcome α) : (ofOutcome o).Twins Eq (ofOutcome o) :=
  twins_ofOutcome (agreed_self o)

lemma twins_pure {a : α} {b : β} (h : R a b) : (pure a : Operation α).Twins R (pure b) :=
  .done (.ok h)

lemma twins_throw (f : Failure) : (throw f : Operation α).Twins R (throw f : Operation β) :=
  .done (.error f)

lemma twins_note (level : Level) (text : String) :
    (note level text).Twins Eq (note level text) := .note _ (.done (.ok rfl))

lemma twins_allocate (start : String) : (allocate start).Twins Eq (allocate start) :=
  .allocate start fun _ => .done (.ok rfl)

lemma twins_clock : clock.Twins Eq clock := .clock fun _ => .done (.ok rfl)

lemma twins_ask {r r' : Request} (h : r.Twins r') :
    (Operation.ask r).Twins (r.Alike r') (Operation.ask r') := .ask h fun _ _ ho => .done ho

end Operation

end

/-! ### Records in the store -/

open Operation

section

variable {k : Kind}

lemma twins_request (verb id : String) {r r' : Store.Request} (h : r.Twins r') :
    (k.entity.request verb id r).Twins ((Request.store r).Alike (.store r'))
      (k.entity.request verb id r') := (twins_ask (.store h)).within _

lemma twins_find (id : String) :
    (k.entity.find id).Twins (Option.Rel k.Twins) (k.entity.find id) := by
  refine (twins_request "get" id (.same _)).bind fun found found' hf => ?_
  simp only [Request.Alike, entity_kind] at hf
  cases hf with
  | none => exact twins_pure .none
  | some hd => exact (twins_ofOutcome (decode_agreed hd)).bind fun r r' h => twins_pure (.some h)

lemma twins_load (id : String) : (k.entity.load id).Twins k.Twins (k.entity.load id) := by
  refine (twins_find id).bind fun found found' hf => ?_
  cases hf with
  | none => exact twins_throw _
  | some h => exact twins_pure h

lemma twins_list : k.entity.list.Twins (List.Forall₂ k.Twins) k.entity.list := by
  refine ((twins_ask (.store (.same _))).within _).bind fun docs docs' hd => ?_
  simp only [Request.Alike, entity_kind] at hd
  exact twins_ofOutcome (decodeAll_agreed hd)

variable {r r' : k.Record}

lemma twins_insert (h : k.Twins r r') :
    (k.entity.insert r).Twins (fun _ _ => True) (k.entity.insert r') := by
  have hd : k.entity.kind.Alike (k.document r) (k.document r') := by
    rw [entity_kind]
    exact document_alike h
  rw [Entity.insert, Entity.insert, h.id]
  exact twins_request "insert" _ (.insert _ hd)

lemma twins_delete (h : k.Twins r r') : (k.entity.delete r).Twins Eq (k.entity.delete r') := by
  rw [Entity.delete, Entity.delete, h.id]
  refine (twins_request "delete" _ (.same _)).bind fun gone gone' hg => ?_
  obtain rfl : gone = gone' := hg
  cases gone with
  | true => exact twins_pure rfl
  | false => exact twins_throw _

lemma twins_remove (id : String) {check : k.Record → Outcome Unit}
    (hc : ∀ r, check (k.veiled r) = check r) :
    (k.entity.remove id check).Twins k.Twins (k.entity.remove id check) := by
  refine (twins_load id).bind fun r r' h => ?_
  rw [eq_of_veiled h check hc]
  refine (twins_outcome _).bind fun _ _ _ => ?_
  exact (twins_delete h).bind fun _ _ _ => twins_pure h

end

lemma twins_missingTrunks (ids : List String) :
    (missingTrunks ids).Twins Eq (missingTrunks ids) := by
  induction ids with
  | nil => exact twins_pure rfl
  | cons id ids ih =>
    refine (twins_find (k := .trunk) id).bind fun found found' hf => ih.bind ?_
    rintro missing _ rfl
    cases hf <;> exact twins_pure rfl

/-! ### Actions -/

inductive Action.Twins : Action → Action → Prop
  | same (a : Action) : Twins a a
  | createTrunk {r r' : TrunkRequest} (h : r.veiled = r'.veiled) :
    Twins (.createTrunk r) (.createTrunk r')

lemma Action.Twins.name {a a' : Action} (h : a.Twins a') : a.name = a'.name := by
  cases h <;> rfl

section

variable {k : Kind} {β : Type} (f : k.Record → β) (hf : ∀ r, f (k.veiled r) = f r)
include hf

lemma twins_creating {r r' : k.Record} (h : k.Twins r r') (level : Level) {text text' : String}
    (ht : text = text') :
    (do k.entity.insert r; note level text; return r : Operation k.Record).Twins
      (fun x x' => f x = f x') (do k.entity.insert r'; note level text'; return r') := by
  refine (twins_insert h).bind fun _ _ _ => ?_
  rw [ht]
  exact (twins_note level _).bind fun _ _ _ => twins_pure (eq_of_veiled h f hf)

lemma twins_listing (level : Level) {text : List k.Record → String}
    (ht : ∀ rs rs' : List k.Record, rs.length = rs'.length → text rs = text rs') :
    (do let rs ← k.entity.list; note level (text rs); return rs :
      Operation (List k.Record)).Twins (fun rs rs' => rs.map f = rs'.map f)
      (do let rs ← k.entity.list; note level (text rs); return rs) := by
  refine twins_list.bind fun rs rs' h => ?_
  rw [ht rs rs' h.length_eq]
  exact (twins_note level _).bind fun _ _ _ => twins_pure (Kind.Twins.map_eq h f hf)

lemma twins_removing (id : String) {check : k.Record → Outcome Unit}
    (hc : ∀ r, check (k.veiled r) = check r) (level : Level) {text : k.Record → String}
    (ht : ∀ r, text (k.veiled r) = text r) :
    (do let r ← k.entity.remove id check; note level (text r); return r :
      Operation k.Record).Twins (fun x x' => f x = f x')
      (do let r ← k.entity.remove id check; note level (text r); return r) := by
  refine (twins_remove id hc).bind fun r r' h => ?_
  rw [eq_of_veiled h text ht]
  exact (twins_note level _).bind fun _ _ _ => twins_pure (eq_of_veiled h f hf)

end

end Service

/-! ### Stores -/

namespace Store

def Memory.Alike (m m' : Memory) : Prop := ∀ k,
  List.Forall₂ (fun e e' => e.1 = e'.1 ∧ k.Alike e.2 e'.2) (m.table k).entries (m'.table k).entries

lemma Memory.Alike.refl (m : Memory) : m.Alike m :=
  fun k => List.forall₂_same.mpr fun e _ => ⟨rfl, .same k e.2⟩

section

variable {k : Kind} {es es' : List (String × Octets)}
  (h : List.Forall₂ (fun e e' => e.1 = e'.1 ∧ k.Alike e.2 e'.2) es es')
include h

lemma lookup_alike (id : String) : Option.Rel k.Alike (es.lookup id) (es'.lookup id) := by
  induction h with
  | nil => exact .none
  | @cons e e' es es' he _ ih =>
    obtain ⟨key, data⟩ := e
    obtain ⟨_, data'⟩ := e'
    obtain ⟨rfl, hd⟩ : key = _ ∧ k.Alike data data' := he
    simp only [List.lookup]
    cases id == key with
    | true => exact .some hd
    | false => exact ih

lemma place_alike (id : String) {data data' : Octets} (hd : k.Alike data data') :
    List.Forall₂ (fun e e' => e.1 = e'.1 ∧ k.Alike e.2 e'.2) (Table.place id data es)
      (Table.place id data' es') := by
  induction h with
  | nil => exact .cons ⟨rfl, hd⟩ .nil
  | @cons e e' es es' he hes ih =>
    simp only [Table.place, ← he.1]
    split_ifs
    · exact .cons ⟨rfl, hd⟩ (.cons he hes)
    · exact .cons he ih

lemma filter_alike (id : String) : List.Forall₂ (fun e e' => e.1 = e'.1 ∧ k.Alike e.2 e'.2)
    (es.filter fun e => e.1 ≠ id) (es'.filter fun e => e.1 ≠ id) := by
  induction h with
  | nil => exact .nil
  | @cons e e' es es' he _ ih =>
    simp only [List.filter_cons, ← he.1]
    split_ifs
    · exact .cons he ih
    · exact ih

lemma documents_alike :
    List.Forall₂ k.Alike (es.map Prod.snd) (es'.map Prod.snd) := by
  induction h with
  | nil => exact .nil
  | cons he _ ih => exact .cons he.2 ih

end

namespace Memory.Alike

variable {m m' : Memory}

lemma withTable (h : m.Alike m') {k : Kind} {t t' : Table}
    (ht : List.Forall₂ (fun e e' => e.1 = e'.1 ∧ k.Alike e.2 e'.2) t.entries t'.entries) :
    (m.withTable k t).Alike (m'.withTable k t') := by
  intro l
  rw [table_withTable, table_withTable]
  split_ifs with hl
  · exact hl ▸ ht
  · exact h l

lemma contains_eq (h : m.Alike m') (k : Kind) (id : String) :
    (m.table k).contains id = (m'.table k).contains id := by
  have hl := lookup_alike (h k) id
  simp only [Table.contains, Table.get?]
  generalize (m.table k).entries.lookup id = found at hl ⊢
  generalize (m'.table k).entries.lookup id = found' at hl ⊢
  cases hl <;> rfl

end Memory.Alike

end Store

namespace Service

variable {m m' : Memory}

lemma serve_alike (h : m.Alike m') {r r' : Store.Request} (hr : r.Twins r') :
    Agreed ((Request.store r).Alike (.store r')) (m.serve r).outcome (m'.serve r').outcome ∧
      (m.serve r).notices = (m'.serve r').notices ∧
      (m.serve r).store.Alike (m'.serve r').store := by
  have hinsert {k : Kind} {data data' : Octets} (id : String) (hd : k.Alike data data') :
      Agreed (fun _ _ => True) (m.serve (.insert k id data)).outcome
          (m'.serve (.insert k id data')).outcome ∧
        (m.serve (.insert k id data)).notices = (m'.serve (.insert k id data')).notices ∧
        (m.serve (.insert k id data)).store.Alike (m'.serve (.insert k id data')).store := by
    simp only [Memory.serve, h.contains_eq k id]
    split_ifs
    · exact ⟨.error _, rfl, h⟩
    · exact ⟨.ok trivial, rfl, h.withTable (place_alike (h k) id hd)⟩
  cases hr with
  | insert id hd => exact hinsert id hd
  | same =>
    cases r with
    | get k id => exact ⟨.ok (lookup_alike (h k) id), rfl, h⟩
    | insert k id data => exact hinsert id (.same k data)
    | delete k id =>
      simp only [Memory.serve, h.contains_eq k id]
      split_ifs
      · exact ⟨.ok rfl, rfl, h.withTable (filter_alike (h k) id)⟩
      · exact ⟨.ok rfl, rfl, h⟩
    | list k => exact ⟨.ok (documents_alike (h k)), rfl, h⟩
    | ping => exact ⟨.ok trivial, rfl, h⟩

/-! ### Worlds -/

structure World.Blind {σ : Type} (w : World σ) (S : σ → σ → Prop) : Prop where
  disturb : ∀ {r r' : Request} {s s' : σ}, r.Twins r' → S s s' →
    (w.disturb r s).1 = (w.disturb r' s').1 ∧ S (w.disturb r s).2 (w.disturb r' s').2
  answer : ∀ {r r' : Request} {s s' : σ}, r.Twins r' → S s s' →
    Agreed (r.Alike r') (w.answer r s).1 (w.answer r' s').1 ∧
      S (w.answer r s).2 (w.answer r' s').2
  allocate : ∀ (start : String) {s s' : σ}, S s s' →
    (w.allocate start s).1 = (w.allocate start s').1 ∧
      S (w.allocate start s).2 (w.allocate start s').2
  clock : ∀ {s s' : σ}, S s s' → w.clock s = w.clock s'
  note : ∀ (n : Notice) {s s' : σ}, S s s' → S (w.note n s) (w.note n s')

lemma vacant?_alike {r r' : Request} (h : r.Twins r') :
    Option.Rel (r.Alike r') r.vacant? r'.vacant? := by
  cases h with
  | send p d => exact .none
  | @store r r' h =>
    cases h with
    | insert id hd => exact .some trivial
    | same =>
      cases r with
      | get k id => exact .some .none
      | insert k id data => exact .some trivial
      | delete k id => exact .some rfl
      | list k => exact .some .nil
      | ping => exact .none

lemma Plan.Twins.run {α β σ : Type} {R : α → β → Prop} {w : World σ} {S : σ → σ → Prop}
    (hw : w.Blind S) {p : Plan α} {p' : Plan β} (h : p.Twins R p') (limit : Time.Span) :
    ∀ (waited : Time.Span) {s s' : σ}, S s s' →
      Option.Rel R (p.run w limit waited s).1 (p'.run w limit waited s').1 ∧
        S (p.run w limit waited s).2 (p'.run w limit waited s').2 := by
  induction h with
  | done h => exact fun waited s s' hs => ⟨.some h, hs⟩
  | allocate start _ ih =>
    intro waited s s' hs
    obtain ⟨hid, hs⟩ := hw.allocate start hs
    simp only [Plan.run, hid]
    exact ih _ waited hs
  | clock _ ih =>
    intro waited s s' hs
    simp only [Plan.run, hw.clock hs]
    exact ih _ waited hs
  | note n _ ih => exact fun waited s s' hs => ih waited (hw.note n hs)
  | @ask r r' next next' hr _ ih =>
    intro waited s s' hs
    obtain ⟨hd, hs⟩ := hw.disturb hr hs
    have harrive (waited : Time.Span) := by
      obtain ⟨ho, hs⟩ := hw.answer hr hs
      exact ih _ _ ho waited hs
    simp only [Plan.run, hd]
    cases (w.disturb r' s').1 with
    | none => exact harrive waited
    | fail f => exact ih _ _ (.error f) waited hs
    | hang => exact ⟨.none, hs⟩
    | delay d =>
      simp only
      split_ifs
      · exact ⟨.none, hs⟩
      · exact harrive _
    | absent =>
      have hv := vacant?_alike hr
      generalize r.vacant? = v at hv ⊢
      generalize r'.vacant? = v' at hv ⊢
      cases hv with
      | none => exact harrive waited
      | some h => exact ih _ _ (.ok h) waited hs

end Service

end Switchboard
