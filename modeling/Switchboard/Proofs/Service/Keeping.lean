import Switchboard.Proofs.Service.Documents
import Switchboard.Proofs.Store.Changes

/-! A store that only the service writes to holds documents of records, each under its own id. -/

namespace Switchboard

open Store Text

def Store.Kind.Documents (k : Kind) (id : String) (data : Octets) : Prop :=
  ∃ r : k.Record, k.Storable r ∧ id = k.entity.id r ∧ data = k.document r

def Store.Memory.Kept (m : Memory) : Prop :=
  ∀ k, (m.table k).Ordered ∧ ∀ e ∈ (m.table k).entries, k.Documents e.1 e.2

lemma kept_empty : Memory.empty.Kept := by
  intro k
  cases k <;> exact ⟨Table.empty_ordered, fun _ h => absurd h (by simp [Memory.empty, Memory.table,
    Table.empty])⟩

lemma Store.Memory.Kept.documents {m : Memory} (h : m.Kept) {k : Kind} {id : String}
    {data : Octets} (hg : m.get? k id = some data) : k.Documents id data :=
  (h k).2 _ ((Table.get?_eq_some_iff (h k).1 id data).mp hg)

lemma Store.Memory.Kept.put {m : Memory} (h : m.Kept) {k : Kind} {id : String} {data : Octets}
    (hf : m.get? k id = none) (hd : k.Documents id data) :
    ((Write.put k id data).apply m).Kept := by
  intro l
  by_cases hl : l = k
  · subst hl
    simp only [Write.apply, Memory.table_withTable, if_true]
    refine ⟨Table.insert_ordered (h l).1 hf data, fun e he => ?_⟩
    rcases (Table.mem_place id data _ e).mp he with rfl | he
    · exact hd
    · exact (h l).2 e he
  · simpa only [Write.apply, Memory.table_withTable, if_neg hl] using h l

lemma Store.Memory.Kept.drop {m : Memory} (h : m.Kept) (k : Kind) (id : String) :
    ((Write.drop k id).apply m).Kept := by
  intro l
  by_cases hl : l = k
  · subst hl
    simp only [Write.apply, Memory.table_withTable, if_true]
    exact ⟨Table.erase_ordered (h l).1 id, fun e he => (h l).2 e (List.mem_of_mem_filter he)⟩
  · simpa only [Write.apply, Memory.table_withTable, if_neg hl] using h l

lemma Store.Memory.Kept.serve {m : Memory} (h : m.Kept) {r : Store.Request}
    (hd : ∀ k id data, r = .insert k id data → k.Documents id data) : (m.serve r).store.Kept := by
  cases hw : r.written (m.serve r).outcome with
  | none => rwa [Memory.serve_unwritten hw]
  | some w =>
    cases w with
    | put k id data =>
      obtain ⟨hr, hf, hs⟩ := Memory.serve_put hw
      rw [hs]
      exact h.put hf (hd k id data hr)
    | drop k id =>
      rw [(Memory.serve_drop hw).2.2]
      exact h.drop k id

namespace Store.Memory

variable {m : Memory} {k : Kind} {r : k.Record} {rs : List k.Record}

def Stores (m : Memory) (k : Kind) (r : k.Record) : Prop :=
  ∃ data, m.get? k (k.entity.id r) = some data ∧ k.entity.decode data = .ok r

def Holds (m : Memory) (k : Kind) (rs : List k.Record) : Prop :=
  k.entity.decodeAll (m.table k).documents = .ok rs

lemma Kept.records (h : m.Kept) (k : Kind) : ∃ rs : List k.Record, (∀ r ∈ rs, k.Storable r) ∧
    (m.table k).entries = rs.map fun r => (k.entity.id r, k.document r) := by
  have hd := (h k).2
  generalize (m.table k).entries = es at hd
  induction es with
  | nil => exact ⟨[], nofun, rfl⟩
  | cons e es ih =>
    obtain ⟨id, data⟩ := e
    obtain ⟨r, hr, rfl, rfl⟩ := hd _ (.head _)
    obtain ⟨rs, hrs, he⟩ := ih fun e he => hd e (.tail _ he)
    exact ⟨r :: rs, List.forall_mem_cons.mpr ⟨hr, hrs⟩, by rw [he, List.map_cons]⟩

lemma Kept.stores (h : m.Kept) {id : String} {data : Octets} (hg : m.get? k id = some data) :
    ∃ r : k.Record, k.entity.id r = id ∧ k.entity.decode data = .ok r ∧ m.Stores k r := by
  obtain ⟨r, hr, rfl, rfl⟩ := h.documents hg
  exact ⟨r, rfl, decode_document hr, _, hg, decode_document hr⟩

lemma Kept.holds_records (h : m.Kept) (k : Kind) : ∃ rs, m.Holds k rs ∧
    ∀ r, r ∈ rs ↔ m.Stores k r := by
  obtain ⟨rs, hrs, he⟩ := h.records k
  refine ⟨rs, ?_, fun r => ⟨fun hr => ?_, fun ⟨data, hg, hd⟩ => ?_⟩⟩
  · unfold Holds Table.documents
    rw [he, List.map_map]
    exact decodeAll_documents rs hrs
  · refine ⟨k.document r, (Table.get?_eq_some_iff (h k).1 _ _).mpr ?_, decode_document (hrs r hr)⟩
    rw [he]
    exact List.mem_map_of_mem hr
  · rw [get?, Table.get?_eq_some_iff (h k).1, he] at hg
    obtain ⟨r', hr', he'⟩ := List.mem_map.mp hg
    obtain ⟨-, rfl⟩ := Prod.mk.inj he'
    obtain rfl := Except.ok.inj ((decode_document (hrs r' hr')).symm.trans hd)
    exact hr'

lemma Kept.mem_iff (h : m.Kept) (hh : m.Holds k rs) (r : k.Record) : r ∈ rs ↔ m.Stores k r := by
  obtain ⟨rs', hh', hm⟩ := h.holds_records k
  obtain rfl := Except.ok.inj (hh'.symm.trans hh)
  exact hm r

end Store.Memory

end Switchboard
