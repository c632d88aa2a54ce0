import Switchboard.Proofs.Service.Directory
import Switchboard.Proofs.Store.Changes

/-! A store of documents beside a directory of records, each document that of a record. -/

namespace Switchboard.Service

open Store Time Text

section

variable {k : Kind} (shelf : Shelf k) (id other : String)

lemma getElem?_shelf_insert (r : k.Record) :
    (shelf.insert id r)[other]? = if other = id then some r else shelf[other]? := by
  rw [Std.TreeMap.getElem?_insert]
  exact if_congr (Std.LawfulEqCmp.compare_eq_iff_eq.trans eq_comm) rfl rfl

lemma getElem?_shelf_erase :
    (shelf.erase id)[other]? = if other = id then none else shelf[other]? := by
  rw [Std.TreeMap.getElem?_erase]
  exact if_congr (Std.LawfulEqCmp.compare_eq_iff_eq.trans eq_comm) rfl rfl

end

structure Mirrors (m : Memory) (d : Directory) : Prop where
  ordered : ∀ k, (m.table k).Ordered
  held : ∀ k id, m.get? k id = (d k)[id]?.map k.document
  proper : ∀ k id r, (d k)[id]? = some r → k.entity.id r = id ∧ k.Storable r

namespace Mirrors

variable {m : Memory} {d : Directory} {k : Kind}

lemma empty : Mirrors .empty Directory.empty where
  ordered k := by cases k <;> exact Table.empty_ordered
  held k id := by
    rw [Directory.empty, Std.TreeMap.getElem?_emptyc]
    cases k <;> rfl
  proper k id r h := by
    rw [Directory.empty, Std.TreeMap.getElem?_emptyc] at h
    cases h

lemma contains_eq (h : Mirrors m d) (k : Kind) (id : String) :
    (m.table k).contains id = (d k).contains id := by
  rw [Std.TreeMap.contains_eq_isSome_getElem?, Table.contains, ← Memory.get?, h.held,
    Option.isSome_map]

lemma documents (h : Mirrors m d) (k : Kind) :
    (m.table k).documents = (d.records k).map k.document := by
  have he : (m.table k).entries = (d k).toList.map fun e => (e.1, k.document e.2) := by
    -- tables and shelves both ascend in the octets of the ids
    refine (h.ordered k).eq_of_mem_iff (List.pairwise_map.mpr ?_) fun ⟨id, data⟩ => ?_
    · exact Std.TreeMap.ordered_keys_toList.imp fun hlt => (compareOn_octets_eq_lt _ _).mp hlt
    · rw [← Table.get?_eq_some_iff (h.ordered k), ← Memory.get?, h.held, Option.map_eq_some_iff,
        List.mem_map]
      constructor
      · rintro ⟨r, hr, rfl⟩
        exact ⟨(id, r), Std.TreeMap.mem_toList_iff_getElem?_eq_some.mpr hr, rfl⟩
      · rintro ⟨⟨_, r⟩, hr, he⟩
        cases he
        exact ⟨r, Std.TreeMap.mem_toList_iff_getElem?_eq_some.mp hr, rfl⟩
  simp [Table.documents, Directory.records, he, Function.comp_def]

theorem mem_records (h : Mirrors m d) (r : k.Record) :
    r ∈ d.records k ↔ (d k)[k.entity.id r]? = some r := by
  constructor
  · intro hr
    obtain ⟨⟨id, r⟩, hm, rfl⟩ := List.mem_map.mp hr
    have hg := Std.TreeMap.mem_toList_iff_getElem?_eq_some.mp hm
    obtain ⟨rfl, -⟩ := h.proper k id r hg
    exact hg
  · intro hg
    exact List.mem_map.mpr ⟨_, Std.TreeMap.mem_toList_iff_getElem?_eq_some.mpr hg, rfl⟩

theorem records_ascending (h : Mirrors m d) (k : Kind) :
    (d.records k).Pairwise fun r s => precedes (k.entity.id r) (k.entity.id s) = true := by
  refine List.pairwise_map.mpr ?_
  refine Std.TreeMap.ordered_keys_toList.imp_of_mem fun {x y} hx hy hlt => ?_
  have hi {x : String × k.Record} (hx : x ∈ (d k).toList) : k.entity.id x.2 = x.1 :=
    (h.proper k x.1 x.2 (Std.TreeMap.mem_toList_iff_getElem?_eq_some.mp hx)).1
  rw [hi hx, hi hy]
  exact (compareOn_octets_eq_lt _ _).mp hlt

lemma add (h : Mirrors m d) {r : k.Record} (hs : k.Storable r)
    (hf : m.get? k (k.entity.id r) = none) :
    Mirrors ((Write.put k (k.entity.id r) (k.document r)).apply m)
      (Function.update d k ((d k).insert (k.entity.id r) r)) where
  ordered l := by
    by_cases hl : l = k
    · subst hl
      simpa [Write.apply] using Table.insert_ordered (h.ordered l) hf _
    · simpa [Write.apply, hl] using h.ordered l
  held l id := by
    rw [Memory.get?_put hf]
    by_cases hl : l = k
    · subst hl
      rw [Function.update_self, getElem?_shelf_insert, h.held]
      by_cases hi : id = l.entity.id r <;> simp [hi]
    · simp [hl, h.held]
  proper l id r' hr := by
    by_cases hl : l = k
    · subst hl
      rw [Function.update_self, getElem?_shelf_insert] at hr
      split_ifs at hr with hi
      · cases hr
        exact ⟨hi.symm, hs⟩
      · exact h.proper l id r' hr
    · rw [Function.update_of_ne hl] at hr
      exact h.proper l id r' hr

lemma remove (h : Mirrors m d) (k : Kind) (id : String) :
    Mirrors ((Write.drop k id).apply m) (Function.update d k ((d k).erase id)) where
  ordered l := by
    by_cases hl : l = k
    · subst hl
      simpa [Write.apply] using Table.erase_ordered (h.ordered l) id
    · simpa [Write.apply, hl] using h.ordered l
  held l other := by
    rw [Memory.get?_drop]
    by_cases hl : l = k
    · subst hl
      rw [Function.update_self, getElem?_shelf_erase, h.held]
      by_cases hi : other = id <;> simp [hi]
    · simp [hl, h.held]
  proper l other r' hr := by
    by_cases hl : l = k
    · subst hl
      rw [Function.update_self, getElem?_shelf_erase] at hr
      split_ifs at hr with hi
      exact h.proper l other r' hr
    · rw [Function.update_of_ne hl] at hr
      exact h.proper l other r' hr

end Mirrors

end Switchboard.Service
