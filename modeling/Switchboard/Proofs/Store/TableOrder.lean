import Switchboard.Proofs.Text.Precedence
import Switchboard.Store.Memory

/-! Tables are strictly ascending in the octets of their ids, and stay so. -/

namespace Switchboard.Store

open Switchboard.Text

def Before (e f : String × Octets) : Prop := precedes e.1 f.1 = true

instance : Std.Irrefl Before where
  irrefl e := by simp [Before, precedes_irrefl]

instance : Std.Antisymm Before where
  antisymm e f h h' := absurd h' (by simp [Before, precedes_asymm h])

lemma Before.ne {e f : String × Octets} (h : Before e f) : e.1 ≠ f.1 := precedes_ne h

namespace Table

def Ordered (t : Table) : Prop := t.entries.Pairwise Before

lemma empty_ordered : empty.Ordered := List.Pairwise.nil

lemma place_split (id : String) (data : Octets) (es : List (String × Octets)) :
    ∃ before after, es = before ++ after ∧ place id data es = before ++ (id, data) :: after := by
  induction es with
  | nil => exact ⟨[], [], rfl, rfl⟩
  | cons e es ih =>
    unfold place
    split_ifs with h
    · exact ⟨[], e :: es, rfl, rfl⟩
    · obtain ⟨before, after, he, hp⟩ := ih
      exact ⟨e :: before, after, by rw [he, List.cons_append], by rw [hp, List.cons_append]⟩

lemma mem_place (id : String) (data : Octets) (es : List (String × Octets))
    (e : String × Octets) : e ∈ place id data es ↔ e = (id, data) ∨ e ∈ es := by
  obtain ⟨before, after, he, hp⟩ := place_split id data es
  rw [hp, he]
  simp only [List.mem_append, List.mem_cons]
  tauto

lemma get?_eq_none_iff (t : Table) (id : String) :
    t.get? id = none ↔ ∀ e ∈ t.entries, e.1 ≠ id := by
  simp only [get?, List.lookup_eq_none_iff, bne_iff_ne, ne_comm]

lemma contains_eq_false (t : Table) (id : String) : t.contains id = false ↔ t.get? id = none := by
  simp [contains]

lemma insert_ordered {t : Table} (h : t.Ordered) {id : String} (hf : t.get? id = none)
    (data : Octets) : (t.insert id data).Ordered := by
  rw [get?_eq_none_iff] at hf
  obtain ⟨es⟩ := t
  simp only [Ordered, insert] at *
  induction es with
  | nil => exact List.pairwise_singleton _ _
  | cons e es ih =>
    obtain ⟨he, hes⟩ := List.pairwise_cons.mp h
    unfold place
    split_ifs with hp
    · refine List.pairwise_cons.mpr ⟨fun f hf' => ?_, h⟩
      rcases List.mem_cons.mp hf' with rfl | hf'
      · exact hp
      · exact precedes_trans hp (he f hf')
    · have hb : Before e (id, data) := precedes_of_not (hf e (by simp)).symm (by simpa using hp)
      refine List.pairwise_cons.mpr ⟨fun f hf' => ?_, ih hes fun f hf' => hf f (by simp [hf'])⟩
      rcases (mem_place id data es f).mp hf' with rfl | hf'
      · exact hb
      · exact he f hf'

lemma erase_ordered {t : Table} (h : t.Ordered) (id : String) : (t.erase id).Ordered :=
  List.Pairwise.filter _ h

lemma get?_eq_some_iff {t : Table} (h : t.Ordered) (id : String) (data : Octets) :
    t.get? id = some data ↔ (id, data) ∈ t.entries := by
  obtain ⟨es⟩ := t
  simp only [Ordered, get?] at *
  induction es with
  | nil => simp
  | cons e es ih =>
    obtain ⟨key, value⟩ := e
    obtain ⟨he, hes⟩ := List.pairwise_cons.mp h
    by_cases hk : id = key
    · subst hk
      have hn : (id, data) ∉ es := fun hm => (he _ hm).ne rfl
      simp [hn, eq_comm]
    · have hb : (id == key) = false := by simpa using hk
      simp [List.lookup_cons, hb, ih hes, hk]

lemma get?_insert {t : Table} {id : String} (hf : t.get? id = none) (data : Octets)
    (other : String) :
    (t.insert id data).get? other = if other = id then some data else t.get? other := by
  obtain ⟨before, after, he, hp⟩ := place_split id data t.entries
  have hb : before.lookup id = none := by
    rw [get?, he, List.lookup_append] at hf
    exact (Option.or_eq_none_iff.mp hf).1
  rw [get?, insert, hp, get?, he, List.lookup_append, List.lookup_append, List.lookup_cons]
  split_ifs with ho
  · subst ho
    simp [hb]
  · have hbo : (other == id) = false := by simpa using ho
    simp [hbo]

lemma get?_erase (t : Table) (id other : String) :
    (t.erase id).get? other = if other = id then none else t.get? other := by
  obtain ⟨es⟩ := t
  simp only [erase, get?]
  induction es with
  | nil => simp
  | cons e es ih =>
    obtain ⟨key, value⟩ := e
    by_cases hk : key = id
    · subst hk
      rw [List.filter_cons_of_neg (by simp), ih, List.lookup_cons]
      split_ifs with ho
      · rfl
      · have hb : (other == key) = false := by simpa using ho
        simp [hb]
    · rw [List.filter_cons_of_pos (by simpa using hk), List.lookup_cons, List.lookup_cons, ih]
      by_cases ho : other = key
      · subst ho
        simp [hk]
      · have hb : (other == key) = false := by simpa using ho
        simp [hb]

lemma erase_split {t : Table} (h : t.Ordered) {id : String} {data : Octets}
    (hg : t.get? id = some data) :
    ∃ before after, t.entries = before ++ (id, data) :: after ∧
      (t.erase id).entries = before ++ after := by
  obtain ⟨before, after, he⟩ := List.append_of_mem ((get?_eq_some_iff h id data).mp hg)
  refine ⟨before, after, he, ?_⟩
  rw [Ordered, he, List.pairwise_append] at h
  obtain ⟨_, ha, hc⟩ := h
  have hb : before.filter (fun e => e.1 ≠ id) = before :=
    List.filter_eq_self.mpr fun e hm => by
      simpa using (hc e hm (id, data) (by simp)).ne
  have hr : after.filter (fun e => e.1 ≠ id) = after :=
    List.filter_eq_self.mpr fun e hm => by
      simpa using ((List.pairwise_cons.mp ha).1 e hm).ne.symm
  simp only [erase, he, List.filter_append, List.filter_cons, hb, hr]
  simp

end Table

end Switchboard.Store
