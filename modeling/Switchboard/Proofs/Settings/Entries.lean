import Mathlib
import Switchboard.Settings.Setting

/-! Lists of named values, and what is found in them under a name. -/

namespace Switchboard.Settings

variable {α : Type}

lemma lookup_entry (name other : String) (a : α) (entries : List (String × α)) :
    ((name, a) :: entries).lookup other =
      if other = name then some a else entries.lookup other := by
  rw [List.lookup_cons]
  by_cases ho : other = name
  · simp [ho]
  · have hb : (other == name) = false := beq_false_of_ne ho
    rw [hb, if_neg ho]

lemma mem_of_lookup {name : String} {a : α} {entries : List (String × α)}
    (h : entries.lookup name = some a) : (name, a) ∈ entries := by
  obtain ⟨before, after, rfl, -⟩ := List.lookup_eq_some_iff.mp h
  simp

lemma lookup_put (name other : String) (a : α) (entries : List (String × α)) :
    (put name a entries).lookup other = if other = name then some a else entries.lookup other := by
  induction entries with
  | nil => exact lookup_entry name other a []
  | cons e entries ih =>
    obtain ⟨k, b⟩ := e
    by_cases hk : k = name
    · subst hk
      rw [put, if_pos rfl, lookup_entry, lookup_entry]
      by_cases ho : other = k <;> simp [ho]
    · rw [put, if_neg hk, lookup_entry, lookup_entry, ih]
      by_cases ho : other = k
      · simp [ho, hk]
      · simp [ho]

lemma lookup_of_not_mem {name : String} {entries : List (String × α)}
    (h : name ∉ entries.map Prod.fst) : entries.lookup name = none := by
  rw [List.lookup_eq_none_iff]
  exact fun e he => bne_iff_ne.mpr fun hn => h (List.mem_map.mpr ⟨e, he, hn.symm⟩)

lemma mem_put {name : String} {a : α} {e : String × α} {entries : List (String × α)}
    (h : e ∈ put name a entries) : e = (name, a) ∨ e ∈ entries := by
  induction entries with
  | nil => exact .inl (List.mem_singleton.mp h)
  | cons f entries ih =>
    obtain ⟨k, b⟩ := f
    rw [put] at h
    split_ifs at h with hk
    · subst hk
      exact (List.mem_cons.mp h).imp_right (List.mem_cons_of_mem _)
    · rcases List.mem_cons.mp h with rfl | h
      · exact .inr (by simp)
      · exact (ih h).imp_right (List.mem_cons_of_mem _)

lemma nodup_put {name : String} {entries : List (String × α)} (a : α)
    (h : (entries.map Prod.fst).Nodup) : ((put name a entries).map Prod.fst).Nodup := by
  induction entries with
  | nil => simp [put]
  | cons e entries ih =>
    obtain ⟨k, b⟩ := e
    rw [put]
    split_ifs with hk
    · exact h
    · rw [List.map_cons, List.nodup_cons] at h ⊢
      refine ⟨fun hm => ?_, ih h.2⟩
      obtain ⟨e, he, hek⟩ := List.mem_map.mp hm
      rcases mem_put he with rfl | he
      · exact hk hek.symm
      · exact h.1 (List.mem_map.mpr ⟨e, he, hek⟩)

lemma flatMap_of_distinct {β : Type} {entries : List (String × α)}
    (h : (entries.map Prod.fst).Nodup) (name : String) (f : α → List β) :
    (entries.flatMap fun e => if e.1 = name then f e.2 else []) =
      (entries.lookup name).elim [] f := by
  induction entries with
  | nil => rfl
  | cons e entries ih =>
    obtain ⟨k, a⟩ := e
    rw [List.map_cons, List.nodup_cons] at h
    rw [List.flatMap_cons, ih h.2, lookup_entry]
    by_cases hk : k = name
    · subst hk
      simp [lookup_of_not_mem h.1]
    · simp [hk, Ne.symm hk]

end Switchboard.Settings
