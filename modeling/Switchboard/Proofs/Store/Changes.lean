import Switchboard.Proofs.Store.TableOrder

/-! What a request changes in a store, told from its answer. -/

namespace Switchboard.Store

open Switchboard.Text

inductive Write where
  | put (kind : Kind) (id : String) (data : Octets)
  | drop (kind : Kind) (id : String)
  deriving DecidableEq

def Write.puts (k : Kind) (id : String) : Write → Bool
  | .put l other _ => l = k ∧ other = id
  | .drop .. => false

def Write.drops (k : Kind) (id : String) : Write → Bool
  | .put .. => false
  | .drop l other => l = k ∧ other = id

def Write.kind : Write → Kind
  | .put k _ _ | .drop k _ => k

def Request.written : (r : Request) → Outcome r.Answer → Option Write
  | .insert k id data, .ok _ => some (.put k id data)
  | .delete k id, .ok true => some (.drop k id)
  | _, _ => none

def Write.apply : Write → Memory → Memory
  | .put k id data, m => m.withTable k ((m.table k).insert id data)
  | .drop k id, m => m.withTable k ((m.table k).erase id)

@[simp] lemma written_error (r : Request) (f : Failure) : r.written (.error f) = none := by
  cases r <;> rfl

namespace Memory

def get? (m : Memory) (k : Kind) (id : String) : Option Octets := (m.table k).get? id

@[simp] lemma table_withTable (m : Memory) (k l : Kind) (t : Table) :
    (m.withTable k t).table l = if l = k then t else m.table l := by
  cases k <;> cases l <;> rfl

lemma get?_put {m : Memory} {k : Kind} {id : String} (hf : m.get? k id = none) (data : Octets)
    (l : Kind) (other : String) :
    ((Write.put k id data).apply m).get? l other =
      if l = k ∧ other = id then some data else m.get? l other := by
  by_cases hl : l = k
  · subst hl
    simp [Write.apply, get?, Table.get?_insert hf]
  · simp [Write.apply, get?, hl]

lemma get?_drop (m : Memory) (k : Kind) (id : String) (l : Kind) (other : String) :
    ((Write.drop k id).apply m).get? l other =
      if l = k ∧ other = id then none else m.get? l other := by
  by_cases hl : l = k
  · subst hl
    simp [Write.apply, get?, Table.get?_erase]
  · simp [Write.apply, get?, hl]

lemma serve_unwritten {m : Memory} {r : Request} (h : r.written (m.serve r).outcome = none) :
    (m.serve r).store = m := by
  cases r with
  | get k id => rfl
  | insert k id data =>
    simp only [serve] at *
    split_ifs at * with hc
    · rfl
    · cases h
  | delete k id =>
    simp only [serve] at *
    split_ifs at * with hc
    · cases h
    · rfl
  | list k => rfl
  | ping => rfl

lemma serve_put {m : Memory} {r : Request} {k : Kind} {id : String} {data : Octets}
    (h : r.written (m.serve r).outcome = some (.put k id data)) :
    r = .insert k id data ∧ m.get? k id = none ∧
      (m.serve r).store = (Write.put k id data).apply m := by
  cases r with
  | insert l id' data' =>
    simp only [serve] at *
    split_ifs at * with hc
    · cases h
    · cases h
      exact ⟨rfl, (Table.contains_eq_false _ _).mp (by simpa using hc), rfl⟩
  | delete l id' =>
    simp only [serve] at h
    split_ifs at h <;> cases h
  | get l id' => cases h
  | list l => cases h
  | ping => cases h

lemma serve_drop {m : Memory} {r : Request} {k : Kind} {id : String}
    (h : r.written (m.serve r).outcome = some (.drop k id)) :
    r = .delete k id ∧ (∃ data, m.get? k id = some data) ∧
      (m.serve r).store = (Write.drop k id).apply m := by
  cases r with
  | delete l id' =>
    simp only [serve] at *
    split_ifs at * with hc
    · cases h
      exact ⟨rfl, Option.isSome_iff_exists.mp hc, rfl⟩
    · cases h
  | insert l id' data' =>
    simp only [serve] at h
    split_ifs at h <;> cases h
  | get l id' => cases h
  | list l => cases h
  | ping => cases h

lemma serve_get (m : Memory) (k : Kind) (id : String) :
    (m.serve (.get k id)).outcome = .ok (m.get? k id) := rfl

end Memory

def Write.Fits : Write → Memory → Prop
  | .put k id _, m => m.get? k id = none
  | .drop k id, m => ∃ data, m.get? k id = some data

namespace Write

variable {w : Write} {m : Memory} {k : Kind} {id : String} {data : Octets}

lemma fits_of_serve {r : Request} (h : r.written (m.serve r).outcome = some w) :
    w.Fits m ∧ (m.serve r).store = w.apply m := by
  cases w with
  | put k id data => exact (Memory.serve_put h).2
  | drop k id => exact (Memory.serve_drop h).2

lemma get?_of_apply (hf : w.Fits m) (hg : (w.apply m).get? k id = some data) :
    m.get? k id = some data ∨ w = .put k id data := by
  cases w with
  | put l other data' =>
    rw [Memory.get?_put hf] at hg
    split_ifs at hg with hl
    · obtain ⟨rfl, rfl⟩ := hl
      exact .inr (congrArg _ (Option.some.inj hg))
    · exact .inl hg
  | drop l other =>
    rw [Memory.get?_drop] at hg
    split_ifs at hg with hl
    exact .inl hg

lemma get?_apply (hf : w.Fits m) (hg : m.get? k id = some data) :
    (w.apply m).get? k id = some data ∨ w = .drop k id := by
  cases w with
  | put l other data' =>
    have hl : ¬(k = l ∧ id = other) := by
      rintro ⟨rfl, rfl⟩
      exact absurd (hg.symm.trans hf) (by simp)
    rw [Memory.get?_put hf, if_neg hl]
    exact .inl hg
  | drop l other =>
    rw [Memory.get?_drop]
    split_ifs with hl
    · obtain ⟨rfl, rfl⟩ := hl
      exact .inr rfl
    · exact .inl hg

lemma table_apply (h : w.kind ≠ k) : (w.apply m).table k = m.table k := by
  cases w <;> exact (Memory.table_withTable _ _ _ _).trans (if_neg (Ne.symm h))

end Write

structure Memory.Added (k : Kind) (id : String) (data : Octets) (m m' : Memory) : Prop where
  fresh : m.get? k id = none
  entry : ∃ before after, (m.table k).entries = before ++ after ∧
    (m'.table k).entries = before ++ (id, data) :: after
  others : ∀ l, l ≠ k → m'.table l = m.table l

lemma Memory.added_put {m : Memory} {k : Kind} {id : String} (hf : m.get? k id = none)
    (data : Octets) : Memory.Added k id data m ((Write.put k id data).apply m) where
  fresh := hf
  entry := by
    obtain ⟨before, after, he, hp⟩ := Table.place_split id data (m.table k).entries
    exact ⟨before, after, he, by simpa [Write.apply, Table.insert] using hp⟩
  others l hl := by simp [Write.apply, hl]

lemma Memory.added_drop {m : Memory} {k : Kind} (ho : (m.table k).Ordered) {id : String}
    {data : Octets} (hg : m.get? k id = some data) :
    Memory.Added k id data ((Write.drop k id).apply m) m where
  fresh := by simp [get?_drop]
  entry := by
    obtain ⟨before, after, he, hd⟩ := Table.erase_split ho hg
    exact ⟨before, after, by simpa [Write.apply] using hd, he⟩
  others l hl := by simp [Write.apply, hl]

end Switchboard.Store
