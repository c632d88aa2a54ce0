import Switchboard.Proofs.Json.Records

/-! Trees are read back from what is written of them, unless there are numbers in them. -/

namespace Switchboard.Json

open Switchboard.Text

inductive Tree.Fits : ℕ → Tree → Prop
  | null {n} : Fits (n + 1) .null
  | bool {n} (b : Bool) : Fits (n + 1) (.bool b)
  | string {n} (s : String) : Fits (n + 1) (.string s)
  | list {n items} : (∀ t ∈ items, Fits (n + 1) t) → Fits (n + 2) (.list items)
  | object {n members} : (∀ m ∈ members, Fits (n + 1) m.2) → Fits (n + 2) (.object members)

def Codec.tree : Codec Tree := ⟨Tree.write, readTree⟩

lemma writeTrees_eq (ts : List Tree) : writeTrees ts = ts.map Tree.write := by
  induction ts with
  | nil => rfl
  | cons t ts ih => rw [writeTrees, ih, List.map_cons]

lemma writeMembers_eq (ms : List (String × Tree)) :
    writeMembers ms = ms.map fun m => writeMember m.1 m.2.write := by
  induction ms with
  | nil => rfl
  | cons m ms ih => rw [writeMembers, ih, List.map_cons]

lemma write_list (ts : List Tree) : (Tree.list ts).write = writeList Tree.write ts := by
  rw [Tree.write, writeTrees_eq, writeList]

lemma write_object (ms : List (String × Tree)) :
    (Tree.object ms).write = writeObject (ms.map fun m => (m.1, m.2.write)) := by
  rw [Tree.write, writeMembers_eq, writeObject, List.map_map]
  rfl

lemma readMembers_written {α : Type} {c : Codec α} {n : ℕ} (depth : ℕ) (hd : n ≤ depth)
    (ms : List (String × α)) (h : ∀ m ∈ ms, c.ReadsBack n m.2) (first : Bool) (ahead rest : Octets)
    (hl : ms.length < ahead.length) :
    readMembers c.read depth ahead first
      (objectTail first (ms.map fun m => (m.1, c.write m.2)) rest) = .ok (ms, rest) := by
  induction ms generalizing first ahead with
  | nil =>
    cases ahead with
    | nil => simp at hl
    | cons x ahead =>
      simp [readMembers, nextName_end, endObject_cons, bind, Except.bind, pure, Except.pure]
  | cons m ms ih =>
    cases ahead with
    | nil => simp at hl
    | cons x ahead =>
      obtain ⟨name, a⟩ := m
      obtain ⟨input, hn, hs⟩ := nextName_member first name (c.write a)
        (ms.map fun m => (m.1, c.write m.2)) rest
      have hr := (h (name, a) (by simp)).reads depth hd
        (objectTail false (ms.map fun m => (m.1, c.write m.2)) rest)
      have hi := ih (fun m hm => h m (by simp [hm])) false ahead (by simpa using hl)
      simp [readMembers, hn, hs, readColon_cons, hr, hi, bind, Except.bind, pure, Except.pure]

lemma readTree_listOpen {depth : ℕ} (hd : depth ≠ 0) (rest : Octets) :
    readTree (depth + 1) (listOpen :: rest) =
      (readElements (fun _ => readTree depth) depth rest true rest).map
        fun (items, rest) => (.list items, rest) := by
  have hb : isBlank listOpen = false := by decide
  have hn : listOpen ≠ ascii 'n' ∧ listOpen ≠ ascii 't' ∧ listOpen ≠ ascii 'f' ∧
      listOpen ≠ ascii '-' ∧ isDigit listOpen = false ∧ listOpen ≠ quote := by decide
  obtain ⟨h₁, h₂, h₃, h₄, h₅, h₆⟩ := hn
  simp [readTree, skipBlank_cons hb, h₁, h₂, h₃, h₄, h₅, h₆, hd]

lemma readTree_objectOpen {depth : ℕ} (hd : depth ≠ 0) (rest : Octets) :
    readTree (depth + 1) (objectOpen :: rest) =
      (readMembers (fun _ => readTree depth) depth rest true rest).map
        fun (members, rest) => (.object members, rest) := by
  have hb : isBlank objectOpen = false := by decide
  have hn : objectOpen ≠ ascii 'n' ∧ objectOpen ≠ ascii 't' ∧ objectOpen ≠ ascii 'f' ∧
      objectOpen ≠ ascii '-' ∧ isDigit objectOpen = false ∧ objectOpen ≠ quote ∧
      objectOpen ≠ listOpen := by decide
  obtain ⟨h₁, h₂, h₃, h₄, h₅, h₆, h₇⟩ := hn
  simp [readTree, skipBlank_cons hb, h₁, h₂, h₃, h₄, h₅, h₆, h₇, hd]

lemma below {depth n : ℕ} {t : Tree} (h : Codec.tree.ReadsBack (n + 1) t) (hd : n + 1 ≤ depth) :
    Codec.ReadsBack ⟨Tree.write, fun _ => readTree depth⟩ 0 t :=
  ⟨h.opens, fun _ _ rest => h.reads depth hd rest⟩

lemma tree_readsBack {n : ℕ} {t : Tree} (h : t.Fits n) : Codec.tree.ReadsBack n t := by
  induction h with
  | null =>
    refine ⟨⟨ascii 'n', _, rfl, by decide, by decide⟩, fun depth hd rest => ?_⟩
    obtain ⟨d, rfl⟩ : ∃ d, depth = d + 1 := ⟨depth - 1, by omega⟩
    rfl
  | bool b =>
    refine ⟨by cases b <;> exact ⟨_, _, rfl, by decide, by decide⟩, fun depth hd rest => ?_⟩
    obtain ⟨d, rfl⟩ : ∃ d, depth = d + 1 := ⟨depth - 1, by omega⟩
    cases b <;> rfl
  | string s =>
    exact ⟨⟨quote, _, rfl, by decide, by decide⟩, fun depth hd rest =>
      readTree_string (by omega) s rest⟩
  | @list n items hitems ih =>
    refine ⟨⟨listOpen, _, rfl, by decide, by decide⟩, fun depth hd rest => ?_⟩
    obtain ⟨d, rfl⟩ : ∃ d, depth = d + 1 := ⟨depth - 1, by omega⟩
    have hitem (t : Tree) (ht : t ∈ items) := below (ih t ht) (show n + 1 ≤ d by omega)
    have hr := readElements_written d (Nat.zero_le d) items hitem true _ rest
      (length_le_listTail items hitem true rest)
    have hw : (Tree.list items).write ++ rest =
        listOpen :: listTail ⟨Tree.write, fun _ => readTree d⟩ true items rest := by
      rw [write_list]
      exact writeList_append ⟨Tree.write, fun _ => readTree d⟩ items rest
    change readTree (d + 1) ((Tree.list items).write ++ rest) = _
    rw [hw, readTree_listOpen (by omega), hr]
    rfl
  | @object n members hmembers ih =>
    refine ⟨⟨objectOpen, _, rfl, by decide, by decide⟩, fun depth hd rest => ?_⟩
    obtain ⟨d, rfl⟩ : ∃ d, depth = d + 1 := ⟨depth - 1, by omega⟩
    have hmember (m : String × Tree) (hm : m ∈ members) :=
      below (ih m hm) (show n + 1 ≤ d by omega)
    have hl := length_le_objectTail (members.map fun m => (m.1, m.2.write)) true rest
    rw [List.length_map] at hl
    have hr := readMembers_written d (Nat.zero_le d) members hmember true _ rest hl
    change readTree (d + 1) ((Tree.object members).write ++ rest) = _
    rw [write_object, writeObject_append, readTree_objectOpen (by omega), hr]
    rfl

theorem ofOctets?_write {t : Tree} (h : t.Fits depthLimit) : Tree.ofOctets? t.write = some t := by
  have hr := (tree_readsBack h).reads depthLimit le_rfl []
  rw [List.append_nil] at hr
  have hd : readTree depthLimit t.write = .ok (t, []) := hr
  simp [Tree.ofOctets?, readDocument, hd, skipBlank, bind, Except.bind, pure, Except.pure,
    Except.toOption]

lemma Tree.Fits.mono {m n : ℕ} {t : Tree} (h : t.Fits m) (hn : m ≤ n) : t.Fits n := by
  induction h generalizing n with
  | null =>
    obtain ⟨k, rfl⟩ : ∃ k, n = k + 1 := ⟨n - 1, by omega⟩
    exact .null
  | bool b =>
    obtain ⟨k, rfl⟩ : ∃ k, n = k + 1 := ⟨n - 1, by omega⟩
    exact .bool b
  | string s =>
    obtain ⟨k, rfl⟩ : ∃ k, n = k + 1 := ⟨n - 1, by omega⟩
    exact .string s
  | list hitems ih =>
    obtain ⟨k, rfl⟩ : ∃ k, n = k + 2 := ⟨n - 2, by omega⟩
    exact .list fun t ht => ih t ht (by omega)
  | object hmembers ih =>
    obtain ⟨k, rfl⟩ : ∃ k, n = k + 2 := ⟨n - 2, by omega⟩
    exact .object fun m hm => ih m hm (by omega)

end Switchboard.Json
