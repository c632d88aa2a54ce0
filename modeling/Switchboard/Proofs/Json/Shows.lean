import Switchboard.Proofs.Json.Trees

/-! Values as trees: what a codec writes is what is written of a tree. -/

namespace Switchboard.Json

def Codec.Shows {α : Type} (c : Codec α) (a : α) (t : Tree) : Prop := c.write a = t.write

def Row.Shows : (fs : List Field) → Row fs → List (String × Tree) → Prop
  | [], _, ms => ms = []
  | f :: fs, (a, row), (name, t) :: ms => name = f.name ∧ f.codec.Shows a t ∧ Row.Shows fs row ms
  | _ :: _, _, [] => False

variable {α : Type} {c : Codec α}

lemma string_shows (s : String) : Codec.string.Shows s (.string s) := by
  rw [Codec.Shows, Tree.write]
  rfl

lemma bool_shows (b : Bool) : Codec.bool.Shows b (.bool b) := by
  rw [Codec.Shows, Tree.write]
  rfl

lemma null_shows : Codec.null.Shows () .null := by
  rw [Codec.Shows, Tree.write]
  rfl

lemma none_shows (c : Codec α) : c.option.Shows none .null := by
  rw [Codec.Shows, Tree.write]
  rfl

lemma some_shows {a : α} {t : Tree} (h : c.Shows a t) : c.option.Shows (some a) t := h

lemma ofText_shows (print : α → String) (parse : String → Option α) (a : α) :
    (Codec.ofText print parse).Shows a (.string (print a)) := string_shows (print a)

lemma list_shows {β : Type} {f : β → α} {bs : List β} {form : β → Tree}
    (h : ∀ b ∈ bs, c.Shows (f b) (form b)) :
    (Codec.list c).Shows (bs.map f) (.list (bs.map form)) := by
  have hw : (bs.map f).map c.write = (bs.map form).map Tree.write := by
    rw [List.map_map, List.map_map]
    exact List.map_congr_left h
  rw [Codec.Shows, write_list]
  simp only [Codec.list, writeList, hw]

lemma rowMembers_shows {fs : List Field} {row : Row fs} {ms : List (String × Tree)}
    (h : Row.Shows fs row ms) : rowMembers fs row = ms.map fun m => (m.1, m.2.write) := by
  induction fs generalizing ms with
  | nil =>
    obtain rfl : ms = [] := h
    rfl
  | cons f fs ih =>
    obtain ⟨a, row⟩ := row
    cases ms with
    | nil => exact absurd h id
    | cons m ms =>
      obtain ⟨name, t⟩ := m
      obtain ⟨rfl, ha, hr⟩ := h
      have ha : f.codec.write a = t.write := ha
      rw [rowMembers, ih hr, ha, List.map_cons]

lemma record_shows {fs : List Field} {toRow : α → Row fs} {ofRow : Row fs → α} {a : α}
    {ms : List (String × Tree)} (h : Row.Shows fs (toRow a) ms) :
    (Codec.record fs toRow ofRow).Shows a (.object ms) := by
  rw [Codec.Shows, write_object, ← rowMembers_shows h]
  rfl

lemma tagged_shows {key : String} {vs : List (Variant α)} {view : α → Variant α × String} {a : α} :
    (Codec.tagged key vs view).Shows a
      (.object [(key, .string (view a).1.tag), ((view a).1.field, .string (view a).2)]) := by
  rw [Codec.Shows, write_object]
  simp only [List.map_cons, List.map_nil, Tree.write]
  rfl

end Switchboard.Json
