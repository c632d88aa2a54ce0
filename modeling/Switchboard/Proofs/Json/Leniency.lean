import Mathlib
import Switchboard.Json.Record

/-! Two codecs of one text. What one reads the other reads as the same value converted: always, if
only the type of the record differs, or where the first succeeds, if the second asks for less. -/

namespace Switchboard.Json

open Switchboard.Text
open Except (bind_eq_ok)

variable {α β : Type}

def Codec.Becomes (c : Codec α) (f : α → β) (d : Codec β) : Prop :=
  ∀ depth input, d.read depth input = (c.read depth input).map fun (a, rest) => (f a, rest)

def Codec.Within (c : Codec α) (f : α → β) (d : Codec β) : Prop :=
  ∀ ⦃depth input a rest⦄, c.read depth input = .ok (a, rest) → d.read depth input = .ok (f a, rest)

section

variable {c : Codec α} {f : α → β} {d : Codec β}

lemma Codec.Becomes.decode (h : c.Becomes f d) (text : Octets) :
    d.decode text = (c.decode text).map f := by
  unfold Codec.decode readDocument
  rw [h]
  cases c.read depthLimit text with
  | error problem => rfl
  | ok found =>
    simp only [Except.map, bind, Except.bind]
    split_ifs <;> rfl

lemma Codec.Becomes.front (h : c.Becomes f d) (text : Octets) :
    readFront d.read text = (readFront c.read text).map f := by
  unfold readFront
  rw [h]
  cases c.read depthLimit text <;> rfl

lemma Codec.Within.decode (h : c.Within f d) {text : Octets} {a : α} (ha : c.decode text = .ok a) :
    d.decode text = .ok (f a) := by
  obtain ⟨⟨b, rest⟩, hr, ha⟩ := bind_eq_ok.mp ha
  refine bind_eq_ok.mpr ⟨(f b, rest), h hr, ?_⟩
  simp only at ha ⊢
  split_ifs at ha ⊢
  cases ha
  rfl

lemma Codec.Within.front (h : c.Within f d) {text : Octets} {a : α}
    (ha : readFront c.read text = .ok a) : readFront d.read text = .ok (f a) := by
  unfold readFront at ha ⊢
  cases hr : c.read depthLimit text with
  | error problem =>
    rw [hr] at ha
    cases ha
  | ok found =>
    rw [hr] at ha
    cases ha
    rw [h hr]
    rfl

end

lemma record_becomes {fs : List Field} {toRow : α → Row fs} {ofRow : Row fs → α}
    {toRow' : β → Row fs} {ofRow' : Row fs → β} {f : α → β}
    (h : ∀ row, ofRow' row = f (ofRow row)) :
    (Codec.record fs toRow ofRow).Becomes f (.record fs toRow' ofRow') := by
  intro depth input
  simp only [Codec.record]
  cases readRow fs depth input with
  | error problem => rfl
  | ok found => exact congrArg (fun b => Except.ok (b, found.2)) (h found.1)

/-- The same fields, none of which has to be there: what is missing is as in the row. -/
def eased : (fs : List Field) → Row fs → List Field
  | [], _ => []
  | f :: fs, (a, missing) => .default f.name f.codec a :: eased fs missing

def Field.Allows (f : Field) (a : f.type) : Prop := (∀ b ∈ f.absent, b = a) ∧ ∀ b ∈ f.short, b = a

lemma required_allows (name : String) (c : Codec α) (a : α) :
    (Field.required name c).Allows a := ⟨nofun, nofun⟩

lemma optional_allows (name : String) (c : Codec α) : (Field.optional name c).Allows none :=
  ⟨fun _ h => (Option.some.inj h).symm, nofun⟩

def Row.Allowed : (fs : List Field) → Row fs → Prop
  | [], _ => True
  | f :: fs, (a, row) => f.Allows a ∧ Row.Allowed fs row

def Row.ease : (fs : List Field) → (missing : Row fs) → Row fs → Row (eased fs missing)
  | [], _, _ => ()
  | _ :: fs, (_, missing), (b, row) => (b, Row.ease fs missing row)

def Slots.ease : (fs : List Field) → (missing : Row fs) → Slots fs → Slots (eased fs missing)
  | [], _, _ => ()
  | _ :: fs, (_, missing), (slot, slots) => (slot, Slots.ease fs missing slots)

lemma Slots.ease_empty (fs : List Field) (missing : Row fs) :
    Slots.ease fs missing (.empty fs) = .empty (eased fs missing) := by
  induction fs with
  | nil => rfl
  | cons f fs ih => exact congrArg (Prod.mk none) (ih missing.2)

lemma Slots.close_ease {fs : List Field} {missing : Row fs} (h : missing.Allowed)
    {slots : Slots fs} {row : Row fs} (hc : slots.close = .ok row) :
    (Slots.ease fs missing slots).close = .ok (Row.ease fs missing row) := by
  induction fs with
  | nil => rfl
  | cons f fs ih =>
    obtain ⟨slot, slots⟩ := slots
    obtain ⟨a, missing⟩ := missing
    obtain ⟨⟨ha, -⟩, h⟩ := h
    simp only [Slots.close] at hc
    cases hv : slot.or f.absent with
    | none => simp [hv] at hc
    | some b =>
      cases hr : slots.close with
      | error problem => simp [hv, hr, Except.map] at hc
      | ok more =>
        simp only [hv, hr, Except.map] at hc
        cases hc
        -- An empty slot is filled as it was before, the old value being the allowed one.
        have hb : slot.or (some a) = some b := by
          cases slot with
          | some b => exact hv
          | none => exact congrArg some (ha b hv).symm
        simp only [eased, Slots.ease, Slots.close, Field.default, hb, ih h hr]
        rfl

lemma readMember_eased (name : String) (depth : ℕ) (fs : List Field) (missing : Row fs)
    (slots : Slots fs) (input : Octets) :
    readMember name depth (eased fs missing) (Slots.ease fs missing slots) input =
      (readMember name depth fs slots input).map fun (slots, rest) =>
        (Slots.ease fs missing slots, rest) := by
  induction fs with
  | nil =>
    simp only [eased, Slots.ease, readMember]
    cases readColon input with
    | error problem => rfl
    | ok input =>
      simp only [bind, Except.bind]
      cases skipValue input <;> rfl
  | cons f fs ih =>
    obtain ⟨slot, slots⟩ := slots
    obtain ⟨a, missing⟩ := missing
    simp only [eased, Slots.ease, readMember, Field.default]
    split_ifs with hn
    · cases slot with
      | some b => rfl
      | none =>
        cases readColon input with
        | error problem => rfl
        | ok input =>
          simp only [bind, Except.bind]
          cases f.codec.read depth input <;> rfl
    · rw [ih]
      cases readMember name depth fs slots input <;> rfl

lemma readSlots_eased (fs : List Field) (missing : Row fs) (depth : ℕ) (ahead : Octets)
    (first : Bool) (slots : Slots fs) (input : Octets) :
    readSlots (eased fs missing) depth ahead first (Slots.ease fs missing slots) input =
      (readSlots fs depth ahead first slots input).map fun (slots, rest) =>
        (Slots.ease fs missing slots, rest) := by
  induction ahead generalizing first slots input with
  | nil => rfl
  | cons x ahead ih =>
    simp only [readSlots, bind, Except.bind]
    rcases nextName first input with problem | ⟨more, input⟩
    · rfl
    cases more with
    | false => rfl
    | true =>
      simp only [if_true]
      rcases stringBody input with problem | ⟨name, input⟩
      · rfl
      simp only [readMember_eased]
      rcases readMember name depth fs slots input with problem | ⟨slots, input⟩
      · rfl
      exact ih false slots input

lemma readObjectRow_eased {fs : List Field} {missing row : Row fs} (h : missing.Allowed)
    {input rest : Octets} {depth : ℕ} (hr : readObjectRow fs input depth = .ok (row, rest)) :
    readObjectRow (eased fs missing) input depth = .ok (Row.ease fs missing row, rest) := by
  obtain ⟨⟨slots, behind⟩, hs, hr⟩ := bind_eq_ok.mp hr
  obtain ⟨row, hc, hr⟩ := bind_eq_ok.mp hr
  obtain ⟨rest, he, hr⟩ := bind_eq_ok.mp hr
  cases hr
  have hs' := readSlots_eased fs missing depth input true (.empty fs) input
  rw [Slots.ease_empty, hs] at hs'
  refine bind_eq_ok.mpr ⟨_, hs', bind_eq_ok.mpr ⟨_, Slots.close_ease h hc, ?_⟩⟩
  exact bind_eq_ok.mpr ⟨_, he, rfl⟩

lemma readCells_eased {fs : List Field} {missing row : Row fs} (h : missing.Allowed) {depth : ℕ}
    {first : Bool} {input rest : Octets} (hr : readCells depth fs first input = .ok (row, rest)) :
    readCells depth (eased fs missing) first input = .ok (Row.ease fs missing row, rest) := by
  induction fs generalizing first input with
  | nil =>
    cases hr
    rfl
  | cons f fs ih =>
    obtain ⟨a, missing⟩ := missing
    obtain ⟨⟨-, ha⟩, h⟩ := h
    obtain ⟨⟨more, input⟩, hn, hr⟩ := bind_eq_ok.mp hr
    cases more with
    | true =>
      obtain ⟨⟨b, input⟩, hb, hr⟩ := bind_eq_ok.mp hr
      obtain ⟨⟨row, rest⟩, hm, hr⟩ := bind_eq_ok.mp hr
      cases hr
      exact bind_eq_ok.mpr ⟨_, hn, bind_eq_ok.mpr ⟨_, hb, bind_eq_ok.mpr ⟨_, ih h hm, rfl⟩⟩⟩
    | false =>
      cases hs : f.short with
      | none => simp [hs] at hr
      | some b =>
        obtain rfl := ha b hs
        simp only [hs] at hr
        obtain ⟨⟨row, rest⟩, hm, hr⟩ := bind_eq_ok.mp hr
        cases hr
        exact bind_eq_ok.mpr ⟨_, hn, bind_eq_ok.mpr ⟨_, ih h hm, rfl⟩⟩

lemma readListRow_eased {fs : List Field} {missing row : Row fs} (h : missing.Allowed)
    {input rest : Octets} {depth : ℕ} (hr : readListRow fs input depth = .ok (row, rest)) :
    readListRow (eased fs missing) input depth = .ok (Row.ease fs missing row, rest) := by
  obtain ⟨⟨row, behind⟩, hc, hr⟩ := bind_eq_ok.mp hr
  obtain ⟨rest, he, hr⟩ := bind_eq_ok.mp hr
  cases hr
  exact bind_eq_ok.mpr ⟨_, readCells_eased h hc, bind_eq_ok.mpr ⟨_, he, rfl⟩⟩

lemma nested_ok {inner : ℕ → Except ReadError α} {inner' : ℕ → Except ReadError β} {depth : ℕ}
    {a : α} {b : β} (h : ∀ depth, inner depth = .ok a → inner' depth = .ok b)
    (hn : nested depth inner = .ok a) : nested depth inner' = .ok b := by
  match depth with
  | 0 | 1 => cases hn
  | depth + 2 => exact h _ hn

lemma readRow_eased {fs : List Field} {missing row : Row fs} (h : missing.Allowed) {depth : ℕ}
    {input rest : Octets} (hr : readRow fs depth input = .ok (row, rest)) :
    readRow (eased fs missing) depth input = .ok (Row.ease fs missing row, rest) := by
  unfold readRow at hr ⊢
  cases hs : skipBlank input with
  | nil => simp [hs] at hr
  | cons b more =>
    simp only [hs] at hr ⊢
    split_ifs at hr ⊢
    · exact nested_ok (fun _ => readListRow_eased h) hr
    · exact nested_ok (fun _ => readObjectRow_eased h) hr

theorem record_within {fs : List Field} {missing : Row fs} (h : missing.Allowed)
    {toRow : α → Row fs} {ofRow : Row fs → α} {toRow' : β → Row (eased fs missing)}
    {ofRow' : Row (eased fs missing) → β} {f : α → β}
    (hf : ∀ row, ofRow' (.ease fs missing row) = f (ofRow row)) :
    (Codec.record fs toRow ofRow).Within f (.record (eased fs missing) toRow' ofRow') := by
  intro depth input a rest hr
  simp only [Codec.record] at hr ⊢
  cases hw : readRow fs depth input with
  | error problem =>
    rw [hw] at hr
    cases hr
  | ok found =>
    rw [hw] at hr
    cases hr
    rw [readRow_eased h hw]
    exact congrArg (fun b => Except.ok (b, found.2)) (hf found.1)

end Switchboard.Json
