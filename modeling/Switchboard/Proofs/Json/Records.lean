import Switchboard.Json.Tagged
import Switchboard.Proofs.Json.ReadBack

/-! Records and tagged values are read back from the objects they are written as. -/

namespace Switchboard.Json

open Switchboard.Text

def objectTail (first : Bool) (members : List (String × Octets)) (rest : Octets) : Octets :=
  match members with
  | [] => objectClose :: rest
  | m :: ms => (if first then [] else [comma]) ++ writeMember m.1 m.2 ++ objectTail false ms rest

lemma objectTail_false (m : String × Octets) (ms : List (String × Octets)) (rest : Octets) :
    separated ((m :: ms).map fun m => writeMember m.1 m.2) ++ objectClose :: rest =
      writeMember m.1 m.2 ++ objectTail false ms rest := by
  induction ms generalizing m with
  | nil => simp [separated, objectTail]
  | cons m' ms ih =>
    have hi := ih m'
    simp only [List.map_cons] at hi ⊢
    simp only [separated, List.append_assoc, List.cons_append, hi, objectTail]
    rfl

lemma writeObject_append (ms : List (String × Octets)) (rest : Octets) :
    writeObject ms ++ rest = objectOpen :: objectTail true ms rest := by
  cases ms with
  | nil => rfl
  | cons m ms =>
    have h := objectTail_false m ms rest
    simp only [writeObject, List.cons_append, List.append_assoc, List.nil_append]
    exact congrArg _ h

lemma length_le_objectTail (ms : List (String × Octets)) (first : Bool) (rest : Octets) :
    ms.length < (objectTail first ms rest).length := by
  induction ms generalizing first with
  | nil => simp [objectTail]
  | cons m ms ih =>
    have hi := ih false
    simp only [objectTail, writeMember, writeString, List.length_append, List.length_cons]
    omega

lemma nextName_end (first : Bool) (rest : Octets) :
    nextName first (objectTail first [] rest) = .ok (false, objectClose :: rest) := by
  have hb : isBlank objectClose = false := by decide
  simp [nextName, objectTail, skipBlank_cons hb]

lemma nextName_member (first : Bool) (name : String) (data : Octets)
    (ms : List (String × Octets)) (rest : Octets) :
    ∃ input, nextName first (objectTail first ((name, data) :: ms) rest) = .ok (true, input) ∧
      stringBody input = .ok (name, colon :: (data ++ objectTail false ms rest)) := by
  refine ⟨_, ?_, stringBody_written name _⟩
  have hw : writeMember name data ++ objectTail false ms rest = quote ::
      ((octets name).flatMap escapeOctets ++ quote :: colon ::
        (data ++ objectTail false ms rest)) := by
    simp [writeMember, writeString_append, colon]
  have hq : isBlank quote = false := by decide
  have hc : isBlank comma = false := by decide
  have hqo : quote ≠ objectClose := by decide
  have hco : comma ≠ objectClose := by decide
  cases first with
  | true => simp [nextName, objectTail, hw, skipBlank_cons hq, hqo]
  | false => simp [nextName, objectTail, hw, skipBlank_cons hc, skipBlank_cons hq, hco]

lemma readColon_cons (rest : Octets) : readColon (colon :: rest) = .ok rest := by
  have hb : isBlank colon = false := by decide
  simp [readColon, skipBlank_cons hb]

lemma endObject_cons (rest : Octets) : endObject (objectClose :: rest) = .ok rest := by
  have hb : isBlank objectClose = false := by decide
  simp [endObject, skipBlank_cons hb]

def Row.ReadsBack (levels : ℕ) : (fs : List Field) → Row fs → Prop
  | [], _ => True
  | f :: fs, (a, row) => f.codec.ReadsBack levels a ∧ Row.ReadsBack levels fs row

def Slots.upTo : (fs : List Field) → Row fs → ℕ → Slots fs
  | [], _, _ => ()
  | f :: fs, _, 0 => Slots.empty (f :: fs)
  | _ :: fs, (a, row), n + 1 => (some a, Slots.upTo fs row n)

lemma Slots.upTo_zero (fs : List Field) (row : Row fs) : Slots.upTo fs row 0 = Slots.empty fs := by
  cases fs <;> rfl

lemma Slots.close_upTo (fs : List Field) (row : Row fs) (n : ℕ) (h : fs.length ≤ n) :
    Slots.close fs (Slots.upTo fs row n) = .ok row := by
  induction fs generalizing n with
  | nil => rfl
  | cons f fs ih =>
    obtain ⟨a, row⟩ := row
    cases n with
    | zero => simp at h
    | succ n => simp [Slots.upTo, Slots.close, ih row n (by simpa using h), Except.map]

lemma rowMembers_names (fs : List Field) (row : Row fs) :
    (rowMembers fs row).map Prod.fst = fs.map Field.name := by
  induction fs with
  | nil => rfl
  | cons f fs ih =>
    obtain ⟨a, row⟩ := row
    simp [rowMembers, ih row]

lemma readMember_written {levels : ℕ} (depth : ℕ) (hd : levels ≤ depth) (fs : List Field)
    (row : Row fs) (hf : (fs.map Field.name).Nodup) (hr : Row.ReadsBack levels fs row) {n : ℕ}
    {name : String}
    {data : Octets} (hm : (rowMembers fs row)[n]? = some (name, data)) (rest : Octets) :
    readMember name depth fs (Slots.upTo fs row n) (colon :: (data ++ rest)) =
      .ok (Slots.upTo fs row (n + 1), rest) := by
  induction fs generalizing n with
  | nil => simp [rowMembers] at hm
  | cons f fs ih =>
    obtain ⟨a, row⟩ := row
    obtain ⟨ha, hr⟩ := hr
    obtain ⟨hne, hf⟩ := List.nodup_cons.mp hf
    cases n with
    | zero =>
      simp only [rowMembers, List.getElem?_cons_zero, Option.some.injEq, Prod.mk.injEq] at hm
      obtain ⟨rfl, rfl⟩ := hm
      simp [readMember, Slots.upTo, Slots.empty, Slots.upTo_zero, readColon_cons,
        ha.reads depth hd rest, bind, Except.bind, pure, Except.pure]
    | succ n =>
      simp only [rowMembers, List.getElem?_cons_succ] at hm
      have hin : name ∈ fs.map Field.name := by
        rw [← rowMembers_names fs row]
        exact List.mem_map_of_mem (f := Prod.fst) (List.mem_of_getElem? hm)
      have hn : f.name ≠ name := fun he => hne (he ▸ hin)
      simp [readMember, Slots.upTo, hn, ih row hf hr hm, Except.map]

lemma readSlots_written {levels : ℕ} (depth : ℕ) (hd : levels ≤ depth) (fs : List Field)
    (row : Row fs) (hf : (fs.map Field.name).Nodup) (hr : Row.ReadsBack levels fs row)
    (ms : List (String × Octets)) (n : ℕ) (hms : (rowMembers fs row).drop n = ms) (first : Bool)
    (ahead rest : Octets) (hl : ms.length < ahead.length) :
    ∃ m, fs.length ≤ m ∧ readSlots fs depth ahead first (Slots.upTo fs row n)
      (objectTail first ms rest) = .ok (Slots.upTo fs row m, objectClose :: rest) := by
  -- on the members to come; those before are in their slots
  induction ms generalizing n first ahead with
  | nil =>
    cases ahead with
    | nil => simp at hl
    | cons x ahead =>
      have hn : fs.length ≤ n := by
        have := congrArg List.length (rowMembers_names fs row)
        have := List.drop_eq_nil_iff.mp hms
        simp only [List.length_map] at *
        omega
      exact ⟨n, hn, by simp [readSlots, nextName_end, bind, Except.bind, pure, Except.pure]⟩
  | cons m ms ih =>
    cases ahead with
    | nil => simp at hl
    | cons x ahead =>
      obtain ⟨name, data⟩ := m
      have hm : (rowMembers fs row)[n]? = some (name, data) := by
        have := congrArg (·[0]?) hms
        simpa using this
      have hd' : (rowMembers fs row).drop (n + 1) = ms := by
        have := congrArg List.tail hms
        simpa using this
      obtain ⟨input, hn, hs⟩ := nextName_member first name data ms rest
      have hrd := readMember_written depth hd fs row hf hr hm (objectTail false ms rest)
      obtain ⟨k, hk, hi⟩ := ih (n + 1) hd' false ahead (by simpa using hl)
      exact ⟨k, hk, by simp [readSlots, hn, hs, hrd, hi, bind, Except.bind]⟩

lemma record_readsBack {α : Type} {fs : List Field} {toRow : α → Row fs} {ofRow : Row fs → α}
    {levels : ℕ} {a : α} (hf : (fs.map Field.name).Nodup) (hl : 1 ≤ levels)
    (hr : Row.ReadsBack levels fs (toRow a)) (ha : ofRow (toRow a) = a) :
    (Codec.record fs toRow ofRow).ReadsBack (levels + 1) a where
  opens := ⟨objectOpen, _, rfl, by decide, by decide⟩
  reads depth hd rest := by
    have hb : isBlank objectOpen = false := by decide
    have hlo : objectOpen ≠ listOpen := by decide
    obtain ⟨m, hm, hs⟩ := readSlots_written (depth - 1) (by omega) fs (toRow a) hf hr _ 0
      rfl true _ rest (length_le_objectTail _ true rest)
    rw [Slots.upTo_zero, List.drop_zero] at hs
    simp only [Codec.record, writeRow, writeObject_append, readRow, skipBlank_cons hb, if_neg hlo,
      if_true]
    rw [nested_eq _ (by omega)]
    simp [readObjectRow, hs, Slots.close_upTo fs (toRow a) m hm, endObject_cons, ha, bind,
      Except.bind, pure, Except.pure, Except.map]

lemma readTree_string {depth : ℕ} (hd : 1 ≤ depth) (s : String) (rest : Octets) :
    readTree depth (writeString s ++ rest) = .ok (.string s, rest) := by
  obtain ⟨d, rfl⟩ : ∃ d, depth = d + 1 := ⟨depth - 1, by omega⟩
  have hq : isBlank quote = false := by decide
  have hn : quote ≠ ascii 'n' ∧ quote ≠ ascii 't' ∧ quote ≠ ascii 'f' ∧ quote ≠ ascii '-' ∧
      isDigit quote = false := by decide
  obtain ⟨h₁, h₂, h₃, h₄, h₅⟩ := hn
  simp [readTree, writeString_append, skipBlank_cons hq, h₁, h₂, h₃, h₄, h₅, stringBody_written,
    Except.map]

lemma readTagged_written {α : Type} {key : String} {vs : List (Variant α)} {v : Variant α}
    (depth : ℕ) (hd : 1 ≤ depth) (hk : v.field ≠ key) (hv : findVariant vs v.tag = .ok v)
    (text : String) (rest ahead : Octets) (hl : 2 < ahead.length) :
    readTagged key vs depth ahead true ⟨none, []⟩
      (objectTail true [(key, writeString v.tag), (v.field, writeString text)] rest) =
        .ok (⟨some v, [(v.field, .string text)]⟩, objectClose :: rest) := by
  match ahead, hl with
  | x :: y :: z :: ahead, _ =>
    obtain ⟨input₁, hn₁, hs₁⟩ := nextName_member true key (writeString v.tag)
      [(v.field, writeString text)] rest
    obtain ⟨input₂, hn₂, hs₂⟩ := nextName_member false v.field (writeString text) [] rest
    simp [readTagged, hn₁, hs₁, hn₂, hs₂, hk, hv, nextName_end, readColon_cons, readString_written,
      readTree_string hd, bind, Except.bind, pure, Except.pure]

lemma tagged_readsBack {α : Type} {key : String} {vs : List (Variant α)}
    {view : α → Variant α × String} {a : α} (hk : (view a).1.field ≠ key)
    (hv : findVariant vs (view a).1.tag = .ok (view a).1) (ha : (view a).1.make (view a).2 = a) :
    (Codec.tagged key vs view).ReadsBack 2 a where
  opens := ⟨objectOpen, _, rfl, by decide, by decide⟩
  reads depth hd rest := by
    have hb : isBlank objectOpen = false := by decide
    have hl := length_le_objectTail [(key, writeString (view a).1.tag),
      ((view a).1.field, writeString (view a).2)] true rest
    have hr := readTagged_written (depth - 1) (by omega) hk hv (view a).2 rest _ hl
    simp only [Codec.tagged, writeObject_append, skipBlank_cons hb, if_true]
    rw [nested_eq _ hd]
    simp [readTaggedObject, hr, endObject_cons, Variant.ofMembers, Variant.ofTree, ha, bind,
      Except.bind, pure, Except.pure]

lemma decode_encode {α : Type} {c : Codec α} {levels : ℕ} {a : α} (h : c.ReadsBack levels a)
    (hl : levels ≤ depthLimit) : c.decode (c.encode a) = .ok a := by
  have hr := h.reads depthLimit hl []
  rw [List.append_nil] at hr
  simp [Codec.decode, Codec.encode, readDocument, hr, skipBlank, bind, Except.bind, pure,
    Except.pure]

end Switchboard.Json
