import Mathlib
import Switchboard.Json.Record

/-! Readers take back what the writers of their codecs put down, whatever follows it. -/

namespace Switchboard.Json

open Switchboard.Text

/-- A value is read back from its own octets wherever at least `levels` levels may be opened. -/
structure Codec.ReadsBack {α : Type} (c : Codec α) (levels : ℕ) (a : α) : Prop where
  opens : ∃ b bs, c.write a = b :: bs ∧ isBlank b = false ∧ b ≠ listClose
  reads : ∀ depth, levels ≤ depth → ∀ rest, c.read depth (c.write a ++ rest) = .ok (a, rest)

lemma Codec.ReadsBack.mono {α : Type} {c : Codec α} {m n : ℕ} {a : α} (h : c.ReadsBack m a)
    (hn : m ≤ n) : c.ReadsBack n a :=
  ⟨h.opens, fun depth hd rest => h.reads depth (hn.trans hd) rest⟩

lemma skipBlank_cons {b : UInt8} (h : isBlank b = false) (rest : Octets) :
    skipBlank (b :: rest) = b :: rest := by
  simp [skipBlank, h]

lemma Codec.ReadsBack.write_append {α : Type} {c : Codec α} {n : ℕ} {a : α}
    (h : c.ReadsBack n a) (rest : Octets) :
    ∃ b bs, c.write a ++ rest = b :: bs ∧ isBlank b = false ∧ b ≠ listClose := by
  obtain ⟨b, bs, hw, hb, hc⟩ := h.opens
  exact ⟨b, bs ++ rest, by simp [hw], hb, hc⟩

lemma hexValue_hexDigit : ∀ n < 16, hexValue (hexDigit n) = some n := by decide

lemma codeOctets_control : ∀ n < 32, codeOctets n = [n.toUInt8] := by decide

lemma escapedUnit_control {b : UInt8} (hb : b < 0x20) (rest : Octets) :
    escapedUnit (0x30 :: 0x30 :: hexDigit (b.toNat / 16) :: hexDigit (b.toNat % 16) :: rest) =
      .ok ([b], rest) := by
  have hn : b.toNat < 32 := hb
  have hz : hexValue 0x30 = some 0 := by decide
  have hf : hexFour (0x30 :: 0x30 :: hexDigit (b.toNat / 16) :: hexDigit (b.toNat % 16) :: rest) =
      .ok (b.toNat, rest) := by
    simp only [hexFour, hz, hexValue_hexDigit _ (by omega : b.toNat / 16 < 16),
      hexValue_hexDigit _ (by omega : b.toNat % 16 < 16)]
    congr 2
    omega
  have ht : isTrailing b.toNat = false := by simp [isTrailing]; omega
  have hl : isLeading b.toNat = false := by simp [isLeading]; omega
  have hc : codeOctets b.toNat = [b] := by simpa using codeOctets_control b.toNat hn
  simp [escapedUnit, hf, ht, hl, hc, bind, Except.bind, pure, Except.pure]

lemma stringOctets_escape (x b : UInt8) (ahead seen rest : Octets) :
    stringOctets (x :: ahead) seen (escapeOctets b ++ rest) =
      stringOctets ahead (b :: seen) rest := by
  unfold escapeOctets
  split_ifs with hq hs hp h₁ h₂ h₃ h₄ h₅
  · subst hq; rfl
  · subst hs; rfl
  · have hq' : b ≠ quote := hq
    have hs' : b ≠ backslash := hs
    have hl : ¬ b < 0x20 := by simpa using hp
    simp [stringOctets, hq', hs', hl]
  · subst h₁; rfl
  · subst h₂; rfl
  · subst h₃; rfl
  · subst h₄; rfl
  · subst h₅; rfl
  · have hu := escapedUnit_control (b := b) (by simpa using hp) rest
    have hw : unitEscape b ++ rest = backslash :: ascii 'u' :: 0x30 :: 0x30 ::
        hexDigit (b.toNat / 16) :: hexDigit (b.toNat % 16) :: rest := rfl
    have hb : backslash ≠ quote := by decide
    simp [hw, stringOctets, hb, hu]

lemma stringOctets_written (ahead seen rest os : Octets) (h : os.length < ahead.length) :
    stringOctets ahead seen (os.flatMap escapeOctets ++ quote :: rest) =
      .ok (os.reverse ++ seen, rest) := by
  -- on the octets, since `ahead` only has to outlast them
  induction os generalizing ahead seen with
  | nil =>
    cases ahead with
    | nil => simp at h
    | cons x ahead => simp [stringOctets]
  | cons b os ih =>
    cases ahead with
    | nil => simp at h
    | cons x ahead =>
      rw [List.flatMap_cons, List.append_assoc, stringOctets_escape, ih _ _ (by simpa using h)]
      simp

lemma length_le_flatMap_escape (os : Octets) : os.length ≤ (os.flatMap escapeOctets).length := by
  induction os with
  | nil => simp
  | cons b os ih =>
    have hb : 1 ≤ (escapeOctets b).length := by
      unfold escapeOctets
      split_ifs <;> simp [shortEscape, unitEscape]
    simp only [List.flatMap_cons, List.length_append, List.length_cons]
    omega

lemma stringBody_written (s : String) (rest : Octets) :
    stringBody ((octets s).flatMap escapeOctets ++ quote :: rest) = .ok (s, rest) := by
  have hl := length_le_flatMap_escape (octets s)
  simp only [stringBody]
  rw [stringOctets_written _ _ _ _ (by simp only [List.length_append, List.length_cons]; omega)]
  simp [ofOctets?_octets]

lemma writeString_append (s : String) (rest : Octets) :
    writeString s ++ rest = quote :: ((octets s).flatMap escapeOctets ++ quote :: rest) := by
  simp [writeString, quote]

lemma readString_written (depth : ℕ) (s : String) (rest : Octets) :
    readString depth (writeString s ++ rest) = .ok (s, rest) := by
  have hq : isBlank quote = false := by decide
  simp only [readString, writeString_append, skipBlank_cons hq, stringBody_written, if_true]

lemma string_readsBack (n : ℕ) (s : String) : Codec.string.ReadsBack n s where
  opens := ⟨quote, _, rfl, by decide, by decide⟩
  reads depth _ rest := readString_written depth s rest

lemma ofText_readsBack {α : Type} {print : α → String} {parse : String → Option α} {a : α} (n : ℕ)
    (h : parse (print a) = some a) : (Codec.ofText print parse).ReadsBack n a where
  opens := ⟨quote, _, rfl, by decide, by decide⟩
  reads depth _ rest := by
    simp [Codec.ofText, readString_written, h, bind, Except.bind, pure, Except.pure]

lemma bool_readsBack (n : ℕ) (b : Bool) : Codec.bool.ReadsBack n b where
  opens := by cases b <;> exact ⟨_, _, rfl, by decide, by decide⟩
  reads depth _ rest := by cases b <;> rfl

lemma option_readsBack {α : Type} {c : Codec α} {n : ℕ} (o : Option α)
    (h : ∀ a, o = some a → c.ReadsBack n a ∧ (c.write a).head? ≠ some (ascii 'n')) :
    c.option.ReadsBack n o := by
  cases o with
  | none => exact ⟨⟨ascii 'n', _, rfl, by decide, by decide⟩, fun depth _ rest => rfl⟩
  | some a =>
    obtain ⟨ha, hn⟩ := h a rfl
    refine ⟨ha.opens, fun depth hd rest => ?_⟩
    obtain ⟨b, bs, hw, hb, -⟩ := ha.opens
    have hne : b ≠ ascii 'n' := by simpa [hw] using hn
    have hr := ha.reads depth hd rest
    have hwo : c.option.write (some a) = b :: bs := hw
    rw [hw] at hr
    simp only [Codec.option] at hwo ⊢
    rw [hwo, List.cons_append, readOption, skipBlank_cons hb]
    rw [List.cons_append] at hr
    simp [hne, hr, Except.map]

lemma nested_eq {α : Type} {depth : ℕ} (inner : ℕ → Except ReadError α) (h : 2 ≤ depth) :
    nested depth inner = inner (depth - 1) := by
  obtain ⟨d, rfl⟩ : ∃ d, depth = d + 2 := ⟨depth - 2, by omega⟩
  rfl

def listTail {α : Type} (c : Codec α) (first : Bool) (as : List α) (rest : Octets) : Octets :=
  match as with
  | [] => listClose :: rest
  | a :: as => (if first then [] else [comma]) ++ c.write a ++ listTail c false as rest

lemma listTail_false {α : Type} (c : Codec α) (a : α) (as : List α) (rest : Octets) :
    separated ((a :: as).map c.write) ++ listClose :: rest =
      c.write a ++ listTail c false as rest := by
  induction as generalizing a with
  | nil => simp [separated, listTail]
  | cons b as ih =>
    have hi := ih b
    simp only [List.map_cons] at hi ⊢
    simp only [separated, List.append_assoc, List.cons_append, hi, listTail]
    rfl

lemma writeList_append {α : Type} (c : Codec α) (as : List α) (rest : Octets) :
    writeList c.write as ++ rest = listOpen :: listTail c true as rest := by
  cases as with
  | nil => rfl
  | cons a as =>
    have h := listTail_false c a as rest
    simp only [writeList, List.cons_append, List.append_assoc, List.nil_append]
    exact congrArg _ h

lemma readElements_written {α : Type} {c : Codec α} {n : ℕ} (depth : ℕ) (hd : n ≤ depth)
    (as : List α) (h : ∀ a ∈ as, c.ReadsBack n a) (first : Bool) (ahead rest : Octets)
    (hl : as.length < ahead.length) :
    readElements c.read depth ahead first (listTail c first as rest) = .ok (as, rest) := by
  have hb : isBlank listClose = false := by decide
  have hc : isBlank comma = false := by decide
  induction as generalizing first ahead with
  | nil =>
    cases ahead with
    | nil => simp at hl
    | cons x ahead =>
      simp [readElements, listTail, nextElement, endList, skipBlank_cons hb, bind, Except.bind,
        pure, Except.pure]
  | cons a as ih =>
    cases ahead with
    | nil => simp at hl
    | cons x ahead =>
      have ha := h a (by simp)
      obtain ⟨b, bs, hw, hs, hne⟩ := ha.write_append (listTail c false as rest)
      have hn : nextElement first (listTail c first (a :: as) rest) =
          .ok (true, c.write a ++ listTail c false as rest) := by
        cases first with
        | true => simp [nextElement, listTail, skipBlank_cons hs, hne, hw]
        | false =>
          have hcl : comma ≠ listClose := by decide
          simp [nextElement, listTail, skipBlank_cons hc, skipBlank_cons hs, hne, hw, hcl]
      have hr := ha.reads depth hd (listTail c false as rest)
      have hi := ih (fun a' h' => h a' (by simp [h'])) false ahead (by simpa using hl)
      simp [readElements, hn, hr, hi, bind, Except.bind, pure, Except.pure]

lemma length_le_listTail {α : Type} {c : Codec α} {n : ℕ} (as : List α)
    (h : ∀ a ∈ as, c.ReadsBack n a) (first : Bool) (rest : Octets) :
    as.length < (listTail c first as rest).length := by
  induction as generalizing first with
  | nil => simp [listTail]
  | cons a as ih =>
    obtain ⟨b, bs, hw, _⟩ := (h a (by simp)).opens
    have hi := ih (fun a' h' => h a' (by simp [h'])) false
    simp only [listTail, hw, List.length_append, List.length_cons]
    omega

lemma list_readsBack {α : Type} {c : Codec α} {n : ℕ} (hn : 1 ≤ n) (as : List α)
    (h : ∀ a ∈ as, c.ReadsBack n a) : (Codec.list c).ReadsBack (n + 1) as where
  opens := ⟨listOpen, _, rfl, by decide, by decide⟩
  reads depth hd rest := by
    have hb : isBlank listOpen = false := by decide
    have hr := readElements_written (depth - 1) (by omega) as h true _ rest
      (length_le_listTail as h true rest)
    simp only [Codec.list, writeList_append, readList, skipBlank_cons hb, if_true]
    rw [nested_eq _ (by omega), hr]

end Switchboard.Json
