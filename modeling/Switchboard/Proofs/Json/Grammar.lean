import Mathlib
import Switchboard.Json.Reader

/-! The grammar of JSON, octet by octet. What the grammar derives is stepped over to its end,
however deep it goes; a string is read as what its spelling stands for. -/

namespace Switchboard.Json

open Switchboard.Text

/-! ### Tokens -/

def Blank (ws : Octets) : Prop := ∀ b ∈ ws, b = 0x20 ∨ b = 0x09 ∨ b = 0x0a ∨ b = 0x0d

def Ends (rest : Octets) : Prop :=
  ∀ b ∈ rest.head?, Blank [b] ∨ b = comma ∨ b = listClose ∨ b = objectClose

def HexDigit (d : ℕ) (b : UInt8) : Prop :=
  (d < 10 ∧ b.toNat = 0x30 + d) ∨ (10 ≤ d ∧ d < 16 ∧ (b.toNat = 0x37 + d ∨ b.toNat = 0x57 + d))

instance (d : ℕ) (b : UInt8) : Decidable (HexDigit d b) := by unfold HexDigit; infer_instance

inductive UnitText : ℕ → Octets → Prop
  | digits {a b c d : ℕ} {w x y z : UInt8} : HexDigit a w → HexDigit b x → HexDigit c y →
      HexDigit d z → UnitText (((a * 16 + b) * 16 + c) * 16 + d) [w, x, y, z]

def shortEscapes : List (UInt8 × UInt8) :=
  [(ascii '"', 0x22), (ascii '\\', 0x5c), (ascii '/', 0x2f), (ascii 'b', 0x08), (ascii 'f', 0x0c),
    (ascii 'n', 0x0a), (ascii 'r', 0x0d), (ascii 't', 0x09)]

def StandsForItself (b : UInt8) : Prop := 0x20 ≤ b ∧ b ≠ quote ∧ b ≠ backslash

instance (b : UInt8) : Decidable (StandsForItself b) :=
  inferInstanceAs (Decidable (0x20 ≤ b ∧ b ≠ quote ∧ b ≠ backslash))

/-- What may stand between quotes, even if its escapes stand for no text. -/
inductive Literal : Octets → Prop
  | nil : Literal []
  | plain {b t} : StandsForItself b → Literal t → Literal (b :: t)
  | short {e t} : e ∈ shortEscapes → Literal t → Literal (backslash :: e.1 :: t)
  | unit {n u t} : UnitText n u → Literal t → Literal (backslash :: ascii 'u' :: (u ++ t))

/-- Octets of text, and octets between quotes that stand for them. A character is escaped as a unit,
or as two if it is above the basic plane. -/
inductive Spelling : Octets → Octets → Prop
  | nil : Spelling [] []
  | plain {b m t} : StandsForItself b → Spelling m t → Spelling (b :: m) (b :: t)
  | short {e m t} : e ∈ shortEscapes → Spelling m t →
      Spelling (e.2 :: m) (backslash :: e.1 :: t)
  | unit {c : Char} {u m t} : UnitText c.toNat u → Spelling m t →
      Spelling (String.utf8EncodeChar c ++ m) (backslash :: ascii 'u' :: (u ++ t))
  | pair {c : Char} {u v m t} : 0x10000 ≤ c.toNat →
      UnitText (0xd800 + (c.toNat - 0x10000) / 1024) u →
      UnitText (0xdc00 + (c.toNat - 0x10000) % 1024) v → Spelling m t →
      Spelling (String.utf8EncodeChar c ++ m)
        (backslash :: ascii 'u' :: (u ++ backslash :: ascii 'u' :: (v ++ t)))

def DigitRun (ds : Octets) : Prop := ds ≠ [] ∧ ∀ b ∈ ds, 0x30 ≤ b ∧ b ≤ 0x39

inductive Fraction : Octets → Prop
  | none : Fraction []
  | some {ds} : DigitRun ds → Fraction (ascii '.' :: ds)

inductive Exponent : Octets → Prop
  | none : Exponent []
  | some {e sign ds} : e = ascii 'e' ∨ e = ascii 'E' →
      sign = [] ∨ sign = [ascii '+'] ∨ sign = [ascii '-'] → DigitRun ds →
      Exponent (e :: (sign ++ ds))

inductive Magnitude : Octets → Prop
  | parts {whole f e} : DigitRun whole → (whole.head? = some (ascii '0') → whole.length = 1) →
      Fraction f → Exponent e → Magnitude (whole ++ (f ++ e))

/-! ### Values -/

def Lead : Bool → Octets → Prop
  | true, sep => Blank sep
  | false, sep => ∃ before after, Blank before ∧ Blank after ∧ sep = before ++ comma :: after

/-- A value, or what is left of a list or an object with its closing bracket. -/
inductive Part where
  | value
  | items (first : Bool)
  | members (first : Bool)

inductive IsText : Part → Octets → Prop
  | keyword {k} : k ∈ ["null", "true", "false"] → IsText .value (octets k)
  | positive {t} : Magnitude t → IsText .value t
  | negative {t} : Magnitude t → IsText .value (ascii '-' :: t)
  | string {t} : Literal t → IsText .value (quote :: (t ++ [quote]))
  | list {t} : IsText (.items true) t → IsText .value (listOpen :: t)
  | object {t} : IsText (.members true) t → IsText .value (objectOpen :: t)
  | endItems {first ws} : Blank ws → IsText (.items first) (ws ++ [listClose])
  | item {first sep v t} : Lead first sep → IsText .value v → IsText (.items false) t →
      IsText (.items first) (sep ++ (v ++ t))
  | endMembers {first ws} : Blank ws → IsText (.members first) (ws ++ [objectClose])
  | member {first sep name before after v t} : Lead first sep → Literal name → Blank before →
      Blank after → IsText .value v → IsText (.members false) t →
      IsText (.members first)
        (sep ++ quote :: (name ++ quote :: (before ++ colon :: (after ++ (v ++ t)))))

/-! ### Blanks -/

lemma isBlank_iff {b : UInt8} : isBlank b = true ↔ Blank [b] := by
  simp [isBlank, Blank, or_assoc]

lemma skipBlank_append {ws : Octets} (h : Blank ws) (rest : Octets) :
    skipBlank (ws ++ rest) = skipBlank rest := by
  have ha : ∀ b ∈ ws, isBlank b = true := fun b hb =>
    isBlank_iff.mpr fun b' hb' => (List.mem_singleton.mp hb') ▸ h b hb
  simp only [skipBlank]
  rw [List.dropWhile_append, List.dropWhile_eq_nil_iff.mpr ha]
  rfl

lemma skipBlank_blank_cons {ws : Octets} (h : Blank ws) {b : UInt8} (hb : isBlank b = false)
    (rest : Octets) : skipBlank (ws ++ b :: rest) = b :: rest := by
  rw [skipBlank_append h, skipBlank, List.dropWhile_cons, hb]
  rfl

lemma skipBlank_all {ws : Octets} (h : Blank ws) : skipBlank ws = [] := by
  have hs := skipBlank_append h []
  rwa [List.append_nil] at hs

/-! ### Strings -/

lemma hexValue_digit {d : ℕ} {b : UInt8} (h : HexDigit d b) : hexValue b = some d := by
  have hb := b.toNat_lt
  simp only [hexValue, Bool.and_eq_true, decide_eq_true_eq, UInt8.le_iff_toNat_le]
  change (if 48 ≤ b.toNat ∧ b.toNat ≤ 57 then some (b.toNat - 48)
    else if 65 ≤ b.toNat ∧ b.toNat ≤ 70 then some (b.toNat - 55)
    else if 97 ≤ b.toNat ∧ b.toNat ≤ 102 then some (b.toNat - 87) else none) = some d
  rcases h with ⟨hd, hv⟩ | ⟨hl, hd, hv | hv⟩
  · rw [if_pos (by omega)]
    congr 1
    omega
  · rw [if_neg (by omega), if_pos (by omega)]
    congr 1
    omega
  · rw [if_neg (by omega), if_neg (by omega), if_pos (by omega)]
    congr 1
    omega

lemma hexFour_unit {n : ℕ} {u : Octets} (h : UnitText n u) (rest : Octets) :
    hexFour (u ++ rest) = .ok (n, rest) := by
  obtain ⟨ha, hb, hc, hd⟩ := h
  simp [hexFour, hexValue_digit ha, hexValue_digit hb, hexValue_digit hc, hexValue_digit hd]

lemma escapeOctet_short {e : UInt8 × UInt8} (h : e ∈ shortEscapes) :
    escapeOctet e.1 = some e.2 ∧ e.1 ≠ ascii 'u' := by
  simp only [shortEscapes, List.mem_cons, List.not_mem_nil, or_false] at h
  rcases h with rfl | rfl | rfl | rfl | rfl | rfl | rfl | rfl <;> decide

lemma Literal.skipped {t : Octets} (h : Literal t) (ahead rest : Octets)
    (hl : t.length < ahead.length) : skipString ahead (t ++ quote :: rest) = .ok rest := by
  have hbq : backslash ≠ quote := by decide
  induction h generalizing ahead with
  | nil =>
    obtain ⟨x, ahead, rfl⟩ := List.exists_cons_of_length_pos (Nat.zero_lt_of_lt hl)
    simp [skipString]
  | @plain b t hb _ ih =>
    obtain ⟨x, ahead, rfl⟩ := List.exists_cons_of_length_pos (Nat.zero_lt_of_lt hl)
    obtain ⟨hp, hq, hs⟩ := hb
    have hn : ¬ b < 0x20 := by simpa using hp
    simp only [List.cons_append, skipString, if_neg hq, if_neg hs, if_neg hn]
    exact ih ahead (by simpa using hl)
  | @short e t he _ ih =>
    obtain ⟨x, ahead, rfl⟩ := List.exists_cons_of_length_pos (Nat.zero_lt_of_lt hl)
    obtain ⟨ho, hu⟩ := escapeOctet_short he
    simp only [List.cons_append, skipString, if_neg hbq, if_true, if_neg hu, ho, Option.isSome_some]
    exact ih ahead (by simp only [List.length_cons] at hl; omega)
  | @unit n u t hu _ ih =>
    obtain ⟨x, ahead, rfl⟩ := List.exists_cons_of_length_pos (Nat.zero_lt_of_lt hl)
    simp only [List.cons_append, List.append_assoc, skipString, if_neg hbq, if_true,
      hexFour_unit hu]
    exact ih ahead (by simp only [List.length_cons, List.length_append] at hl; omega)

lemma Spelling.literal {m t : Octets} (h : Spelling m t) : Literal t := by
  induction h with
  | nil => exact .nil
  | plain hb _ ih => exact .plain hb ih
  | short he _ ih => exact .short he ih
  | unit hu _ ih => exact .unit hu ih
  | pair _ hu hv _ ih => exact .unit hu (.unit hv ih)

lemma codeOctets_toNat (c : Char) : codeOctets c.toNat = String.utf8EncodeChar c := by
  rw [codeOctets, Char.ofNat_toNat]

lemma not_surrogate (c : Char) : isTrailing c.toNat = false ∧ isLeading c.toNat = false := by
  have hv : c.toNat < 0xd800 ∨ 0xdfff < c.toNat ∧ c.toNat < 0x110000 := c.valid
  constructor
  · simp only [isTrailing, Bool.and_eq_false_iff, decide_eq_false_iff_not]
    omega
  · simp only [isLeading, Bool.and_eq_false_iff, decide_eq_false_iff_not]
    omega

lemma escapedUnit_single {c : Char} {u : Octets} (h : UnitText c.toNat u) (rest : Octets) :
    escapedUnit (u ++ rest) = .ok (String.utf8EncodeChar c, rest) := by
  obtain ⟨ht, hl⟩ := not_surrogate c
  simp [escapedUnit, hexFour_unit h, ht, hl, codeOctets_toNat, bind, Except.bind, pure, Except.pure]

lemma escapedUnit_pair {c : Char} (hc : 0x10000 ≤ c.toNat) {u v : Octets}
    (hu : UnitText (0xd800 + (c.toNat - 0x10000) / 1024) u)
    (hv : UnitText (0xdc00 + (c.toNat - 0x10000) % 1024) v) (rest : Octets) :
    escapedUnit (u ++ backslash :: ascii 'u' :: (v ++ rest)) =
      .ok (String.utf8EncodeChar c, rest) := by
  have hvalid : c.toNat < 0xd800 ∨ 0xdfff < c.toNat ∧ c.toNat < 0x110000 := c.valid
  have hut : isTrailing (0xd800 + (c.toNat - 0x10000) / 1024) = false := by
    simp only [isTrailing, Bool.and_eq_false_iff, decide_eq_false_iff_not]
    omega
  have hul : isLeading (0xd800 + (c.toNat - 0x10000) / 1024) = true := by
    simp only [isLeading, Bool.and_eq_true, decide_eq_true_eq]
    omega
  have hvt : isTrailing (0xdc00 + (c.toNat - 0x10000) % 1024) = true := by
    simp only [isTrailing, Bool.and_eq_true, decide_eq_true_eq]
    omega
  have hjoin : (0xd800 + (c.toNat - 0x10000) / 1024 - 0xd800) * 1024 +
      (0xdc00 + (c.toNat - 0x10000) % 1024 - 0xdc00) + 0x10000 = c.toNat := by omega
  simp only [escapedUnit, hexFour_unit hu, hexFour_unit hv, hut, hul, hvt, hjoin, codeOctets_toNat,
    bind, Except.bind, pure, Except.pure]
  simp

lemma Spelling.read {m t : Octets} (h : Spelling m t) (ahead seen rest : Octets)
    (hl : t.length < ahead.length) :
    stringOctets ahead seen (t ++ quote :: rest) = .ok (m.reverse ++ seen, rest) := by
  have hbq : backslash ≠ quote := by decide
  induction h generalizing ahead seen with
  | nil =>
    obtain ⟨x, ahead, rfl⟩ := List.exists_cons_of_length_pos (Nat.zero_lt_of_lt hl)
    simp [stringOctets]
  | @plain b m t hb _ ih =>
    obtain ⟨x, ahead, rfl⟩ := List.exists_cons_of_length_pos (Nat.zero_lt_of_lt hl)
    obtain ⟨hp, hq, hs⟩ := hb
    have hn : ¬ b < 0x20 := by simpa using hp
    simp only [List.cons_append, stringOctets, if_neg hq, if_neg hs, if_neg hn]
    rw [ih ahead _ (by simpa using hl)]
    simp
  | @short e m t he _ ih =>
    obtain ⟨x, ahead, rfl⟩ := List.exists_cons_of_length_pos (Nat.zero_lt_of_lt hl)
    obtain ⟨ho, hu⟩ := escapeOctet_short he
    simp only [List.cons_append, stringOctets, if_neg hbq, if_true, if_neg hu, ho]
    rw [ih ahead _ (by simp only [List.length_cons] at hl; omega)]
    simp
  | @unit c u m t hu _ ih =>
    obtain ⟨x, ahead, rfl⟩ := List.exists_cons_of_length_pos (Nat.zero_lt_of_lt hl)
    simp only [List.cons_append, List.append_assoc, stringOctets, if_neg hbq, if_true,
      escapedUnit_single hu]
    rw [ih ahead _ (by simp only [List.length_cons, List.length_append] at hl; omega)]
    simp
  | @pair c u v m t hc hu hv _ ih =>
    obtain ⟨x, ahead, rfl⟩ := List.exists_cons_of_length_pos (Nat.zero_lt_of_lt hl)
    simp only [List.cons_append, List.append_assoc, stringOctets, if_neg hbq, if_true,
      escapedUnit_pair hc hu hv]
    rw [ih ahead _ (by simp only [List.length_cons, List.length_append] at hl; omega)]
    simp

lemma stringBody_spelled {s : String} {t : Octets} (h : Spelling (octets s) t) (rest : Octets) :
    stringBody (t ++ quote :: rest) = .ok (s, rest) := by
  simp only [stringBody]
  rw [h.read _ _ _ (by simp)]
  simp [ofOctets?_octets]

/-! ### Numbers -/

lemma DigitRun.isDigit {ds : Octets} (h : DigitRun ds) : ∀ b ∈ ds, isDigit b = true := by
  intro b hb
  obtain ⟨hl, hu⟩ := h.2 b hb
  simp [Json.isDigit, hl, hu]

def Undigit (rest : Octets) : Prop := ∀ b ∈ rest.head?, isDigit b = false

lemma dropWhile_digits {ds rest : Octets} (hd : ∀ b ∈ ds, isDigit b = true) (hr : Undigit rest) :
    (ds ++ rest).dropWhile isDigit = rest := by
  rw [List.dropWhile_append, List.dropWhile_eq_nil_iff.mpr hd]
  cases rest with
  | nil => rfl
  | cons b rest => simp [hr b rfl]

lemma digits_append {ds rest : Octets} (h : DigitRun ds) (hr : Undigit rest) :
    digits (ds ++ rest) = (ds, rest) := by
  rw [digits, dropWhile_digits h.isDigit hr, List.takeWhile_append_of_pos h.isDigit]
  cases rest with
  | nil => simp
  | cons b rest => simp [hr b rfl]

lemma Ends.octet {b : UInt8} {rest : Octets} (h : Ends (b :: rest)) :
    isDigit b = false ∧ isExponentMark b = false ∧ b ≠ ascii '.' := by
  rcases h b rfl with h | rfl | rfl | rfl
  · rcases h b (List.mem_singleton.mpr rfl) with rfl | rfl | rfl | rfl <;> decide
  all_goals decide

lemma Ends.undigit {rest : Octets} (h : Ends rest) : Undigit rest := by
  cases rest with
  | nil => exact nofun
  | cons b rest =>
    intro b' hb'
    obtain rfl := Option.some.inj hb'
    exact h.octet.1

lemma Exponent.undigit {e rest : Octets} (he : Exponent e) (hr : Ends rest) :
    Undigit (e ++ rest) := by
  cases he with
  | none => exact hr.undigit
  | some hm _ _ =>
    intro b hb
    obtain rfl := Option.some.inj hb
    rcases hm with rfl | rfl <;> decide

lemma Fraction.undigit {f e rest : Octets} (hf : Fraction f) (he : Exponent e) (hr : Ends rest) :
    Undigit (f ++ (e ++ rest)) := by
  cases hf with
  | none => exact he.undigit hr
  | some _ =>
    intro b hb
    obtain rfl := Option.some.inj hb
    decide

lemma skipExponent_digits {sign ds : Octets}
    (hs : sign = [] ∨ sign = [ascii '+'] ∨ sign = [ascii '-']) (hd : DigitRun ds) {rest : Octets}
    (hr : Ends rest) : skipExponent (sign ++ (ds ++ rest)) = .ok rest := by
  have hrest : digits (ds ++ rest) = (ds, rest) := digits_append hd hr.undigit
  obtain ⟨d, ds', rfl⟩ := List.exists_cons_of_ne_nil hd.1
  rcases hs with rfl | rfl | rfl
  · have hsign : ¬ (d = ascii '+' ∨ d = ascii '-') := by
      have hdigit := hd.isDigit d (by simp)
      rintro (rfl | rfl) <;> exact absurd hdigit (by decide)
    rw [List.cons_append] at hrest
    simp [skipExponent, hsign, hrest]
  · rw [List.cons_append] at hrest
    simp [skipExponent, hrest]
  · rw [List.cons_append] at hrest
    simp [skipExponent, hrest]

lemma Exponent.begins {e : Octets} (h : Exponent e) {rest : Octets} (hr : Ends rest) :
    (e ++ rest = [] ∧ rest = []) ∨ ∃ b t, e ++ rest = b :: t ∧ b ≠ ascii '.' ∧
      if isExponentMark b then skipExponent t = .ok rest else rest = b :: t := by
  cases h with
  | none =>
    cases rest with
    | nil => exact .inl ⟨rfl, rfl⟩
    | cons b rest => exact .inr ⟨b, rest, rfl, hr.octet.2.2, by simp [hr.octet.2.1]⟩
  | @some m sign ds hm hs hds =>
    have hmark : ∀ m, m = ascii 'e' ∨ m = ascii 'E' → isExponentMark m = true ∧ m ≠ ascii '.' := by
      rintro m (rfl | rfl) <;> decide
    obtain ⟨hm, hp⟩ := hmark m hm
    refine .inr ⟨m, sign ++ (ds ++ rest), by simp, hp, ?_⟩
    rw [if_pos hm]
    exact skipExponent_digits hs hds hr

lemma skipFraction_digits {ds e : Octets} (hd : DigitRun ds) (he : Exponent e) {rest : Octets}
    (hr : Ends rest) : skipFraction (ds ++ (e ++ rest)) = .ok rest := by
  have hrest := digits_append hd (he.undigit hr)
  obtain ⟨d, ds', rfl⟩ := List.exists_cons_of_ne_nil hd.1
  simp only [skipFraction, hrest]
  obtain ⟨hn, rfl⟩ | ⟨b, t, ht, -, hb⟩ := he.begins hr
  · simp [hn]
  · simp only [ht]
    split_ifs at hb ⊢
    · exact hb
    · rw [hb]

lemma Magnitude.skipped {t : Octets} (h : Magnitude t) {rest : Octets} (hr : Ends rest) :
    skipNumber (t ++ rest) = .ok rest := by
  obtain ⟨hw, hz, hf, he⟩ := h
  rename_i whole f e
  obtain ⟨b, bs, rfl⟩ := List.exists_cons_of_ne_nil hw.1
  have hb : isDigit b = true := hw.isDigit b (by simp)
  have hrest := hf.undigit he hr
  have hdrop : (bs ++ (f ++ (e ++ rest))).dropWhile isDigit = f ++ (e ++ rest) :=
    dropWhile_digits (fun b hb => hw.isDigit b (by simp [hb])) hrest
  have hzero : ¬ (b = ascii '0' ∧ isDigit ((bs ++ (f ++ (e ++ rest))).headD 0) = true) := by
    rintro ⟨rfl, hd⟩
    obtain rfl : bs = [] := by simpa using hz rfl
    cases hne : f ++ (e ++ rest) with
    | nil =>
      rw [hne] at hd
      exact absurd hd (by decide)
    | cons c cs =>
      rw [hne] at hd hrest
      rw [List.nil_append, List.headD_cons, hrest c rfl] at hd
      exact absurd hd (by decide)
  simp only [List.cons_append, List.append_assoc, skipNumber, hb, Bool.not_true, if_false,
    if_neg hzero, hdrop, Bool.false_eq_true]
  cases hf with
  | some hds =>
    simp only [List.cons_append, if_true]
    exact skipFraction_digits hds he hr
  | none =>
    simp only [List.nil_append]
    obtain ⟨hn, rfl⟩ | ⟨b, t, ht, hp, hb⟩ := he.begins hr
    · simp [hn]
    · simp only [ht, if_neg hp]
      split_ifs at hb ⊢
      · exact hb
      · rw [hb]

/-! ### Steps -/

abbrev Pending := List Frame × Stage × Octets

def Goes (p q : Pending) : Prop :=
  ∀ ahead : Octets, p.2.2.length ≤ ahead.length → ∃ ahead' : Octets,
    q.2.2.length ≤ ahead'.length ∧
      skipFrom ahead p.1 p.2.1 p.2.2 = skipFrom ahead' q.1 q.2.1 q.2.2

lemma Goes.trans {p q r : Pending} (h : Goes p q) (h' : Goes q r) : Goes p r := by
  intro ahead hl
  obtain ⟨ahead', hl', he⟩ := h ahead hl
  obtain ⟨ahead'', hl'', he'⟩ := h' ahead' hl'
  exact ⟨ahead'', hl'', he.trans he'⟩

lemma Goes.step {stack stack' : List Frame} {stage stage' : Stage} {ws rest rest' : Octets}
    {b : UInt8} (hn : stack ≠ [] ∨ stage ≠ .closed) (hw : Blank ws) (hb : isBlank b = false)
    (hs : skipStep stack stage b rest = .ok (stack', stage', rest'))
    (hl : rest'.length ≤ rest.length) :
    Goes (stack, stage, ws ++ b :: rest) (stack', stage', rest') := by
  intro ahead ha
  simp only [List.length_append, List.length_cons] at ha
  obtain ⟨x, ahead, rfl⟩ := List.exists_cons_of_length_pos (show 0 < ahead.length by omega)
  refine ⟨ahead, ?_, ?_⟩
  · simp only [List.length_cons] at ha
    exact show rest'.length ≤ ahead.length by omega
  · have hskip := skipBlank_blank_cons hw hb rest
    cases stack with
    | nil =>
      cases stage with
      | closed => simp at hn
      | value => simp only [skipFrom, hskip, hs]
      | opened frame => simp only [skipFrom, hskip, hs]
    | cons frame outer => simp only [skipFrom, hskip, hs]

lemma Goes.opened {stack : List Frame} {ws rest : Octets} {b : UInt8} {q : Pending}
    (hw : Blank ws) (hb : isBlank b = false) (hc : b ≠ listClose)
    (h : Goes (.list :: stack, .value, ws ++ b :: rest) q) :
    Goes (.list :: stack, .opened .list, ws ++ b :: rest) q := by
  intro ahead ha
  obtain ⟨ahead', hl, he⟩ := h ahead ha
  refine ⟨ahead', hl, Eq.trans ?_ he⟩
  cases ahead with
  | nil => rfl
  | cons x ahead =>
    simp only [skipFrom, skipBlank_blank_cons hw hb, skipStep, closes, beq_iff_eq, if_neg hc]

lemma skipName_literal {ws name before : Octets} (hw : Blank ws) (hn : Literal name)
    (hb : Blank before) (rest : Octets) :
    skipName (ws ++ quote :: (name ++ quote :: (before ++ colon :: rest))) = .ok rest := by
  have hq : isBlank quote = false := by decide
  have hc : isBlank colon = false := by decide
  have hs := hn.skipped (name ++ quote :: (before ++ colon :: rest)) (before ++ colon :: rest)
    (by simp)
  simp [skipName, skipBlank_blank_cons hw hq, hs, skipBlank_blank_cons hb hc, bind, Except.bind]

/-! ### Any value -/

lemma Magnitude.head {t : Octets} (h : Magnitude t) :
    ∃ b bs, t = b :: bs ∧ isDigit b = true ∧ isBlank b = false := by
  obtain ⟨hw, -, -, -⟩ := h
  obtain ⟨b, bs, rfl⟩ := List.exists_cons_of_ne_nil hw.1
  have hb := hw.isDigit b (by simp)
  refine ⟨b, _, rfl, hb, ?_⟩
  by_contra hblank
  rcases isBlank_iff.mp (by simpa using hblank) b (by simp) with rfl | rfl | rfl | rfl <;>
    exact absurd hb (by decide)

lemma IsText.head {t : Octets} (h : IsText .value t) :
    ∃ b bs, t = b :: bs ∧ isBlank b = false ∧ b ≠ listClose := by
  cases h with
  | positive hm =>
    obtain ⟨b, bs, rfl, hd, hb⟩ := hm.head
    refine ⟨b, bs, rfl, hb, ?_⟩
    rintro rfl
    exact absurd hd (by decide)
  | keyword hk =>
    simp only [List.mem_cons, List.not_mem_nil, or_false] at hk
    rcases hk with rfl | rfl | rfl <;> exact ⟨_, _, rfl, by decide, by decide⟩
  | negative _ => exact ⟨_, _, rfl, by decide, by decide⟩
  | string _ => exact ⟨_, _, rfl, by decide, by decide⟩
  | list _ => exact ⟨_, _, rfl, by decide, by decide⟩
  | object _ => exact ⟨_, _, rfl, by decide, by decide⟩

lemma ends_blank {ws rest : Octets} (hw : Blank ws) (h : Ends rest) : Ends (ws ++ rest) := by
  cases ws with
  | nil => exact h
  | cons b ws =>
    intro b' hb'
    obtain rfl := Option.some.inj hb'
    exact .inl fun b' hb' => (List.mem_singleton.mp hb') ▸ hw b (by simp)

lemma ends_cons {b : UInt8} (h : b = comma ∨ b = listClose ∨ b = objectClose) (rest : Octets) :
    Ends (b :: rest) := by
  intro b' hb'
  obtain rfl := Option.some.inj hb'
  exact .inr h

lemma Lead.ends {sep : Octets} (h : Lead false sep) (rest : Octets) : Ends (sep ++ rest) := by
  obtain ⟨before, after, hb, -, rfl⟩ := h
  rw [List.append_assoc]
  exact ends_blank hb (ends_cons (.inl rfl) _)

lemma IsText.ends {part : Part} {t : Octets} (h : IsText part t)
    (hp : part = .items false ∨ part = .members false) (rest : Octets) : Ends (t ++ rest) := by
  cases h with
  | endItems hw =>
    rw [List.append_assoc]
    exact ends_blank hw (ends_cons (.inr (.inl rfl)) _)
  | endMembers hw =>
    rw [List.append_assoc]
    exact ends_blank hw (ends_cons (.inr (.inr rfl)) _)
  | item hs hv ht =>
    obtain rfl := Part.items.inj (hp.resolve_right nofun)
    rw [List.append_assoc]
    exact hs.ends _
  | member hs hn hb ha hv ht =>
    obtain rfl := Part.members.inj (hp.resolve_left nofun)
    rw [List.append_assoc]
    exact hs.ends _
  | _ => simp at hp

def Part.Skipped (t : Octets) : Part → Prop
  | .value => ∀ stack ws rest, Blank ws → Ends rest →
      Goes (stack, .value, ws ++ (t ++ rest)) (stack, .closed, rest)
  | .items first => ∀ stack rest,
      Goes (.list :: stack, if first then .opened .list else .closed, t ++ rest)
        (stack, .closed, rest)
  | .members first => ∀ stack rest,
      Goes (.object :: stack, if first then .opened .object else .closed, t ++ rest)
        (stack, .closed, rest)

lemma skipped_scalar {b : UInt8} {t : Octets} (hb : isBlank b = false)
    (h : ∀ rest, Ends rest → skipScalar b (t ++ rest) = .ok (none, rest)) :
    Part.value.Skipped (b :: t) := by
  intro stack ws rest hw hr
  have hs : skipStep stack .value b (t ++ rest) = .ok (stack, .closed, rest) := by
    simp [skipStep, h rest hr, Except.map]
  exact .step (.inr nofun) hw hb hs (by simp)

lemma Goes.item {stack : List Frame} {first : Bool} {sep rest : Octets} {b : UInt8} {q : Pending}
    (hs : Lead first sep) (hb : isBlank b = false) (hc : b ≠ listClose)
    (h : ∀ ws, Blank ws → Goes (.list :: stack, .value, ws ++ b :: rest) q) :
    Goes (.list :: stack, if first then .opened .list else .closed, sep ++ b :: rest) q := by
  cases first with
  | true => exact .opened hs hb hc (h sep hs)
  | false =>
    obtain ⟨before, after, hbefore, hafter, rfl⟩ := hs
    rw [List.append_assoc, List.cons_append]
    refine .trans (.step (.inl nofun) hbefore (by decide) ?_ le_rfl) (h after hafter)
    rfl

lemma Goes.member {stack : List Frame} {first : Bool} {sep name before : Octets}
    (hs : Lead first sep) (hn : Literal name) (hb : Blank before) (rest : Octets) :
    Goes (.object :: stack, if first then .opened .object else .closed,
        sep ++ quote :: (name ++ quote :: (before ++ colon :: rest)))
      (.object :: stack, .value, rest) := by
  have hq : isBlank quote = false := by decide
  cases first with
  | true =>
    refine .step (.inl nofun) hs hq ?_ ?_
    · have hname : skipName ([] ++ quote :: (name ++ quote :: (before ++ colon :: rest))) =
        .ok rest := skipName_literal (List.forall_mem_nil _) hn hb rest
      have hclose : closes .object quote = false := by decide
      rw [List.nil_append] at hname
      simp [skipStep, hclose, hname, Except.map]
    · simp only [List.length_append, List.length_cons]
      omega
  | false =>
    obtain ⟨ws, after, hws, hafter, rfl⟩ := hs
    rw [List.append_assoc, List.cons_append]
    refine .step (.inl nofun) hws (by decide) ?_ ?_
    · simp [skipStep, skipName_literal hafter hn hb, Except.map]
    · simp only [List.length_append, List.length_cons]
      omega

lemma IsText.skipped {part : Part} {t : Octets} (h : IsText part t) : part.Skipped t := by
  induction h with
  | keyword hk =>
    simp only [List.mem_cons, List.not_mem_nil, or_false] at hk
    rcases hk with rfl | rfl | rfl <;> exact skipped_scalar (by decide) fun rest _ => rfl
  | @positive t hm =>
    obtain ⟨b, bs, rfl, hb, hblank⟩ := hm.head
    have hne (c : UInt8) (hc : isDigit c = false) : b ≠ c := by
      rintro rfl
      exact absurd hb (by simp [hc])
    refine skipped_scalar hblank fun rest hr => ?_
    have hskip := hm.skipped hr
    rw [List.cons_append] at hskip
    simp [skipScalar, hne (ascii 'n') (by decide), hne (ascii 't') (by decide),
      hne (ascii 'f') (by decide), hne (ascii '-') (by decide), hb, hskip, Except.map]
  | @negative t hm =>
    refine skipped_scalar (by decide) fun rest hr => ?_
    have hskip := hm.skipped hr
    have hc : ascii '-' ≠ ascii 'n' ∧ ascii '-' ≠ ascii 't' ∧ ascii '-' ≠ ascii 'f' := by decide
    obtain ⟨h₁, h₂, h₃⟩ := hc
    simp [skipScalar, h₁, h₂, h₃, hskip, Except.map]
  | @string t hl =>
    refine skipped_scalar (by decide) fun rest _ => ?_
    have hskip := hl.skipped (t ++ quote :: rest) rest (by simp)
    have hc : quote ≠ ascii 'n' ∧ quote ≠ ascii 't' ∧ quote ≠ ascii 'f' ∧ quote ≠ ascii '-' ∧
        isDigit quote = false := by decide
    obtain ⟨h₁, h₂, h₃, h₄, h₅⟩ := hc
    simp [skipScalar, h₁, h₂, h₃, h₄, h₅, hskip, Except.map]
  | @list t ht ih =>
    intro stack ws rest hw hr
    exact .trans (.step (.inr nofun) hw (by decide) rfl le_rfl) (ih stack rest)
  | @object t ht ih =>
    intro stack ws rest hw hr
    exact .trans (.step (.inr nofun) hw (by decide) rfl le_rfl) (ih stack rest)
  | @endItems first ws hw =>
    intro stack rest
    rw [List.append_assoc]
    exact .step (.inl nofun) hw (by decide) (by cases first <;> rfl) le_rfl
  | @item first sep v t hs hv ht ihv iht =>
    intro stack rest
    obtain ⟨b, bs, rfl, hb, hc⟩ := hv.head
    rw [List.append_assoc, List.append_assoc]
    refine .item hs hb hc fun ws hw => ?_
    exact .trans (ihv _ ws (t ++ rest) hw (ht.ends (.inl rfl) rest)) (iht stack rest)
  | @endMembers first ws hw =>
    intro stack rest
    rw [List.append_assoc]
    exact .step (.inl nofun) hw (by decide) (by cases first <;> rfl) le_rfl
  | @member first sep name before after v t hs hn hb ha hv ht ihv iht =>
    intro stack rest
    simp only [List.append_assoc, List.cons_append]
    refine .trans (.member hs hn hb _) (.trans ?_ (iht stack rest))
    exact ihv _ after (t ++ rest) ha (ht.ends (.inr rfl) rest)

theorem skipValue_text {t : Octets} (h : IsText .value t) {ws rest : Octets} (hw : Blank ws)
    (hr : Ends rest) : skipValue (ws ++ (t ++ rest)) = .ok rest := by
  obtain ⟨ahead, -, he⟩ := h.skipped [] ws rest hw hr (ws ++ (t ++ rest)) le_rfl
  rw [skipValue]
  refine he.trans ?_
  cases ahead <;> rfl

end Switchboard.Json
