import Mathlib
import Switchboard.Proofs.Time.Numerals
import Switchboard.Settings.Load

/-! The decimal numeral of a whole number, as a value of a document and as the text of a variable:
it is read as that number or not at all. -/

namespace Switchboard.Settings

open Toml
open Text (hexValue)

def minus (negative : Bool) : List Char := if negative then ['-'] else []

def signed (negative : Bool) (m : ℕ) : ℤ := if negative then -m else m

lemma toList_numeral (n : ℤ) :
    (toString n).toList = minus (decide (n < 0)) ++ Nat.toDigits 10 n.natAbs := by
  rw [Int.toString_eq_repr, Int.repr_eq_if]
  by_cases hn : 0 ≤ n
  · have hm : n.toNat = n.natAbs := by omega
    rw [if_pos hn, Nat.toList_repr, hm, minus, if_neg (by simpa using hn), List.nil_append]
  · have hm : (-n).toNat = n.natAbs := by omega
    rw [if_neg hn, String.toList_append, Nat.toList_repr, hm, minus, if_pos (by simpa using hn)]
    rfl

lemma signed_natAbs (n : ℤ) : signed (decide (n < 0)) n.natAbs = n := by
  rw [signed]
  by_cases hn : n < 0
  · rw [if_pos (decide_eq_true hn)]
    omega
  · rw [if_neg (by simpa using hn)]
    omega

lemma digits_isDigit (m : ℕ) : ∀ c ∈ Nat.toDigits 10 m, c.isDigit = true :=
  fun _ hc => Nat.isDigit_of_mem_toDigits (by decide) (by decide) hc

lemma digits_head (m : ℕ) :
    m = 0 ∨ ∃ c ds, Nat.toDigits 10 m = c :: ds ∧ c ≠ '0' := by
  induction m using Nat.strong_induction_on with
  | _ m ih =>
    by_cases hm : m < 10
    · refine (Nat.eq_zero_or_pos m).imp_right fun hp => ⟨m.digitChar, [], ?_, ?_⟩
      · exact Nat.toDigits_of_lt_base hm
      · exact fun h => hp.ne' (Nat.digitChar_eq_zero.mp h)
    · right
      rcases ih (m / 10) (by omega) with hz | ⟨c, ds, hd, hc⟩
      · omega
      · refine ⟨c, ds ++ [(m % 10).digitChar], ?_, hc⟩
        rw [Nat.toDigits_eq_if (by decide), if_neg hm, hd, List.cons_append]

lemma digit_bounds {c : Char} (h : c.isDigit = true) : 48 ≤ c.toNat ∧ c.toNat ≤ 57 := by
  simp only [Char.isDigit, ge_iff_le, Bool.and_eq_true, decide_eq_true_eq] at h
  exact h

lemma ne_of_digit {c d : Char} (hc : c.isDigit = true) (hd : d.isDigit = false) : c ≠ d := by
  rintro rfl
  rw [hc] at hd
  exact absurd hd (by decide)

def Ends (after : List Char) : Prop :=
  ∀ c ∈ after.head?, c ∈ [' ', '\t', '\n', '\r', '#', ',', '}', ']']

lemma fixed_eq_some {width n : ℕ} {cs rest : List Char} (h : fixed width cs = some (n, rest)) :
    (cs.take width).length = width ∧ (∀ c ∈ cs.take width, c.isDigit = true) ∧
      rest = cs.drop width := by
  simp only [fixed, Option.ite_none_right_eq_some, Option.some.injEq, Prod.mk.injEq] at h
  obtain ⟨⟨hl, hd⟩, -, hr⟩ := h
  exact ⟨hl, by simpa using hd, hr.symm⟩

lemma fixed_minus {width : ℕ} (hw : 0 < width) (cs : List Char) :
    fixed width ('-' :: cs) = none := by
  obtain ⟨k, rfl⟩ : ∃ k, width = k + 1 := ⟨width - 1, by omega⟩
  simp [fixed]

lemma sign_digits (negative : Bool) (m : ℕ) (after : List Char) :
    sign (minus negative ++ (Nat.toDigits 10 m ++ after)) =
      (negative, Nat.toDigits 10 m ++ after) := by
  cases negative with
  | true => rfl
  | false =>
    obtain ⟨c, ds, hd⟩ := List.exists_cons_of_ne_nil (Nat.toDigits_ne_nil (n := m) (b := 10))
    have hc : c.isDigit = true := digits_isDigit m c (by simp [hd])
    have hp : c ≠ '+' := ne_of_digit hc (by decide)
    have hm : c ≠ '-' := ne_of_digit hc (by decide)
    simp [minus, hd, sign, hp, hm]

lemma hexValue_digit {c : Char} (h : c.isDigit = true) : hexValue c = c.toNat - '0'.toNat := by
  simp [hexValue, h]

lemma valueIn_digits (m : ℕ) : valueIn 10 (Nat.toDigits 10 m) = m := by
  have hf : ∀ ds : List Char, (∀ c ∈ ds, c.isDigit = true) → ∀ a,
      ds.foldl (fun n d => n * 10 + hexValue d) a = Nat.ofDigitChars 10 ds a := by
    intro ds
    induction ds with
    | nil => exact fun _ _ => rfl
    | cons c ds ih =>
      intro hd a
      rw [List.foldl_cons, ih fun c hc => hd c (List.mem_cons_of_mem _ hc), Nat.ofDigitChars_cons,
        hexValue_digit (hd c (by simp)), mul_comm]
  rw [valueIn, hf _ (digits_isDigit m), Nat.ofDigitChars_ten_toDigits]

section

variable {after : List Char} (ha : Ends after)

include ha

lemma Ends.head_ne (d : Char) (hd : d ∉ [' ', '\t', '\n', '\r', '#', ',', '}', ']']) :
    after.head? ≠ some d :=
  fun h => hd (ha d h)

lemma Ends.head_not_digit : ∀ c ∈ after.head?, c.isDigit = false := by
  intro c hc
  have hm := ha c hc
  simp only [List.mem_cons, List.not_mem_nil, or_false] at hm
  rcases hm with rfl | rfl | rfl | rfl | rfl | rfl | rfl | rfl <;> decide

lemma digitRun_append {ds : List Char} (hd : ∀ c ∈ ds, c.isDigit = true) (hne : ds ≠ []) :
    digitRun Char.isDigit (ds ++ after) = some (ds, after) := by
  induction ds with
  | nil => exact absurd rfl hne
  | cons c ds ih =>
    have hc := hd c (by simp)
    cases ds with
    | nil =>
      cases after with
      | nil => simp [digitRun, hc]
      | cons a after =>
        have hu : a ≠ '_' := fun h => ha.head_ne '_' (by decide) (by rw [h]; rfl)
        have hn : digitRun Char.isDigit (a :: after) = none := by
          have hf := ha.head_not_digit a (by simp)
          cases after <;> simp [digitRun, hf]
        simp [digitRun, hc, hu, hn]
    | cons d ds =>
      have hu : d ≠ '_' := ne_of_digit (hd d (by simp)) (by decide)
      have ih := ih (fun c hc => hd c (List.mem_cons_of_mem _ hc)) (by simp)
      rw [List.cons_append] at ih
      simp [digitRun, hc, hu, ih]

lemma plainDigits_digits (m : ℕ) :
    plainDigits (Nat.toDigits 10 m ++ after) = some (Nat.toDigits 10 m, after) := by
  rcases digits_head m with rfl | ⟨c, ds, hd, hc⟩
  · simp [plainDigits]
  · rw [hd, List.cons_append, plainDigits]
    · rw [← List.cons_append, ← hd]
      exact digitRun_append ha (digits_isDigit m) Nat.toDigits_ne_nil
    · simpa using hc

lemma expect_after_fixed {m width n : ℕ} {rest : List Char} (mark : Char)
    (hm : mark ∉ [' ', '\t', '\n', '\r', '#', ',', '}', ']']) (hd : mark.isDigit = false)
    (h : fixed width (Nat.toDigits 10 m ++ after) = some (n, rest)) : expect mark rest = none := by
  obtain ⟨hl, hall, rfl⟩ := fixed_eq_some h
  have hle : width ≤ (Nat.toDigits 10 m).length := by
    by_contra hlt
    rw [List.take_append, List.take_of_length_le (by omega)] at hl hall
    cases after with
    | nil => simp at hl; omega
    | cons a after =>
      obtain ⟨k, hk⟩ : ∃ k, width - (Nat.toDigits 10 m).length = k + 1 :=
        ⟨width - (Nat.toDigits 10 m).length - 1, by omega⟩
      have hdig := hall a (by rw [hk]; simp)
      rw [ha.head_not_digit a (by simp)] at hdig
      exact absurd hdig (by decide)
  rw [List.drop_append_of_le_length hle]
  cases hr : (Nat.toDigits 10 m).drop width with
  | nil =>
    cases after with
    | nil => rfl
    | cons a after =>
      have ham : a ≠ mark := fun h => ha.head_ne mark hm (by rw [h]; rfl)
      simp [expect, ham]
  | cons c ds =>
    have hc : c ≠ mark :=
      ne_of_digit (digits_isDigit m c (List.mem_of_mem_drop (by rw [hr]; simp))) hd
    simp [expect, hc]

lemma moment_numeral (negative : Bool) (m : ℕ) :
    moment (minus negative ++ (Nat.toDigits 10 m ++ after)) = none := by
  cases negative with
  | true =>
    change moment ('-' :: (Nat.toDigits 10 m ++ after)) = none
    have hd : date ('-' :: (Nat.toDigits 10 m ++ after)) = none := by
      rw [date, fixed_minus (by decide)]
      rfl
    rw [moment, hd, time, fixed_minus (by decide)]
    rfl
  | false =>
    change moment (Nat.toDigits 10 m ++ after) = none
    have hd : date (Nat.toDigits 10 m ++ after) = none := by
      cases hf : fixed 4 (Nat.toDigits 10 m ++ after) with
      | none => simp [date, hf]
      | some r =>
        have he := expect_after_fixed ha '-' (by decide) (by decide) hf
        simp [date, hf, he]
    cases hf : fixed 2 (Nat.toDigits 10 m ++ after) with
    | none => simp [moment, hd, time, hf]
    | some r =>
      have he := expect_after_fixed ha ':' (by decide) (by decide) hf
      simp [moment, hd, time, hf, he]

lemma fraction_ends : fraction after = some (none, after) := by
  have hp := ha.head_ne '.' (by decide)
  cases after with
  | nil => rfl
  | cons a after =>
    have hp : a ≠ '.' := by simpa using hp
    simp [fraction, hp]

lemma exponent_ends : exponent after = some (none, after) := by
  have hl := ha.head_ne 'e' (by decide)
  have hu := ha.head_ne 'E' (by decide)
  cases after with
  | nil => rfl
  | cons a after =>
    have hl : a ≠ 'e' := by simpa using hl
    have hu : a ≠ 'E' := by simpa using hu
    simp [exponent, hl, hu]

lemma decimal_numeral (negative : Bool) (m : ℕ) :
    decimal (minus negative ++ (Nat.toDigits 10 m ++ after)) = none := by
  simp [decimal, sign_digits, plainDigits_digits ha, fraction_ends ha, exponent_ends ha]

lemma no_other_base (negative : Bool) (m : ℕ) {base : Char}
    (hb : base ∉ [' ', '\t', '\n', '\r', '#', ',', '}', ']']) (rest : List Char) :
    minus negative ++ (Nat.toDigits 10 m ++ after) ≠ '0' :: base :: rest := by
  intro h
  cases negative with
  | true => simp [minus] at h
  | false =>
    rcases digits_head m with rfl | ⟨c, ds, hd, hc⟩
    · have ht : after = base :: rest := by simpa [minus] using h
      exact ha.head_ne base hb (by rw [ht]; rfl)
    · rw [hd] at h
      have hz : c = '0' := (List.cons.inj h).1
      exact hc hz

lemma whole_numeral (negative : Bool) (m : ℕ) :
    whole (minus negative ++ (Nat.toDigits 10 m ++ after)) =
      (Setting.ofInt? (signed negative m)).map (·, after) := by
  rw [whole]
  · simp only [sign_digits, plainDigits_digits ha, valueIn_digits, Option.bind_eq_bind,
      Option.bind_some]
    exact Option.map_eq_bind.symm
  · exact no_other_base ha negative m (by decide)
  · exact no_other_base ha negative m (by decide)
  · exact no_other_base ha negative m (by decide)

end

lemma special_numeral (negative : Bool) (m : ℕ) (after : List Char) :
    special (minus negative ++ (Nat.toDigits 10 m ++ after)) = none := by
  obtain ⟨c, ds, hd⟩ := List.exists_cons_of_ne_nil (Nat.toDigits_ne_nil (n := m) (b := 10))
  have hc : c.isDigit = true := digits_isDigit m c (by simp [hd])
  have hi : c ≠ 'i' := ne_of_digit hc (by decide)
  have hn : c ≠ 'n' := ne_of_digit hc (by decide)
  rw [special, sign_digits]
  simp [hd, hi, hn]

lemma numeral_head (negative : Bool) (m : ℕ) (after : List Char) :
    ∃ c cs, minus negative ++ (Nat.toDigits 10 m ++ after) = c :: cs ∧
      (c = '-' ∨ c.isDigit = true) := by
  cases negative with
  | true => exact ⟨'-', _, rfl, .inl rfl⟩
  | false =>
    obtain ⟨c, ds, hd⟩ := List.exists_cons_of_ne_nil (Nat.toDigits_ne_nil (n := m) (b := 10))
    exact ⟨c, ds ++ after, by simp [minus, hd], .inr (digits_isDigit m c (by simp [hd]))⟩

lemma value_of_head {depth : ℕ} {c : Char} {cs : List Char} (hc : c = '-' ∨ c.isDigit = true)
    (hm : moment (c :: cs) = none) : value (depth + 1) (c :: cs) = number (c :: cs) := by
  have hne (d : Char) (hd : d ≠ '-') (hd' : d.isDigit = false) : c ≠ d := by
    rcases hc with rfl | hc
    · exact hd.symm
    · exact ne_of_digit hc hd'
  have hk : keyword (c :: cs) = none := by
    simp [keyword, hne 't' (by decide) (by decide), hne 'f' (by decide) (by decide)]
  simp [value, scalar, hne '[' (by decide) (by decide), hne '\x7b' (by decide) (by decide),
    hne '"' (by decide) (by decide), hne '\'' (by decide) (by decide), hm, hk]

theorem value_numeral {after : List Char} (ha : Ends after) (depth : ℕ) (n : ℤ) :
    value (depth + 1) ((toString n).toList ++ after) = (Setting.ofInt? n).map (·, after) := by
  rw [toList_numeral, List.append_assoc]
  obtain ⟨c, cs, hcs, hc⟩ := numeral_head (decide (n < 0)) n.natAbs after
  have hm := moment_numeral ha (decide (n < 0)) n.natAbs
  rw [hcs, value_of_head hc (hcs ▸ hm), ← hcs, number, decimal_numeral ha, special_numeral]
  rw [whole_numeral ha, signed_natAbs]

lemma toLower_of_head {c : Char} (h : c = '-' ∨ c.isDigit = true) : c.toLower = c := by
  rcases h with rfl | h
  · decide
  · have hu : ¬ (c.val ≥ 'A'.val ∧ c.val ≤ 'Z'.val) := by
      intro hc
      have hb : 65 ≤ c.toNat := hc.1
      have hd := (digit_bounds h).2
      omega
    rw [Char.toLower, dif_neg hu]

lemma mem_numeral {n : ℤ} {c : Char} (h : c ∈ (toString n).toList) :
    c = '-' ∨ c.isDigit = true := by
  rw [toList_numeral, List.mem_append] at h
  rcases h with h | h
  · left
    by_cases hn : decide (n < 0) = true
    · simpa [minus, hn] using h
    · simp [minus, hn] at h
  · exact .inr (digits_isDigit _ c h)

lemma toLower_numeral (n : ℤ) : (toString n).toLower = toString n := by
  apply String.toList_injective
  rw [String.toLower, String.toList_map]
  exact (List.map_congr_left fun c hc => toLower_of_head (mem_numeral hc)).trans (List.map_id' _)

lemma numeral_ne (n : ℤ) {word : String} (h : ∃ c ∈ word.toList, c ≠ '-' ∧ c.isDigit = false) :
    toString n ≠ word := by
  rintro rfl
  obtain ⟨c, hc, hm, hd⟩ := h
  rcases mem_numeral hc with rfl | hc
  · exact hm rfl
  · rw [hc] at hd
    exact absurd hd (by decide)

lemma isOn_numeral (n : ℤ) : isOn (toString n) = false := by
  rw [isOn, Bool.or_eq_false_iff, Bool.or_eq_false_iff]
  refine ⟨⟨beq_false_of_ne ?_, beq_false_of_ne ?_⟩, beq_false_of_ne ?_⟩
  all_goals exact numeral_ne n (by simp)

lemma isOff_numeral (n : ℤ) : isOff (toString n) = false := by
  rw [isOff, Bool.or_eq_false_iff, Bool.or_eq_false_iff]
  refine ⟨⟨beq_false_of_ne ?_, beq_false_of_ne ?_⟩, beq_false_of_ne ?_⟩
  all_goals exact numeral_ne n (by simp)

lemma numeral?_digits {s : String} (hne : s.toList ≠ []) (hd : ∀ c ∈ s.toList, c.isDigit = true) :
    numeral? s = some (Nat.ofDigitChars 10 s.toList 0) := by
  have hf : s.toList.foldl (fun n d => n * 10 + (d.toNat - 48)) 0 =
      Nat.ofDigitChars 10 s.toList 0 := by
    rw [Nat.ofDigitChars_eq_foldl]
    simp only [mul_comm]
    rfl
  rw [← hf, numeral?]
  split
  · next ds hs => exact absurd (hd '+' (by simp [hs])) (by decide)
  · rw [if_neg]
    rintro (he | he)
    · exact hne (List.isEmpty_iff.mp he)
    · exact absurd (List.all_eq_true.mpr hd) (by simpa using he)

lemma numeral?_numeral (n : ℤ) :
    numeral? (toString n) = if n < 0 then none else some n.toNat := by
  have hl := toList_numeral n
  by_cases hn : n < 0
  · simp only [hn, decide_true, minus, if_true, List.cons_append, List.nil_append] at hl
    simp [numeral?, hl, hn, -Int.toString_eq_repr]
  · simp only [hn, decide_false, minus, Bool.false_eq_true, if_false, List.nil_append] at hl
    rw [numeral?_digits (hl ▸ Nat.toDigits_ne_nil) (hl ▸ digits_isDigit _), hl,
      Nat.ofDigitChars_ten_toDigits, if_neg hn]
    congr 1
    omega

lemma wordOfText_numeral (n : ℤ) :
    wordOfText (toString n) = if n < 0 then none else some n.toNat := by
  rw [wordOfText, toLower_numeral, isOn_numeral, isOff_numeral]
  exact numeral?_numeral n

lemma takeWord_whole {bits m : ℕ} {n : ℤ} (h : takeWord bits (.whole n) = .ok m) : (m : ℤ) = n := by
  simp only [takeWord] at h
  split_ifs at h with hn hb
  obtain rfl := Except.ok.inj h
  exact Int.toNat_of_nonneg hn

lemma takeWord_numeral {bits m : ℕ} {n : ℤ} (h : takeWord bits (.text (toString n)) = .ok m) :
    (m : ℤ) = n := by
  simp only [takeWord, wordOfText_numeral] at h
  by_cases hn : n < 0
  · simp [hn] at h
  · simp only [hn, if_false] at h
    split_ifs at h with hl hb
    obtain rfl := Except.ok.inj h
    exact Int.toNat_of_nonneg (not_lt.mp hn)

inductive Gives (n : ℤ) : Setting → Prop
  | whole : Gives n (.whole n)
  | text : Gives n (.text (toString n))

lemma Gives.taken {bits m : ℕ} {n : ℤ} {s : Setting} (hs : Gives n s)
    (h : takeWord bits s = .ok m) : (m : ℤ) = n := by
  cases hs with
  | whole => exact takeWord_whole h
  | text => exact takeWord_numeral h

lemma takeWord_lt {bits m : ℕ} {s : Setting} (h : takeWord bits s = .ok m) : m < 2 ^ bits := by
  have hw {n : ℕ} (hn : (if n < 1 <<< bits then .ok n else .error .wrongType :
      Except ConfigFault ℕ) = .ok m) : m < 2 ^ bits := by
    split_ifs at hn with hb
    obtain rfl := Except.ok.inj hn
    rwa [Nat.one_shiftLeft] at hb
  cases s with
  | bool b => exact hw h
  | whole n =>
    rw [takeWord] at h
    split_ifs at h
    exact hw h
  | real x => exact hw h
  | text t =>
    rw [takeWord] at h
    split at h
    · split_ifs at h
      exact hw h
    · simp at h
  | _ => simp [takeWord] at h

lemma takeWord_written {bits n : ℕ} (h : n < 2 ^ bits) : takeWord bits (.whole n) = .ok n := by
  have hb : n < 1 <<< bits := by rwa [Nat.one_shiftLeft]
  simp [takeWord, hb]

lemma takeWord_spelled {bits n : ℕ} (hb : bits ≤ 64) (h : n < 2 ^ bits) :
    takeWord bits (.text (toString n)) = .ok n := by
  have hw : wordOfText (toString n) = some n := wordOfText_numeral (n : ℤ)
  have hl : n < 1 <<< 64 := by
    rw [Nat.one_shiftLeft]
    exact h.trans_le (Nat.pow_le_pow_right (by decide) hb)
  have hs : n < 1 <<< bits := by rwa [Nat.one_shiftLeft]
  simp only [takeWord, hw, if_pos hl, if_pos hs]

end Switchboard.Settings
