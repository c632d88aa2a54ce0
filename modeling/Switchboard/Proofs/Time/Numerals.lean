import Mathlib
import Switchboard.Time.Timestamp

/-! Decimal numerals: what the printers write, the scanners of digits take back. -/

namespace Switchboard.Time

lemma valueOf_eq_ofDigitChars (ds : List Char) : valueOf ds = Nat.ofDigitChars 10 ds 0 := by
  simp only [valueOf, Nat.ofDigitChars_eq_foldl, digitOf]
  congr 1
  funext n c
  simp [mul_comm]

lemma padded_toList (width n : ℕ) :
    (padded width n).toList =
      List.replicate (width - (Nat.toDigits 10 n).length) '0' ++ Nat.toDigits 10 n := by
  simp only [padded, Nat.toString_eq_ofList_toDigits, String.length_ofList, String.toList_append,
    String.toList_ofList]

lemma padded_isDigit {width n : ℕ} {c : Char} (h : c ∈ (padded width n).toList) :
    c.isDigit = true := by
  rw [padded_toList, List.mem_append] at h
  rcases h with h | h
  · rw [(List.mem_replicate.mp h).2]
    decide
  · exact Nat.isDigit_of_mem_toDigits (by decide) (by decide) h

lemma valueOf_padded (width n : ℕ) : valueOf (padded width n).toList = n := by
  rw [valueOf_eq_ofDigitChars, padded_toList, Nat.ofDigitChars_append,
    Nat.ofDigitChars_replicate_zero, Nat.mul_zero, Nat.ofDigitChars_ten_toDigits]

lemma padded_ne_nil (width n : ℕ) : (padded width n).toList ≠ [] := by
  simp [padded_toList]

lemma padded_length {width n : ℕ} (hw : 0 < width) (hn : n < 10 ^ width) :
    (padded width n).toList.length = width := by
  have h := (Nat.length_toDigits_le_iff (b := 10) (n := n) (by decide) hw).mpr hn
  rw [padded_toList, List.length_append, List.length_replicate]
  omega

lemma digit_not_blank {c : Char} (h : c.isDigit = true) : Unicode.isBlank c = false := by
  have hc : 48 ≤ c.toNat ∧ c.toNat ≤ 57 := by
    simp only [Char.isDigit, ge_iff_le, Bool.and_eq_true, decide_eq_true_eq] at h
    exact h
  obtain ⟨hl, hu⟩ := hc
  generalize hn : c.toNat = n at hl hu
  interval_cases n <;> simp [Unicode.isBlank, hn]

lemma skipBlanks_cons {c : Char} (h : Unicode.isBlank c = false) (rest : List Char) :
    skipBlanks (c :: rest) = c :: rest := by
  simp [skipBlanks, h]

lemma skipBlanks_digits {ds : List Char} (hd : ∀ c ∈ ds, c.isDigit = true) (hne : ds ≠ [])
    (rest : List Char) : skipBlanks (ds ++ rest) = ds ++ rest := by
  cases ds with
  | nil => exact absurd rfl hne
  | cons c ds => exact skipBlanks_cons (digit_not_blank (hd c (by simp))) _

lemma mark_cons {c : Char} (h : Unicode.isBlank c = false) (rest : List Char) :
    mark c (c :: rest) = some rest := by
  simp [mark, skipBlanks_cons h]

lemma digitRun_append {width : ℕ} {ds rest : List Char} (hd : ∀ c ∈ ds, c.isDigit = true)
    (hne : ds ≠ []) (hl : ds.length ≤ width)
    (hr : ds.length = width ∨ ∀ c ∈ rest.head?, c.isDigit = false) :
    digitRun width (ds ++ rest) = some (ds, rest) := by
  have ht : ((ds ++ rest).take width).takeWhile Char.isDigit = ds := by
    rw [List.take_append, List.take_of_length_le hl, List.takeWhile_append_of_pos hd]
    rcases hr with hr | hr
    · simp [hr]
    · cases rest with
      | nil => simp
      | cons c rest =>
        have hc := hr c (by simp)
        cases hw : width - ds.length with
        | zero => simp
        | succ k => simp [hc]
  have hn : ds.isEmpty = false := by simpa using hne
  simp [digitRun, ht, hn]

lemma digitRun_padded {width n : ℕ} (hw : 0 < width) (hn : n < 10 ^ width) (rest : List Char) :
    digitRun width ((padded width n).toList ++ rest) = some ((padded width n).toList, rest) :=
  digitRun_append (fun _ h => padded_isDigit h) (padded_ne_nil width n)
    (padded_length hw hn).le (.inl (padded_length hw hn))

lemma number_padded {width n : ℕ} (hw : 0 < width) (hn : n < 10 ^ width) (rest : List Char) :
    number width ((padded width n).toList ++ rest) = some (n, rest) := by
  simp [number, skipBlanks_digits (fun _ h => padded_isDigit h) (padded_ne_nil width n),
    digitRun_padded hw hn, valueOf_padded]

end Switchboard.Time
