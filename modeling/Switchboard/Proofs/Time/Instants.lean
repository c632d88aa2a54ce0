import Switchboard.Proofs.Time.Numerals

/-! Every instant is read back from its own text. -/

namespace Switchboard.Time

lemma head_digit {ds : List Char} (hd : ∀ c ∈ ds, c.isDigit = true) (hne : ds ≠ []) :
    ∃ c cs, ds = c :: cs ∧ c.isDigit = true := by
  cases ds with
  | nil => exact absurd rfl hne
  | cons c cs => exact ⟨c, cs, rfl, hd c (by simp)⟩

lemma signedYear_padded {n : ℕ} (hn : n < 10 ^ 4) (rest : List Char) :
    signedYear ((padded 4 n).toList ++ rest) = some ((n : ℤ), rest) := by
  have hd : ∀ c ∈ (padded 4 n).toList, c.isDigit = true := fun _ h => padded_isDigit h
  obtain ⟨c, cs, hs, hc⟩ := head_digit hd (padded_ne_nil 4 n)
  have hm : c ≠ '-' := by rintro rfl; exact absurd hc (by decide)
  have hp : c ≠ '+' := by rintro rfl; exact absurd hc (by decide)
  have hr := digitRun_padded (by decide : 0 < 4) hn rest
  rw [signedYear, skipBlanks_digits hd (padded_ne_nil 4 n)]
  split
  · rename_i h
    rw [hs] at h
    exact absurd (List.cons.inj h).1 hm
  · rename_i h
    rw [hs] at h
    exact absurd (List.cons.inj h).1 hp
  · rw [hr]
    simp [valueOf_padded]

lemma digitRun_signed (n : ℕ) (rest : List Char) :
    digitRun ((padded 4 n).toList ++ '-' :: rest).length ((padded 4 n).toList ++ '-' :: rest) =
      some ((padded 4 n).toList, '-' :: rest) :=
  digitRun_append (fun _ h => padded_isDigit h) (padded_ne_nil 4 n) (by simp)
    (.inr (by simp))

lemma signedYear_minus (rest : List Char) :
    signedYear ('-' :: rest) =
      (digitRun rest.length rest).map fun (ds, rest) => (-(valueOf ds : ℤ), rest) := by
  have hb : Unicode.isBlank '-' = false := by decide
  simp [signedYear, skipBlanks_cons hb]

lemma signedYear_plus (rest : List Char) :
    signedYear ('+' :: rest) =
      (digitRun rest.length rest).map fun (ds, rest) => ((valueOf ds : ℤ), rest) := by
  have hb : Unicode.isBlank '+' = false := by decide
  simp [signedYear, skipBlanks_cons hb]

lemma signedYear_yearText (year : ℤ) (rest : List Char) :
    signedYear ((yearText year).toList ++ '-' :: rest) = some (year, '-' :: rest) := by
  unfold yearText
  split_ifs with h hneg
  · obtain ⟨h₀, h₁⟩ := h
    rw [signedYear_padded (by omega), Int.toNat_of_nonneg h₀]
  · have hs : "-".toList = ['-'] := by decide
    have hy : -(year.natAbs : ℤ) = year := by omega
    rw [String.toList_append, hs, List.append_assoc, List.singleton_append, signedYear_minus,
      digitRun_signed]
    simp only [Option.map_some, valueOf_padded, hy]
  · have hs : "+".toList = ['+'] := by decide
    have hy : (year.natAbs : ℤ) = year := by omega
    rw [String.toList_append, hs, List.append_assoc, List.singleton_append, signedYear_plus,
      digitRun_signed]
    simp only [Option.map_some, valueOf_padded, hy]

lemma nanos_point {width n : ℕ} (hw : 0 < width) (h9 : width ≤ 9) (hn : n < 10 ^ width)
    (rest : List Char) (hr : ∀ c ∈ rest.head?, c.isDigit = false) :
    nanos ('.' :: ((padded width n).toList ++ rest)) = some (n * 10 ^ (9 - width), rest) := by
  have hl := padded_length hw hn
  have ht : digitRun 9 ((padded width n).toList ++ rest) = some ((padded width n).toList, rest) :=
    digitRun_append (fun _ h => padded_isDigit h) (padded_ne_nil width n) (by omega) (.inr hr)
  have hdrop : rest.dropWhile Char.isDigit = rest := by
    cases rest with
    | nil => rfl
    | cons c rest => simp [hr c (by simp)]
  simp [nanos, ht, valueOf_padded, hl, hdrop]

lemma nanos_nanoText {nano : ℕ} (h : nano < 1000000000) (rest : List Char) :
    nanos ((nanoText nano).toList ++ 'Z' :: rest) = some (nano, 'Z' :: rest) := by
  have hz : ∀ c ∈ ('Z' :: rest).head?, c.isDigit = false := by simp
  unfold nanoText
  split_ifs with h₀ h₃ h₆
  · subst h₀
    rfl
  · have hn := nanos_point (by decide : 0 < 3) (by decide) (n := nano / 1000000) (by omega) _ hz
    rw [show nano / 1000000 * 10 ^ (9 - 3) = nano by omega] at hn
    simpa using hn
  · have hn := nanos_point (by decide : 0 < 6) (by decide) (n := nano / 1000) (by omega) _ hz
    rw [show nano / 1000 * 10 ^ (9 - 6) = nano by omega] at hn
    simpa using hn
  · have hn := nanos_point (by decide : 0 < 9) (by decide) (n := nano) (by omega) _ hz
    rw [show nano * 10 ^ (9 - 9) = nano by omega] at hn
    simpa using hn

lemma behind_zero {t : Timestamp} (h : t.Valid) : t.behind 0 = t := by
  obtain ⟨_, hh, hm, _, _⟩ := h
  obtain ⟨date, hour, minute, second, nano⟩ := t
  simp only [Timestamp.behind] at *
  have h₁ : ¬ ((hour : ℤ) * 60 + minute - 0 < 0) := by omega
  have h₂ : ¬ (1440 ≤ (hour : ℤ) * 60 + minute - 0) := by omega
  rw [if_neg h₁, if_neg h₂]
  congr 1 <;> omega

lemma text_toList (t : Timestamp) :
    t.text.toList = (yearText t.date.year).toList ++ '-' :: ((padded 2 t.date.month).toList ++
      '-' :: ((padded 2 t.date.day).toList ++ 'T' :: ((padded 2 t.hour).toList ++
        ':' :: ((padded 2 t.minute).toList ++ ':' :: ((padded 2 t.second).toList ++
          ((nanoText t.nano).toList ++ ['Z'])))))) := by
  simp [Timestamp.text]

lemma instant_eq {s s₁ s₂ s₃ s₄ s₅ s₆ s₇ s₈ s₉ s₁₀ s₁₁ s₁₂ s₁₃ : List Char} {year ahead : ℤ}
    {month day hour minute second nano : ℕ} (hy : signedYear s = some (year, s₁))
    (hm : mark '-' s₁ = some s₂) (hmonth : number 2 s₂ = some (month, s₃))
    (hd : mark '-' s₃ = some s₄) (hday : number 2 s₄ = some (day, s₅))
    (ht : dateTimeMark s₅ = some s₆) (hhour : number 2 s₆ = some (hour, s₇))
    (hc : mark ':' s₇ = some s₈) (hminute : number 2 s₈ = some (minute, s₉))
    (hc' : mark ':' s₉ = some s₁₀) (hsecond : number 2 s₁₀ = some (second, s₁₁))
    (hn : nanos s₁₁ = some (nano, s₁₂)) (ho : offset (skipBlanks s₁₂) = some (ahead, s₁₃))
    {t : Timestamp} (he : t = ⟨⟨year, month, day⟩, hour, minute, second, nano⟩) :
    instant s = if (skipBlanks s₁₃).isEmpty ∧ t.Valid ∧ (t.behind ahead).Valid
      then some (t.behind ahead) else none := by
  have hb {α β : Type} (a : α) (f : α → Option β) : (some a >>= f) = f a := rfl
  subst he
  rw [instant, hy, hb]
  dsimp only
  rw [hm, hb, hmonth, hb]
  dsimp only
  rw [hd, hb, hday, hb]
  dsimp only
  rw [ht, hb, hhour, hb]
  dsimp only
  rw [hc, hb, hminute, hb]
  dsimp only
  rw [hc', hb, hsecond, hb]
  dsimp only
  rw [hn, hb]
  dsimp only
  rw [ho, hb]
  rfl

theorem parse_text {t : Timestamp} (h : t.Valid) : Timestamp.parse t.text = some t := by
  obtain ⟨⟨_, _, hm₁, hm₂, hd₁, hd₂⟩, hh, hmin, hs, hn⟩ := id h
  have hd : t.date.day < 10 ^ 2 := by
    have : monthLength t.date.year t.date.month ≤ 31 := by
      unfold monthLength
      split_ifs <;> omega
    omega
  have hdash : Unicode.isBlank '-' = false := by decide
  have hcolon : Unicode.isBlank ':' = false := by decide
  have hzone : offset (skipBlanks ['Z']) = some (0, []) := by decide
  rw [Timestamp.parse, text_toList, instant_eq (signedYear_yearText _ _) (mark_cons hdash _)
    (number_padded (by decide) (by omega) _) (mark_cons hdash _) (number_padded (by decide) hd _)
    rfl (number_padded (by decide) (by omega) _) (mark_cons hcolon _)
    (number_padded (by decide) (by omega) _) (mark_cons hcolon _)
    (number_padded (by decide) (by omega) _) (nanos_nanoText hn _) hzone rfl]
  have hb := behind_zero h
  simp [hb, h, skipBlanks]

end Switchboard.Time
