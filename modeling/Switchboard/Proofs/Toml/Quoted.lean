import Switchboard.Proofs.Settings.Numerals

/-! Texts of a document in double quotes, with escapes for what cannot stand there as it is: they
are read back as they were. -/

namespace Switchboard.Toml

open Settings
open Text (isHex hexValue)

def escaped (c : Char) : List Char :=
  if c = '"' ∨ c = '\\' then ['\\', c]
  else if isPrintable c then [c]
  else ['\\', 'u', '0', '0', Nat.digitChar (c.toNat / 16), Nat.digitChar (c.toNat % 16)]

def quoted (s : String) : List Char := '"' :: (s.toList.flatMap escaped ++ ['"'])

lemma hex_digitChar {d : ℕ} (h : d < 16) :
    isHex (Nat.digitChar d) = true ∧ hexValue (Nat.digitChar d) = d := by
  have hall : ∀ d < 16, isHex (Nat.digitChar d) = true ∧ hexValue (Nat.digitChar d) = d := by
    decide
  exact hall d h

lemma hexChar_escaped {c : Char} (h : c.toNat < 256) (rest : List Char) :
    hexChar 4 ('0' :: '0' :: Nat.digitChar (c.toNat / 16) :: Nat.digitChar (c.toNat % 16) :: rest) =
      some (c, rest) := by
  obtain ⟨hu, hv⟩ := hex_digitChar (d := c.toNat / 16) (by omega)
  obtain ⟨hu', hv'⟩ := hex_digitChar (d := c.toNat % 16) (by omega)
  have hz : isHex '0' = true ∧ hexValue '0' = 0 := by decide
  have hn : c.toNat / 16 * 16 + c.toNat % 16 = c.toNat := by omega
  have hc : c.toNat.isValidChar := c.valid
  simp [hexChar, hu, hv, hu', hv', hz, hn, hc, Char.ofNat_toNat]

lemma code_of_not_printable {c : Char} (h : isPrintable c = false) : c.toNat < 256 := by
  simp [isPrintable] at h
  by_contra hc
  have := h.2 (by omega)
  omega

lemma escaped_length (c : Char) : 0 < (escaped c).length := by
  unfold escaped
  split_ifs <;> simp

section

variable {c : Char} {cs rest : List Char}

lemma basicBody_escape (h : escape cs = some (c, rest)) (a : Char) (ahead : List Char) :
    basicBody (a :: ahead) ('\\' :: cs) =
      (basicBody ahead rest).map fun (t, r) => (c :: t, r) := by
  simp only [basicBody, h, Option.bind_eq_bind, Option.bind_some]
  exact Option.map_eq_bind.symm

lemma escape_hex (hc : c.toNat < 256) (rest : List Char) :
    escape ('u' :: '0' :: '0' :: Nat.digitChar (c.toNat / 16) :: Nat.digitChar (c.toNat % 16) ::
      rest) = some (c, rest) := hexChar_escaped hc rest

lemma basicBody_cons (c a : Char) (ahead rest : List Char) :
    basicBody (a :: ahead) (escaped c ++ rest) =
      (basicBody ahead rest).map fun (t, r) => (c :: t, r) := by
  unfold escaped
  split_ifs with hq hp
  · rcases hq with rfl | rfl
    · exact basicBody_escape rfl a ahead
    · exact basicBody_escape rfl a ahead
  · obtain ⟨hquote, hslash⟩ := not_or.mp hq
    rw [List.singleton_append, basicBody]
    · rw [if_pos hp]
    · exact hquote
    · exact hslash
  · have hc := code_of_not_printable (by simpa using hp)
    exact basicBody_escape (escape_hex hc rest) a ahead

lemma basicBody_escaped (cs rest : List Char) {ahead : List Char}
    (h : (cs.flatMap escaped).length < ahead.length) :
    basicBody ahead (cs.flatMap escaped ++ '"' :: rest) = some (cs, rest) := by
  induction cs generalizing ahead with
  | nil =>
    cases ahead with
    | nil => simp at h
    | cons a ahead => rfl
  | cons c cs ih =>
    rw [List.flatMap_cons, List.length_append] at h
    have hpos := escaped_length c
    cases ahead with
    | nil => simp at h
    | cons a ahead =>
      rw [List.length_cons] at h
      rw [List.flatMap_cons, List.append_assoc, basicBody_cons, ih (by omega)]
      rfl

end

lemma escaped_ne_quote (c : Char) (cs rest : List Char) : escaped c ++ cs ≠ '"' :: rest := by
  unfold escaped
  split_ifs with hq
  · simp
  · simp [(not_or.mp hq).1]
  · simp

lemma text_quoted (s : String) {after : List Char} (ha : Ends after) :
    text ('"' :: (s.toList.flatMap escaped ++ '"' :: after)) = some (s, after) := by
  have hb : basicBody (s.toList.flatMap escaped ++ '"' :: after)
      (s.toList.flatMap escaped ++ '"' :: after) = some (s.toList, after) :=
    basicBody_escaped _ _ (by simp)
  rw [text]
  · simp [shortText, hb]
  · intro r hr
    have hr : s.toList.flatMap escaped ++ '"' :: after = '"' :: '"' :: r := (List.cons.inj hr).2
    cases hs : s.toList with
    | nil =>
      rw [hs] at hr
      have hq : after = '"' :: r := (List.cons.inj hr).2
      exact ha.head_ne '"' (by decide) (by rw [hq]; rfl)
    | cons c cs =>
      rw [hs, List.flatMap_cons, List.append_assoc] at hr
      exact escaped_ne_quote _ _ _ hr
  · intro r hr
    simp at hr

theorem value_quoted (s : String) {after : List Char} (ha : Ends after) (depth : ℕ) :
    value (depth + 1) (quoted s ++ after) = some (.text s, after) := by
  have hq : quoted s ++ after = '"' :: (s.toList.flatMap escaped ++ '"' :: after) := by
    simp [quoted]
  rw [hq]
  simp [value, scalar, text_quoted s ha]

lemma quoted_numeral (n : ℤ) : quoted (toString n) = '"' :: ((toString n).toList ++ ['"']) := by
  have he : ∀ c ∈ (toString n).toList, escaped c = [c] := by
    intro c hc
    rcases mem_numeral hc with rfl | hd
    · decide
    · have hq : ¬ (c = '"' ∨ c = '\\') :=
        not_or.mpr ⟨ne_of_digit hd (by decide), ne_of_digit hd (by decide)⟩
      have hp : isPrintable c = true := by
        have hb := digit_bounds hd
        simp [isPrintable]
        omega
      rw [escaped, if_neg hq, if_pos hp]
  have hf : ∀ cs : List Char, (∀ c ∈ cs, escaped c = [c]) → cs.flatMap escaped = cs := by
    intro cs
    induction cs with
    | nil => exact fun _ => rfl
    | cons c cs ih =>
      intro h
      rw [List.flatMap_cons, h c (by simp), ih fun d hd => h d (List.mem_cons_of_mem _ hd)]
      rfl
  rw [quoted, hf _ he]

end Switchboard.Toml
