import Mathlib
import Switchboard.Toml.Document

/-! No scanner leaves more of a document than there was, so that what a reader of several things
keeps as the text ahead is never used up before the text itself. -/

namespace Switchboard.Toml

open Settings

section

variable {α β : Type} {scan : Scan α} {cs rest : List Char}

def Shortens (scan : Scan α) : Prop :=
  ∀ ⦃cs a rest⦄, scan cs = some (a, rest) → rest.length ≤ cs.length

lemma of_map {f : α → β} {o : Option (α × List Char)} {b : β}
    (h : (o.map fun (a, rest) => (f a, rest)) = some (b, rest)) : ∃ a, o = some (a, rest) := by
  obtain ⟨⟨a, r⟩, ho, hr⟩ := Option.map_eq_some_iff.mp h
  exact ⟨a, (Prod.mk.inj hr).2 ▸ ho⟩

end

/-! ### Marks -/

lemma skipBlanks_length (cs : List Char) : (skipBlanks cs).length ≤ cs.length :=
  List.length_dropWhile_le ..

lemma newline?_length {cs rest : List Char} (h : newline? cs = some rest) :
    rest.length < cs.length := by
  unfold newline? at h
  split at h
  · obtain rfl := Option.some.inj h
    simp
  · obtain rfl := Option.some.inj h
    simp
  · simp at h

lemma skipComment_length (cs : List Char) : (skipComment cs).length ≤ cs.length := by
  unfold skipComment
  split
  · exact (List.length_dropWhile_le ..).trans (by simp)
  · exact le_rfl

lemma endLine_length {cs rest : List Char} (h : endLine cs = some rest) :
    rest.length ≤ cs.length := by
  have hb := skipBlanks_length cs
  have hc := skipComment_length (skipBlanks cs)
  unfold endLine at h
  split at h
  · obtain rfl := Option.some.inj h
    simp
  · have := newline?_length h
    omega

lemma skipLines_length (ahead cs : List Char) : (skipLines ahead cs).length ≤ cs.length := by
  induction ahead generalizing cs with
  | nil => exact le_rfl
  | cons a ahead ih =>
    have hb := skipBlanks_length cs
    have hc := skipComment_length (skipBlanks cs)
    rw [skipLines]
    cases hn : newline? (skipComment (skipBlanks cs)) with
    | none => exact hc.trans hb
    | some rest =>
      have hi := ih rest
      have := newline?_length hn
      exact hi.trans (by omega)

lemma skipSpace_length (cs : List Char) : (skipSpace cs).length ≤ cs.length :=
  skipLines_length cs cs

/-! ### Dates and times -/

lemma fixed_shortens (width : ℕ) : Shortens (fixed width) := by
  intro cs n rest h
  simp only [fixed, Option.ite_none_right_eq_some, Option.some.injEq, Prod.mk.injEq] at h
  obtain ⟨-, -, rfl⟩ := h
  simp

lemma expect_length {c : Char} {cs rest : List Char} (h : expect c cs = some rest) :
    rest.length ≤ cs.length := by
  cases cs with
  | nil => simp [expect] at h
  | cons d cs =>
    simp only [expect, Option.ite_none_right_eq_some, Option.some.injEq] at h
    obtain ⟨-, rfl⟩ := h
    simp

lemma date_shortens : Shortens date := by
  intro cs d rest h
  simp only [date, Option.bind_eq_bind, Option.bind_eq_some_iff, Prod.exists,
    Option.ite_none_right_eq_some] at h
  obtain ⟨year, c₁, h₁, c₂, h₂, month, c₃, h₃, c₄, h₄, day, c₅, h₅, -, h⟩ := h
  obtain ⟨-, rfl⟩ := Prod.mk.inj (Option.some.inj h)
  have := fixed_shortens 4 h₁
  have := expect_length h₂
  have := fixed_shortens 2 h₃
  have := expect_length h₄
  have := fixed_shortens 2 h₅
  omega

lemma secondFraction_shortens : Shortens secondFraction := by
  intro cs s rest h
  unfold secondFraction at h
  split at h
  · split at h
    · simp at h
    · obtain ⟨-, rfl⟩ := Prod.mk.inj (Option.some.inj h)
      simp
      omega
  · obtain ⟨-, rfl⟩ := Prod.mk.inj (Option.some.inj h)
    exact le_rfl

lemma time_shortens : Shortens time := by
  intro cs s rest h
  simp only [time, Option.bind_eq_bind, Option.bind_eq_some_iff, Prod.exists] at h
  obtain ⟨hour, c₁, h₁, c₂, h₂, minute, c₃, h₃, c₄, h₄, second, c₅, h₅, h⟩ := h
  split_ifs at h
  · simp at h
  · simp only [Option.bind_eq_some_iff, Prod.exists] at h
    obtain ⟨part, c₆, h₆, h⟩ := h
    obtain ⟨-, rfl⟩ := Prod.mk.inj (Option.some.inj h)
    have := fixed_shortens 2 h₁
    have := expect_length h₂
    have := fixed_shortens 2 h₃
    have := expect_length h₄
    have := fixed_shortens 2 h₅
    have := secondFraction_shortens h₆
    omega

lemma ahead_shortens : Shortens ahead := by
  intro cs a rest h
  simp only [ahead] at h
  split at h
  case h_1 | h_2 =>
    obtain ⟨-, rfl⟩ := Prod.mk.inj (Option.some.inj h)
    simp
  case h_3 | h_4 =>
    simp only [Option.bind_eq_bind, Option.bind_eq_some_iff, Prod.exists] at h
    obtain ⟨hour, c₁, h₁, c₂, h₂, minute, c₃, h₃, h⟩ := h
    by_cases hb : 24 ≤ hour ∨ 60 ≤ minute
    · rw [if_pos hb] at h
      simp at h
    · rw [if_neg hb] at h
      obtain ⟨-, rfl⟩ := Prod.mk.inj (Option.some.inj h)
      have := fixed_shortens 2 h₁
      have := expect_length h₂
      have := fixed_shortens 2 h₃
      rw [List.length_cons]
      omega
  case h_5 =>
    obtain ⟨-, rfl⟩ := Prod.mk.inj (Option.some.inj h)
    exact le_rfl

lemma timeAfterDate_shortens : Shortens timeAfterDate := by
  intro cs s rest h
  cases cs with
  | nil =>
    obtain ⟨-, rfl⟩ := Prod.mk.inj (Option.some.inj h)
    exact le_rfl
  | cons c cs =>
    rw [timeAfterDate] at h
    split_ifs at h with hc
    · cases ht : time cs with
      | none =>
        rw [ht] at h
        obtain ⟨-, rfl⟩ := Prod.mk.inj (Option.some.inj h)
        exact le_rfl
      | some r =>
        rw [ht] at h
        obtain ⟨a, ha⟩ := of_map h
        have := time_shortens ht
        have := ahead_shortens ha
        simp only [List.length_cons]
        omega
    · obtain ⟨-, rfl⟩ := Prod.mk.inj (Option.some.inj h)
      exact le_rfl

lemma moment_shortens : Shortens moment := by
  intro cs s rest h
  rw [moment] at h
  cases hd : date cs with
  | none =>
    rw [hd] at h
    exact time_shortens h
  | some r =>
    rw [hd] at h
    obtain ⟨t, ht⟩ := of_map h
    have := date_shortens hd
    have := timeAfterDate_shortens ht
    omega

/-! ### Numbers -/

lemma digitRun_shortens (isDigit : Char → Bool) : Shortens (digitRun isDigit) := by
  intro cs ds rest h
  induction cs using digitRun.induct isDigit generalizing ds rest with
  | case1 => simp [digitRun] at h
  | case2 c hc => simp_all [digitRun]
  | case3 c hc => simp_all [digitRun]
  | case4 c cs hc ih =>
    rw [digitRun, if_pos hc, if_pos rfl] at h
    obtain ⟨ds, hd⟩ := of_map h
    have := ih hd
    simp only [List.length_cons]
    omega
  | case5 c d cs hc hd ds' rest' hr ih =>
    simp only [digitRun, if_pos hc, if_neg hd, hr, Option.some.injEq, Prod.mk.injEq] at h
    obtain ⟨-, rfl⟩ := h
    have := ih hr
    rw [List.length_cons]
    omega
  | case6 c d cs hc hd hr ih =>
    simp only [digitRun, if_pos hc, if_neg hd, hr, Option.some.injEq, Prod.mk.injEq] at h
    obtain ⟨-, rfl⟩ := h
    simp
  | case7 c d cs hc => simp [digitRun, hc] at h

lemma sign_length (cs : List Char) : (sign cs).2.length ≤ cs.length := by
  unfold sign
  split <;> simp

lemma plainDigits_shortens : Shortens plainDigits := by
  intro cs ds rest h
  unfold plainDigits at h
  split at h
  · obtain ⟨-, rfl⟩ := Prod.mk.inj (Option.some.inj h)
    simp
  · exact digitRun_shortens _ h

lemma inBase_shortens (base : ℕ) (isDigit : Char → Bool) : Shortens (inBase base isDigit) := by
  intro cs s rest h
  simp only [inBase, Option.bind_eq_bind, Option.bind_eq_some_iff, Prod.exists] at h
  obtain ⟨ds, c₁, h₁, n, -, h⟩ := h
  obtain ⟨-, rfl⟩ := Prod.mk.inj (Option.some.inj h)
  exact digitRun_shortens _ h₁

lemma whole_shortens : Shortens whole := by
  intro cs s rest h
  unfold whole at h
  split at h
  · exact (inBase_shortens _ _ h).trans (by simp; omega)
  · exact (inBase_shortens _ _ h).trans (by simp; omega)
  · exact (inBase_shortens _ _ h).trans (by simp; omega)
  · simp only [Option.bind_eq_bind, Option.bind_eq_some_iff, Prod.exists] at h
    obtain ⟨ds, c₁, h₁, n, -, h⟩ := h
    obtain ⟨-, rfl⟩ := Prod.mk.inj (Option.some.inj h)
    exact (plainDigits_shortens h₁).trans (sign_length cs)

lemma exponent_shortens : Shortens exponent := by
  intro cs e rest h
  cases cs with
  | nil =>
    obtain ⟨-, rfl⟩ := Prod.mk.inj (Option.some.inj h)
    exact le_rfl
  | cons c cs =>
    rw [exponent] at h
    split_ifs at h
    · simp only [Option.bind_eq_bind, Option.bind_eq_some_iff, Prod.exists] at h
      obtain ⟨ds, c₁, h₁, h⟩ := h
      obtain ⟨-, rfl⟩ := Prod.mk.inj (Option.some.inj h)
      have := digitRun_shortens _ h₁
      have := sign_length cs
      simp only [List.length_cons]
      omega
    · obtain ⟨-, rfl⟩ := Prod.mk.inj (Option.some.inj h)
      exact le_rfl

lemma fraction_shortens : Shortens fraction := by
  intro cs fs rest h
  unfold fraction at h
  split at h
  · obtain ⟨ds, hd⟩ := of_map h
    exact (digitRun_shortens _ hd).trans (by simp)
  · obtain ⟨-, rfl⟩ := Prod.mk.inj (Option.some.inj h)
    exact le_rfl

lemma decimal_shortens : Shortens decimal := by
  intro cs s rest h
  simp only [decimal, Option.bind_eq_bind, Option.bind_eq_some_iff, Prod.exists] at h
  obtain ⟨ds, c₁, h₁, fs, c₂, h₂, e, c₃, h₃, h⟩ := h
  have := sign_length cs
  have := plainDigits_shortens h₁
  have := fraction_shortens h₂
  have := exponent_shortens h₃
  by_cases hn : fs.isNone = true ∧ e.isNone = true
  · rw [if_pos hn] at h
    simp at h
  · rw [if_neg hn, Option.ite_none_left_eq_some] at h
    obtain ⟨-, rfl⟩ := Prod.mk.inj (Option.some.inj h.2)
    omega

lemma special_shortens : Shortens special := by
  intro cs s rest h
  have hs := sign_length cs
  unfold special at h
  split at h
  · next hc =>
    obtain ⟨-, rfl⟩ := Prod.mk.inj (Option.some.inj h)
    simp only [hc, List.length_cons] at hs
    omega
  · next hc =>
    obtain ⟨-, rfl⟩ := Prod.mk.inj (Option.some.inj h)
    simp only [hc, List.length_cons] at hs
    omega
  · simp at h

lemma number_shortens : Shortens number := by
  intro cs s rest h
  unfold number at h
  split at h
  · next hd => exact decimal_shortens (hd.trans h)
  · split at h
    · next hs => exact special_shortens (hs.trans h)
    · exact whole_shortens h

/-! ### Texts -/

lemma hexChar_shortens (width : ℕ) : Shortens (hexChar width) := by
  intro cs c rest h
  simp only [hexChar, Option.ite_none_right_eq_some, Option.some.injEq, Prod.mk.injEq] at h
  obtain ⟨-, -, rfl⟩ := h
  simp

lemma escape_shortens : Shortens escape := by
  intro cs c rest h
  cases cs with
  | nil => simp [escape] at h
  | cons d cs =>
    rw [escape.eq_def] at h
    dsimp only at h
    split at h
    all_goals first
      | exact (hexChar_shortens _ h).trans (by simp)
      | (obtain ⟨-, rfl⟩ := Prod.mk.inj (Option.some.inj h); simp)
      | simp at h

lemma basicBody_shortens (ahead : List Char) : Shortens (basicBody ahead) := by
  induction ahead with
  | nil => exact fun _ _ _ h => by simp [basicBody] at h
  | cons a ahead ih =>
    intro cs t rest h
    unfold basicBody at h
    split at h
    · simp at h
    · obtain ⟨-, rfl⟩ := Prod.mk.inj (Option.some.inj h)
      simp
    · simp only [Option.bind_eq_bind, Option.bind_eq_some_iff, Prod.exists] at h
      obtain ⟨c, c₁, h₁, t', c₂, h₂, h⟩ := h
      obtain ⟨-, rfl⟩ := Prod.mk.inj (Option.some.inj h)
      have := escape_shortens h₁
      have := ih h₂
      simp only [List.length_cons]
      omega
    · rw [Option.ite_none_right_eq_some] at h
      obtain ⟨t', ht⟩ := of_map h.2
      exact (ih ht).trans (by simp)

lemma literalBody_shortens : Shortens literalBody := by
  intro cs t rest h
  have hd := List.length_dropWhile_le (fun c => c != '\'' && isPrintable c) cs
  simp only [literalBody] at h
  split at h
  · next hc =>
    obtain ⟨-, rfl⟩ := Prod.mk.inj (Option.some.inj h)
    rw [hc, List.length_cons] at hd
    omega
  · simp at h

lemma skipFolded_length (ahead cs : List Char) : (skipFolded ahead cs).length ≤ cs.length := by
  induction ahead generalizing cs with
  | nil => exact le_rfl
  | cons a ahead ih =>
    have hb := skipBlanks_length cs
    rw [skipFolded]
    cases hn : newline? (skipBlanks cs) with
    | none => exact hb
    | some rest =>
      have := newline?_length hn
      exact (ih rest).trans (by omega)

lemma closing_shortens (mark : Char) : Shortens (closing mark) := by
  intro cs t rest h
  simp only [closing, Option.ite_none_right_eq_some, Option.some.injEq, Prod.mk.injEq] at h
  obtain ⟨-, -, rfl⟩ := h
  simp

lemma longBody_shortens (mark : Char) (ahead : List Char) : Shortens (longBody mark ahead) := by
  induction ahead with
  | nil => exact fun _ _ _ h => by simp [longBody] at h
  | cons a ahead ih =>
    intro cs t rest h
    unfold longBody at h
    split at h
    · next hc => exact closing_shortens mark (hc.trans h)
    · split at h
      · next hn =>
        obtain ⟨t', ht⟩ := of_map h
        have := newline?_length hn
        exact (ih ht).trans (by omega)
      · cases cs with
        | nil => simp at h
        | cons c cs =>
          dsimp only at h
          split_ifs at h
          · split at h
            · next rest' hn =>
              have := newline?_length hn
              have := skipBlanks_length cs
              have := skipFolded_length rest' rest'
              have := ih h
              simp only [List.length_cons]
              omega
            · simp only [Option.bind_eq_bind, Option.bind_eq_some_iff, Prod.exists] at h
              obtain ⟨c, c₁, h₁, t', c₂, h₂, h⟩ := h
              obtain ⟨-, rfl⟩ := Prod.mk.inj (Option.some.inj h)
              have := escape_shortens h₁
              have := ih h₂
              simp only [List.length_cons]
              omega
          · obtain ⟨t', ht⟩ := of_map h
            exact (ih ht).trans (by simp)

lemma longText_shortens (mark : Char) : Shortens (longText mark) := by
  intro cs t rest h
  have ht := longBody_shortens mark cs h
  cases hn : newline? cs with
  | none => rwa [hn] at ht
  | some rest' =>
    rw [hn] at ht
    exact ht.trans (newline?_length hn).le

lemma shortText_shortens : Shortens shortText := by
  intro cs t rest h
  unfold shortText at h
  split at h
  · obtain ⟨t', ht⟩ := of_map h
    exact (basicBody_shortens _ ht).trans (by simp)
  · obtain ⟨t', ht⟩ := of_map h
    exact (literalBody_shortens ht).trans (by simp)
  · simp at h

lemma text_shortens : Shortens text := by
  intro cs t rest h
  unfold text at h
  split at h
  · obtain ⟨t', ht⟩ := of_map h
    exact (longText_shortens _ ht).trans (by simp; omega)
  · obtain ⟨t', ht⟩ := of_map h
    exact (longText_shortens _ ht).trans (by simp; omega)
  · exact shortText_shortens h

lemma name_shortens : Shortens name := by
  intro cs n rest h
  simp only [name] at h
  split at h
  · exact shortText_shortens h
  · obtain ⟨-, rfl⟩ := Prod.mk.inj (Option.some.inj h)
    simp

/-! ### Values and lines -/

lemma dottedName_shortens (fuel : ℕ) : Shortens (dottedName fuel) := by
  induction fuel with
  | zero => exact fun _ _ _ h => by simp [dottedName] at h
  | succ fuel ih =>
    intro cs ns rest h
    simp only [dottedName, Option.bind_eq_bind, Option.bind_eq_some_iff, Prod.exists] at h
    obtain ⟨n, c₁, h₁, h⟩ := h
    have := skipBlanks_length cs
    have := name_shortens h₁
    have hb := skipBlanks_length c₁
    split at h
    · next hc =>
      simp only [Option.bind_eq_some_iff, Prod.exists] at h
      obtain ⟨ns', c₂, h₂, h⟩ := h
      obtain ⟨-, rfl⟩ := Prod.mk.inj (Option.some.inj h)
      have := ih h₂
      rw [hc, List.length_cons] at hb
      omega
    · obtain ⟨-, rfl⟩ := Prod.mk.inj (Option.some.inj h)
      omega

lemma path_shortens : Shortens path := dottedName_shortens _

section

variable {scan : Scan Setting} (hs : Shortens scan)

include hs

lemma elements_shortens (ahead : List Char) : Shortens (elements scan ahead) := by
  induction ahead with
  | nil => exact fun _ _ _ h => by simp [elements] at h
  | cons a ahead ih =>
    intro cs ss rest h
    have hsp := skipSpace_length cs
    simp only [elements] at h
    split at h
    · next hc =>
      obtain ⟨-, rfl⟩ := Prod.mk.inj (Option.some.inj h)
      rw [hc, List.length_cons] at hsp
      omega
    · simp only [Option.bind_eq_bind, Option.bind_eq_some_iff, Prod.exists] at h
      obtain ⟨s, c₁, h₁, h⟩ := h
      have := hs h₁
      have hsp' := skipSpace_length c₁
      split at h
      · next hc =>
        simp only [Option.bind_eq_some_iff, Prod.exists] at h
        obtain ⟨ss', c₂, h₂, h⟩ := h
        obtain ⟨-, rfl⟩ := Prod.mk.inj (Option.some.inj h)
        have := ih h₂
        rw [hc, List.length_cons] at hsp'
        omega
      · next hc =>
        obtain ⟨-, rfl⟩ := Prod.mk.inj (Option.some.inj h)
        rw [hc, List.length_cons] at hsp'
        omega
      · simp at h

lemma binding_length {cs rest : List Char} {b : List String × Setting}
    (h : binding scan cs = some (b, rest)) : rest.length < cs.length := by
  simp only [binding, Option.bind_eq_bind, Option.bind_eq_some_iff, Prod.exists] at h
  obtain ⟨names, c₁, h₁, h⟩ := h
  have := path_shortens h₁
  split at h
  · next c₂ =>
    simp only [Option.bind_eq_some_iff, Prod.exists] at h
    obtain ⟨s, c₃, h₃, h⟩ := h
    obtain ⟨-, rfl⟩ := Prod.mk.inj (Option.some.inj h)
    have := hs h₃
    have := skipBlanks_length c₂
    simp only [List.length_cons] at *
    omega
  · simp at h

lemma bindings_shortens (ahead : List Char) : Shortens (bindings scan ahead) := by
  induction ahead with
  | nil => exact fun _ _ _ h => by simp [bindings] at h
  | cons a ahead ih =>
    intro cs bs rest h
    simp only [bindings, Option.bind_eq_bind, Option.bind_eq_some_iff, Prod.exists] at h
    obtain ⟨names, s, c₁, h₁, h⟩ := h
    have := binding_length hs h₁
    have hb := skipBlanks_length c₁
    split at h
    · next hc =>
      simp only [Option.bind_eq_some_iff, Prod.exists] at h
      obtain ⟨bs', c₂, h₂, h⟩ := h
      obtain ⟨-, rfl⟩ := Prod.mk.inj (Option.some.inj h)
      have := ih h₂
      rw [hc, List.length_cons] at hb
      omega
    · next hc =>
      obtain ⟨-, rfl⟩ := Prod.mk.inj (Option.some.inj h)
      rw [hc, List.length_cons] at hb
      omega
    · simp at h

lemma inlineTable_shortens : Shortens (inlineTable scan) := by
  intro cs s rest h
  have hb := skipBlanks_length cs
  simp only [inlineTable] at h
  split at h
  · next hc =>
    obtain ⟨-, rfl⟩ := Prod.mk.inj (Option.some.inj h)
    rw [hc, List.length_cons] at hb
    omega
  · simp only [Option.bind_eq_bind, Option.bind_eq_some_iff, Prod.exists] at h
    obtain ⟨bs, c₁, h₁, node, -, h⟩ := h
    obtain ⟨-, rfl⟩ := Prod.mk.inj (Option.some.inj h)
    exact (bindings_shortens hs _ h₁).trans hb

end

lemma keyword_shortens : Shortens keyword := by
  intro cs s rest h
  unfold keyword at h
  split at h
  · obtain ⟨-, rfl⟩ := Prod.mk.inj (Option.some.inj h)
    simp
    omega
  · obtain ⟨-, rfl⟩ := Prod.mk.inj (Option.some.inj h)
    simp
    omega
  · simp at h

lemma scalar_shortens : Shortens scalar := by
  intro cs s rest h
  unfold scalar at h
  split at h
  · obtain ⟨t, ht⟩ := of_map h
    exact text_shortens ht
  · obtain ⟨t, ht⟩ := of_map h
    exact text_shortens ht
  · split at h
    · next hm =>
      obtain ⟨-, rfl⟩ := Prod.mk.inj (Option.some.inj h)
      exact moment_shortens hm
    · rcases Option.or_eq_some_iff.mp h with hk | ⟨-, hn⟩
      · exact keyword_shortens hk
      · exact number_shortens hn

lemma value_shortens (depth : ℕ) : Shortens (value depth) := by
  induction depth with
  | zero => exact fun _ _ _ h => by simp [value] at h
  | succ depth ih =>
    intro cs s rest h
    unfold value at h
    split at h
    · rw [Option.ite_none_left_eq_some] at h
      obtain ⟨ss, hss⟩ := of_map h.2
      exact (elements_shortens ih _ hss).trans (by simp)
    · rw [Option.ite_none_left_eq_some] at h
      exact (inlineTable_shortens ih h.2).trans (by simp)
    · exact scalar_shortens h

lemma line_length {s s' : State} {cs rest : List Char} (h : line s cs = some (s', rest)) :
    rest.length < cs.length := by
  unfold line at h
  split at h
  · simp only [Option.bind_eq_bind, Option.bind_eq_some_iff, Prod.exists] at h
    obtain ⟨names, c₁, h₁, h⟩ := h
    have := path_shortens h₁
    split at h
    · simp only [Option.bind_eq_some_iff] at h
      obtain ⟨s₁, -, h⟩ := h
      obtain ⟨-, rfl⟩ := Prod.mk.inj (Option.some.inj h)
      simp only [List.length_cons] at *
      omega
    · simp at h
  · simp only [Option.bind_eq_bind, Option.bind_eq_some_iff, Prod.exists] at h
    obtain ⟨names, c₁, h₁, h⟩ := h
    have := path_shortens h₁
    split at h
    · simp only [Option.bind_eq_some_iff] at h
      obtain ⟨s₁, -, h⟩ := h
      obtain ⟨-, rfl⟩ := Prod.mk.inj (Option.some.inj h)
      simp only [List.length_cons] at *
      omega
    · simp at h
  · simp only [Option.bind_eq_bind, Option.bind_eq_some_iff, Prod.exists] at h
    obtain ⟨names, v, c₁, h₁, s₁, -, h⟩ := h
    obtain ⟨-, rfl⟩ := Prod.mk.inj (Option.some.inj h)
    exact binding_length (value_shortens _) h₁

end Switchboard.Toml
