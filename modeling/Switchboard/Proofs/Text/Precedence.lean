import Mathlib
import Switchboard.Text.Octets

/-! The order of texts by their octets is strict and total. -/

namespace Switchboard.Text

lemma precedes_iff (a b : String) : precedes a b = true ↔ octets a < octets b := by
  simp [precedes]

lemma precedes_irrefl (a : String) : precedes a a = false := by
  simp [precedes, List.lt_irrefl (octets a)]

lemma precedes_trans {a b c : String} (hab : precedes a b = true) (hbc : precedes b c = true) :
    precedes a c = true := by
  rw [precedes_iff] at *
  exact List.lt_trans hab hbc

lemma precedes_asymm {a b : String} (h : precedes a b = true) : precedes b a = false := by
  rw [precedes_iff] at h
  simpa [precedes] using List.lt_asymm h

lemma precedes_ne {a b : String} (h : precedes a b = true) : a ≠ b := by
  rintro rfl
  simp [precedes_irrefl] at h

lemma precedes_of_not {a b : String} (hne : a ≠ b) (h : precedes a b = false) :
    precedes b a = true := by
  have hl : ¬ octets a < octets b := by simpa [precedes] using h
  rcases List.le_iff_lt_or_eq.mp (List.not_lt.mp hl) with hlt | he
  · exact (precedes_iff b a).mpr hlt
  · exact absurd (octets_injective he.symm) hne

lemma precedes_cotrans {a c : String} (h : precedes a c = true) (b : String) :
    precedes a b = true ∨ precedes b c = true := by
  by_cases hne : a = b
  · subst hne
    exact .inr h
  · cases hab : precedes a b with
    | true => exact .inl rfl
    | false => exact .inr (precedes_trans (precedes_of_not hne hab) h)

lemma compare_octets_eq_lt (o p : Octets) : compare o p = .lt ↔ o < p := by
  induction o generalizing p with
  | nil => cases p <;> simp [List.nil_lt_cons]
  | cons a o ih =>
    cases p with
    | nil => simp
    | cons b p =>
      rw [List.compare_cons_cons, Ordering.then_eq_lt, List.cons_lt_cons_iff, ih,
        Std.compare_eq_lt, Std.compare_eq_iff_eq]

lemma compareOn_octets_eq_lt (a b : String) :
    compareOn octets a b = .lt ↔ precedes a b = true :=
  (compare_octets_eq_lt _ _).trans (precedes_iff a b).symm

instance : Std.LawfulEqCmp (compareOn octets) where
  eq_of_compare h := octets_injective (Std.LawfulEqCmp.eq_of_compare h)

end Switchboard.Text
