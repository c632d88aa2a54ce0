import Mathlib
import Switchboard.Metrics.Tally

/-! A counter counts: each addition raises the count of its key by one, and no other. -/

namespace Switchboard.Metrics.Counter

variable {κ : Type} [DecidableEq κ]

lemma lookup_cons (k key : κ) (n : ℕ) (counts : List (κ × ℕ)) :
    ((key, n) :: counts).lookup k = if key = k then some n else counts.lookup k := by
  by_cases h : key = k
  · simp [h]
  · have hk : (k == key) = false := beq_false_of_ne (Ne.symm h)
    rw [List.lookup_cons, hk, if_neg h]

lemma lookup_bump (key k : κ) (counts : List (κ × ℕ)) :
    ((bump key counts).lookup k).getD 0 =
      (counts.lookup k).getD 0 + if key = k then 1 else 0 := by
  induction counts with
  | nil =>
    rw [bump, lookup_cons]
    split_ifs <;> rfl
  | cons c counts ih =>
    obtain ⟨k', n⟩ := c
    by_cases hk : k' = key
    · subst hk
      simp only [bump, if_true, lookup_cons]
      split_ifs <;> rfl
    · simp only [bump, if_neg hk, lookup_cons]
      by_cases h : k' = k
      · have hne : key ≠ k := fun hc => hk (h.trans hc.symm)
        simp [h, hne]
      · simpa only [if_neg h] using ih

lemma get_add (c : Counter κ) (key k : κ) :
    (c.add key).get k = c.get k + if key = k then 1 else 0 := lookup_bump key k c.counts

end Switchboard.Metrics.Counter
