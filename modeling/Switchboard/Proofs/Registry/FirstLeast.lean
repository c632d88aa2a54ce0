import Switchboard.Proofs.Text.Precedence
import Switchboard.Registry.Routing

/-! What `least?` finds under an order in which elements may be level: of those that none goes
before, the first. -/

namespace Switchboard

open Text

variable {α : Type}

/-- An order that may leave elements level. -/
structure Ranking (before : α → α → Bool) : Prop where
  asymm : ∀ {a b}, before a b = true → before b a = false
  cotrans : ∀ {a c}, before a c = true → ∀ b, before a b = true ∨ before b c = true

lemma Ranking.irrefl {before : α → α → Bool} (h : Ranking before) (a : α) :
    before a a = false := by
  cases ha : before a a with
  | false => rfl
  | true => exact ha.symm.trans (h.asymm ha)

lemma ranking_id (id : α → String) : Ranking fun a b => precedes (id a) (id b) where
  asymm h := precedes_asymm h
  cotrans h b := precedes_cotrans h (id b)

lemma ranking_rule : Ranking Rule.precedes where
  asymm {a b} h := by
    unfold Rule.precedes at *
    cases ha : a.isWildcard <;> cases hb : b.isWildcard <;> simp_all [precedes_asymm]
  cotrans {a c} h b := by
    unfold Rule.precedes at *
    cases ha : a.isWildcard <;> cases hb : b.isWildcard <;> cases hc : c.isWildcard <;>
      simp_all [precedes_cotrans]

section

variable {before : α → α → Bool}

lemma least?_eq_none_iff (as : List α) : least? before as = none ↔ as = [] := by
  cases as with
  | nil => simp [least?]
  | cons a as =>
    simp only [least?]
    cases least? before as with
    | none => simp
    | some b => by_cases hb : before b a = true <;> simp [hb]

def Leads (before : α → α → Bool) (as : List α) (a : α) : Prop :=
  ∃ bs cs, as = bs ++ a :: cs ∧ (∀ b ∈ bs, before a b = true) ∧ ∀ c ∈ cs, before c a = false

lemma Leads.mem {as : List α} {a : α} (hl : Leads before as a) : a ∈ as := by
  obtain ⟨bs, cs, rfl, -⟩ := hl
  simp

lemma Leads.not_before (h : Ranking before) {as : List α} {a b : α} (hl : Leads before as a)
    (hb : b ∈ as) : before b a = false := by
  obtain ⟨bs, cs, rfl, hbs, hcs⟩ := hl
  rcases List.mem_append.mp hb with hb | hb
  · exact h.asymm (hbs b hb)
  · rcases List.mem_cons.mp hb with rfl | hb
    · exact h.irrefl b
    · exact hcs b hb

lemma Leads.cons_before {as : List α} {a x : α} (hl : Leads before as a)
    (hx : before a x = true) : Leads before (x :: as) a := by
  obtain ⟨bs, cs, rfl, hbs, hcs⟩ := hl
  refine ⟨x :: bs, cs, rfl, fun b hb => ?_, hcs⟩
  rcases List.mem_cons.mp hb with rfl | hb
  · exact hx
  · exact hbs b hb

lemma Leads.cons_not_before (h : Ranking before) {as : List α} {a x : α}
    (hl : Leads before as a) (hx : before a x = false) : Leads before (x :: as) x := by
  refine ⟨[], as, rfl, nofun, fun c hc => ?_⟩
  cases hcx : before c x with
  | false => rfl
  | true =>
    -- one of the two would let `c` go before `a`, or `a` before `x`
    rcases h.cotrans hcx a with hca | hax
    · exact hca.symm.trans (hl.not_before h hc)
    · exact hax.symm.trans hx

lemma Leads.of_least? (h : Ranking before) {as : List α} {a : α}
    (hl : least? before as = some a) : Leads before as a := by
  induction as generalizing a with
  | nil => cases hl
  | cons x as ih =>
    simp only [least?] at hl
    cases hb : least? before as with
    | none =>
      rw [hb, Option.some.injEq] at hl
      obtain rfl := (least?_eq_none_iff as).mp hb
      exact ⟨[], [], by simp [hl], nofun, nofun⟩
    | some b =>
      simp only [hb] at hl
      split_ifs at hl with hx
      · cases hl
        exact (ih hb).cons_before hx
      · cases hl
        exact (ih hb).cons_not_before h (by simpa using hx)

lemma Leads.least?_eq (h : Ranking before) {as : List α} {a : α} (ha : Leads before as a) :
    least? before as = some a := by
  obtain ⟨bs, cs, rfl, hbs, hcs⟩ := ha
  induction bs with
  | nil =>
    simp only [List.nil_append, least?]
    cases hb : least? before cs with
    | none => rfl
    | some b => simp [hcs b (Leads.of_least? h hb).mem]
  | cons x bs ih =>
    have hl := ih fun b hb => hbs b (by simp [hb])
    simp [least?, hl, hbs x (by simp)]

lemma least?_eq_some_iff (h : Ranking before) (as : List α) (a : α) :
    least? before as = some a ↔ Leads before as a :=
  ⟨Leads.of_least? h, Leads.least?_eq h⟩

end

def FirstLeast (id : α → String) (as : List α) (a : α) : Prop :=
  ∃ bs cs, as = bs ++ a :: cs ∧ (∀ b ∈ bs, octets (id a) < octets (id b)) ∧
    ∀ c ∈ cs, octets (id a) ≤ octets (id c)

lemma FirstLeast.mem {id : α → String} {as : List α} {a : α} (h : FirstLeast id as a) :
    a ∈ as := by
  obtain ⟨bs, cs, rfl, -⟩ := h
  simp

lemma least?_id (id : α → String) (as : List α) (a : α) :
    least? (fun a b => precedes (id a) (id b)) as = some a ↔ FirstLeast id as a := by
  rw [least?_eq_some_iff (ranking_id id)]
  simp only [FirstLeast, Leads, precedes, decide_eq_true_eq, decide_eq_false_iff_not, List.not_lt]

lemma FirstLeast.unique {id : α → String} {as : List α} {a b : α} (ha : FirstLeast id as a)
    (hb : FirstLeast id as b) : a = b := by
  rw [← least?_id] at ha hb
  exact Option.some.inj (ha.symm.trans hb)

lemma exists_firstLeast (id : α → String) {as : List α} (h : as ≠ []) :
    ∃ a, FirstLeast id as a := by
  have hn : least? (fun a b => precedes (id a) (id b)) as ≠ none :=
    fun hn => h ((least?_eq_none_iff as).mp hn)
  obtain ⟨a, ha⟩ := Option.ne_none_iff_exists'.mp hn
  exact ⟨a, (least?_id id as a).mp ha⟩

end Switchboard
