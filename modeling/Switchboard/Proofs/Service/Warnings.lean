import Switchboard.Proofs.Service.Scripts

/-! The warnings that actions log while they are under way: none but those of calls that are not
accepted, and these are not of the form of the line that a failed action is given. -/

namespace Switchboard.Service

variable {α β : Type}

def Action.Reports (a : Action) (n : Notice) : Prop :=
  ∃ text, n = ⟨.warning, a.name ++ " failed: " ++ text⟩

namespace Plan

/-- A warning is the last step before a failure, and not one of those that `reports` tells. -/
def Warns (reports : Notice → Prop) : Plan (Outcome α) → Prop
  | .done _ => True
  | .ask _ next => ∀ o, (next o).Warns reports
  | .allocate _ next => ∀ id, (next id).Warns reports
  | .clock next => ∀ now, (next now).Warns reports
  | .note n next =>
    (n.level = .warning → ¬ reports n ∧ ∃ f, next = .done (.error f)) ∧ next.Warns reports

end Plan

namespace Operation

def Warns (reports : Notice → Prop) (op : Operation α) : Prop := Plan.Warns reports op.run

variable {op : Operation α} {next : α → Operation β} {reports : Notice → Prop}

lemma Warns.bind (h : op.Warns reports) (hn : ∀ a, (next a).Warns reports) :
    (op >>= next).Warns reports := by
  change Plan.Warns reports (Plan.bind op.run (ExceptT.bindCont next))
  change Plan.Warns reports op.run at h
  generalize op.run = p at h
  induction p with
  | done o =>
    cases o with
    | ok a => exact hn a
    | error f => trivial
  | ask r next' ih => exact fun o => ih o (h o)
  | allocate start next' ih => exact fun id => ih id (h id)
  | clock next' ih => exact fun now => ih now (h now)
  | note n next' ih =>
    refine ⟨fun hw => ?_, ih h.2⟩
    -- what is behind a warning has failed, so that nothing is put behind it
    obtain ⟨hr, f, rfl⟩ := h.1 hw
    exact ⟨hr, f, rfl⟩

lemma not_reports (a : Action) (call : Call) (text : String) :
    ¬ a.Reports ⟨.warning, call.title ++ " rejected: " ++ text⟩ := by
  rintro ⟨text', ht⟩
  have hfirst := congrArg (fun n => n.text.toList.head?) ht
  cases a <;> simp [Call.title, Action.name, String.toList_append] at hfirst

lemma Script.warns {phase : Phase} (h : op.Script phase) (a : Action) : op.Warns a.Reports := by
  induction h with
  | outcome o => trivial
  | allocate start => exact fun _ => trivial
  | clock => exact fun _ => trivial
  | note h text => exact ⟨fun hw => absurd hw h, trivial⟩
  | reject call f => exact ⟨fun _ => ⟨not_reports a call f.text, f, rfl⟩, trivial⟩
  | ping => exact fun _ => trivial
  | send p d => exact fun _ => trivial
  | request hc hw => exact fun o => by cases o <;> trivial
  | idle _ ih => exact ih
  | reading _ ih => exact ih
  | first _ _ ih ihn => exact Warns.bind ih ihn
  | last _ _ ih ihn => exact Warns.bind ih ihn

end Operation

theorem warns_operation (q : Equipment) (a : Action) : (a.operation q).Warns a.Reports :=
  (script_operation q a).warns a

end Switchboard.Service
