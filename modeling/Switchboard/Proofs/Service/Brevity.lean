import Switchboard.Proofs.Service.Scripts
import Switchboard.Proofs.Service.Worlds

/-! When an action breaks off: a request that the store fails is its last one, and it ends in that
failure, with the request named; and once it has written it asks for nothing more. -/

namespace Switchboard.Service

open Store Time

variable {α β : Type}

namespace Plan

def Silent : Plan α → Prop
  | .done _ => True
  | .ask .. => False
  | .allocate _ next => ∀ id, (next id).Silent
  | .clock next => ∀ now, (next now).Silent
  | .note _ next => next.Silent

/-- Where the store fails there is nothing left but to end in the failure, and nothing is asked
after a write; there is no write at all unless `writing`. -/
def Brief (writing : Bool) : Plan (Outcome α) → Prop
  | .done _ => True
  | .ask (.store r) next =>
    (∀ f, next (.error f) = .done (.error ⟨f.kind, r.tells f.message⟩)) ∧
      (r.writes → writing ∧ ∀ a, (next (.ok a)).Silent) ∧ ∀ a, (next (.ok a)).Brief writing
  | .ask (.send _ _) next => ∀ o, (next o).Brief writing
  | .allocate _ next => ∀ id, (next id).Brief writing
  | .clock next => ∀ now, (next now).Brief writing
  | .note _ next => next.Brief writing

lemma Silent.bind {p : Plan α} {k : α → Plan β} (h : p.Silent) (hk : ∀ a, (k a).Silent) :
    (p.bind k).Silent := by
  induction p with
  | done a => exact hk a
  | ask r next ih => exact absurd h id
  | allocate start next ih => exact fun id => ih id (h id)
  | clock next ih => exact fun now => ih now (h now)
  | note n next ih => exact ih h

lemma Silent.brief {p : Plan (Outcome α)} (h : p.Silent) (writing : Bool) : p.Brief writing := by
  induction p with
  | done o => trivial
  | ask r next ih => exact absurd h id
  | allocate start next ih => exact fun id => ih id (h id)
  | clock next ih => exact fun now => ih now (h now)
  | note n next ih => exact ih h

lemma Brief.reading {p : Plan (Outcome α)} (h : p.Brief false) : p.Brief true := by
  induction p with
  | done o => trivial
  | ask r next ih =>
    cases r with
    | store r => exact ⟨h.1, fun hw => absurd (h.2.1 hw).1 nofun, fun a => ih _ (h.2.2 a)⟩
    | send p d => exact fun o => ih o (h o)
  | allocate start next ih => exact fun id => ih id (h id)
  | clock next ih => exact fun now => ih now (h now)
  | note n next ih => exact ih h

end Plan

namespace Operation

def Silent (op : Operation α) : Prop := Plan.Silent op.run

def Brief (writing : Bool) (op : Operation α) : Prop := Plan.Brief writing op.run

variable {op : Operation α} {next : α → Operation β} {writing : Bool}

lemma Silent.bind (h : op.Silent) (hn : ∀ a, (next a).Silent) : (op >>= next).Silent := by
  refine Plan.Silent.bind h fun o => ?_
  cases o with
  | ok a => exact hn a
  | error f => trivial

lemma Brief.bind (h : op.Brief false) (hn : ∀ a, (next a).Brief writing) :
    (op >>= next).Brief writing := by
  change Plan.Brief writing (Plan.bind op.run (ExceptT.bindCont next))
  change Plan.Brief false op.run at h
  generalize op.run = p at h
  induction p with
  | done o =>
    cases o with
    | ok a => exact hn a
    | error f => trivial
  | ask r next' ih =>
    cases r with
    | store r =>
      refine ⟨fun f => ?_, fun hw => absurd (h.2.1 hw).1 nofun, fun a => ih _ (h.2.2 a)⟩
      exact congrArg (Plan.bind · (ExceptT.bindCont next)) (h.1 f)
    | send p d => exact fun o => ih o (h o)
  | allocate start next' ih => exact fun id => ih id (h id)
  | clock next' ih => exact fun now => ih now (h now)
  | note n next' ih => exact ih h

lemma Brief.silent (h : op.Brief writing) (hn : ∀ a, (next a).Silent) :
    (op >>= next).Brief writing := by
  change Plan.Brief writing (Plan.bind op.run (ExceptT.bindCont next))
  change Plan.Brief writing op.run at h
  have hs (o : Outcome α) : Plan.Silent (ExceptT.bindCont next o) := by
    cases o with
    | ok a => exact hn a
    | error f => trivial
  generalize op.run = p at h
  induction p with
  | done o => exact (hs o).brief writing
  | ask r next' ih =>
    cases r with
    | store r =>
      refine ⟨fun f => ?_, fun hw => ⟨(h.2.1 hw).1, fun a => ((h.2.1 hw).2 a).bind hs⟩,
        fun a => ih _ (h.2.2 a)⟩
      exact congrArg (Plan.bind · (ExceptT.bindCont next)) (h.1 f)
    | send p d => exact fun o => ih o (h o)
  | allocate start next' ih => exact fun id => ih id (h id)
  | clock next' ih => exact fun now => ih now (h now)
  | note n next' ih => exact ih h

def Keeps (op : Operation α) : Phase → Prop
  | .quiet => op.Silent
  | .asking writing => op.Brief writing

lemma Script.keeps {phase : Phase} (h : op.Script phase) : op.Keeps phase := by
  induction h with
  | outcome o => trivial
  | allocate start => exact fun _ => trivial
  | clock => exact fun _ => trivial
  | note h text => trivial
  | reject call f => trivial
  | ping => exact ⟨fun _ => rfl, nofun, fun _ => trivial⟩
  | send p d => exact fun o => by cases o <;> trivial
  | request hc hw =>
    refine ⟨fun f => ?_, fun h => ⟨hw h, fun _ => trivial⟩, fun _ => trivial⟩
    rw [← hc]
    rfl
  | idle _ ih => exact Plan.Silent.brief ih false
  | reading _ ih => exact Plan.Brief.reading ih
  | first _ _ ih ihn => exact Brief.bind ih ihn
  | @last _ _ _ _ phase _ _ ih ihn =>
    cases phase with
    | quiet => exact Silent.bind ih ihn
    | asking writing => exact Brief.silent ih ihn

end Operation

theorem brief_operation (q : Equipment) (a : Action) : (a.operation q).Brief true :=
  (script_operation q a).keeps

end Switchboard.Service
