import Mathlib
import Switchboard.Service.Action

/-! The order in which actions ask, write and log, step by step: reads come before a write, only
lines in the log come after it, and each request is named in its failures. What is closed under
these steps holds of every action. -/

namespace Switchboard

def Store.Request.tells (r : Store.Request) (message : String) : String :=
  match r with
  | .get k id => k.name ++ " get " ++ id ++ ": " ++ message
  | .insert k id _ => k.name ++ " insert " ++ id ++ ": " ++ message
  | .delete k id => k.name ++ " delete " ++ id ++ ": " ++ message
  | .list k => k.name ++ " list: " ++ message
  | .ping => message

def Store.Request.writes : Store.Request → Bool
  | .insert .. | .delete .. => true
  | .get .. | .list .. | .ping => false

namespace Service

open Store Operation

variable {α β : Type}

/-- What an operation does at most: it asks for nothing, or it asks, and may write last. -/
inductive Phase where
  | quiet
  | asking (writing : Bool)

inductive Operation.Script : {α : Type} → Phase → Operation α → Prop
  | outcome {α : Type} (o : Outcome α) : Script .quiet (ofOutcome o)
  | allocate (start : String) : Script .quiet (allocate start)
  | clock : Script .quiet clock
  | note {level : Level} (h : level ≠ .warning) (text : String) : Script .quiet (note level text)
  | reject {α : Type} (call : Call) (f : Failure) : Script .quiet (do
      note .warning (call.title ++ " rejected: " ++ f.text)
      throw f : Operation α)
  | ping : Script (.asking false) (Operation.store .ping)
  | send (p : Participant) (d : Digits) : Script (.asking false) (ask (.send p d))
  | request {r : Store.Request} {context : String} {writing : Bool}
      (hc : ∀ message, context ++ ": " ++ message = r.tells message) (hw : r.writes → writing) :
      Script (.asking writing) ((Operation.store r).within context)
  | idle {α : Type} {op : Operation α} : Script .quiet op → Script (.asking false) op
  | reading {α : Type} {op : Operation α} : Script (.asking false) op → Script (.asking true) op
  | first {α β : Type} {op : Operation α} {next : α → Operation β} {writing : Bool} :
      Script (.asking false) op → (∀ a, Script (.asking writing) (next a)) →
      Script (.asking writing) (op >>= next)
  | last {α β : Type} {op : Operation α} {next : α → Operation β} {phase : Phase} :
      Script phase op → (∀ a, Script .quiet (next a)) → Script phase (op >>= next)

namespace Operation.Script

variable {op : Operation α} {next : α → Operation β} {phase : Phase} {writing : Bool}

lemma still (h : op.Script .quiet) (phase : Phase) : op.Script phase := by
  cases phase with
  | quiet => exact h
  | asking writing =>
    cases writing with
    | false => exact h.idle
    | true => exact h.idle.reading

lemma lead (h : op.Script .quiet) (hn : ∀ a, (next a).Script phase) :
    (op >>= next).Script phase := by
  cases phase with
  | quiet => exact h.last hn
  | asking writing => exact h.idle.first hn

lemma pure (a : α) : (pure a : Operation α).Script .quiet := outcome (.ok a)

lemma throw (f : Failure) : (throw f : Operation α).Script .quiet := outcome (.error f)

lemma info (text : String) : (Operation.note .info text).Script .quiet := note (by decide) text

lemma debug (text : String) : (Operation.note .debug text).Script .quiet := note (by decide) text

end Operation.Script

lemma script_request (e : Entity α) {writing : Bool} {verb id : String} {r : Store.Request}
    (hc : ∀ message, e.kind.name ++ (" " ++ verb ++ " ") ++ id ++ ": " ++ message = r.tells message)
    (hw : r.writes → writing) : (e.request verb id r).Script (.asking writing) :=
  .request (fun message => by simpa [String.append_assoc] using hc message) hw

lemma script_find (e : Entity α) (id : String) : (e.find id).Script (.asking false) := by
  have hg : (e.request "get" id (.get e.kind id)).Script (.asking false) :=
    script_request e (fun _ => rfl) nofun
  refine hg.last fun found => ?_
  cases found with
  | none => exact .pure none
  | some data => exact (Script.outcome _).last fun a => .pure (some a)

lemma script_load (e : Entity α) (id : String) : (e.load id).Script (.asking false) := by
  refine (script_find e id).last fun found => ?_
  cases found with
  | none => exact .throw _
  | some a => exact .pure a

lemma script_list (e : Entity α) : e.list.Script (.asking false) :=
  .last (.request (fun _ => by simp [Store.Request.tells, String.append_assoc]) nofun)
    fun _ => .outcome _

lemma script_insert (e : Entity α) (a : α) : (e.insert a).Script (.asking true) :=
  script_request e (fun _ => rfl) fun _ => rfl

lemma script_delete (e : Entity α) (a : α) : (e.delete a).Script (.asking true) := by
  have hd : (e.request "delete" (e.id a) (.delete e.kind (e.id a))).Script (.asking true) :=
    script_request e (fun _ => rfl) fun _ => rfl
  refine hd.last fun gone => ?_
  cases gone with
  | true => exact .pure ()
  | false => exact .throw _

lemma script_remove (e : Entity α) (id : String) (check : α → Outcome Unit) :
    (e.remove id check).Script (.asking true) :=
  (script_load e id).first fun a => (Script.outcome _).lead fun _ =>
    (script_delete e a).last fun _ => .pure a

lemma script_missingTrunks (ids : List String) : (missingTrunks ids).Script (.asking false) := by
  induction ids with
  | nil => exact (Script.pure []).idle
  | cons id ids ih => exact (script_find _ id).first fun _ => ih.last fun _ => .pure _

lemma script_listing (e : Entity α) (text : List α → String) :
    (do let as ← e.list; note .debug (text as); return as : Operation (List α)).Script
      (.asking false) :=
  (script_list e).last fun _ => (Script.debug _).last fun _ => .pure _

lemma script_creation (e : Entity α) (a : α) (text : String) :
    (do e.insert a; note .info text; return a : Operation α).Script (.asking true) :=
  (script_insert e a).last fun _ => (Script.info _).last fun _ => .pure a

lemma script_removal (e : Entity α) (id : String) (check : α → Outcome Unit) (text : α → String) :
    (do let a ← e.remove id check; note .info (text a); return a : Operation α).Script
      (.asking true) :=
  (script_remove e id check).last fun _ => (Script.info _).last fun _ => .pure _

lemma script_createTrunk (r : TrunkRequest) : (createTrunk r).Script (.asking true) :=
  (Script.outcome _).lead fun _ => (Script.allocate _).lead fun _ => script_creation _ _ _

lemma script_createRule (r : RuleRequest) : (createRule r).Script (.asking true) := by
  refine (Script.outcome _).lead fun _ => (Script.allocate _).lead fun id => ?_
  refine (script_missingTrunks _).first fun missing => ?_
  cases hm : missing.isEmpty with
  | true => exact script_creation ruleEntity (Rule.ofRequest id r) _
  | false => exact (Script.throw _).still _

lemma script_createParticipant (r : ParticipantRequest) :
    (createParticipant r).Script (.asking true) := by
  refine (Script.outcome _).lead fun _ => (script_find _ _).first fun found => ?_
  cases found with
  | none => exact (Script.throw _).still _
  | some t =>
    exact (Script.allocate _).lead fun _ => (Script.allocate _).lead fun _ =>
      Script.clock.lead fun _ => script_creation _ _ _

lemma script_sendDigits (q : Equipment) (id text : String) :
    (sendDigits q id text).Script (.asking false) := by
  refine (Script.outcome _).lead fun digits => (script_load _ id).first fun p => ?_
  cases hq : q.controlled with
  | false => exact (Script.throw _).idle
  | true => exact (Script.send p digits).last fun _ => (Script.info _).last fun _ => .pure _

lemma script_matchCall (call : Call) : (matchCall call).Script (.asking false) := by
  refine (script_list _).first fun trunks => (script_list _).last fun rules => ?_
  cases route trunks rules call with
  | ok d => exact (Script.debug _).last fun _ => .pure d
  | error f => exact .reject call f

lemma script_connect (q : Equipment) : (connect q).Script .quiet := by
  unfold connect
  split_ifs
  · exact .pure ()
  · exact .throw _

theorem script_operation (q : Equipment) (a : Action) :
    (a.operation q).Script (.asking true) := by
  refine (script_connect q).lead fun _ => ?_
  cases a with
  | ping => exact Script.ping.reading
  | createTrunk r => exact script_createTrunk r
  | listTrunks => exact (script_listing _ _).reading
  | deleteTrunk id => exact (script_list _).first fun _ => script_removal _ _ _ _
  | createRule r => exact script_createRule r
  | listRules => exact (script_listing _ _).reading
  | deleteRule id => exact script_removal _ _ _ _
  | createParticipant r => exact script_createParticipant r
  | listParticipants => exact (script_listing _ _).reading
  | deleteParticipant id => exact script_removal _ _ _ _
  | sendDigits id text => exact (script_sendDigits q id text).reading
  | matchCall call => exact (script_matchCall call).reading

end Service

end Switchboard
