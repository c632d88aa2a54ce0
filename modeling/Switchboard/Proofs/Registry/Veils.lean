import Mathlib
import Switchboard.Registry.Routing

/-! Trunks without their passwords route calls as they do with them. -/

namespace Switchboard

def Trunk.veiled (t : Trunk) : Trunk := { t with password := "" }

def TrunkRequest.veiled (r : TrunkRequest) : TrunkRequest := { r with password := "" }

lemma eq_of_veiled {α β : Type} {veil : α → α} {a a' : α} (h : veil a = veil a') (f : α → β)
    (hf : ∀ a, f (veil a) = f a) : f a = f a' :=
  (hf a).symm.trans ((congrArg f h).trans (hf a'))

lemma candidates_veiled (trunks : List Trunk) (address : String) :
    candidates (trunks.map Trunk.veiled) address =
      (candidates trunks address).map Trunk.veiled := by
  have hl : (trunks.map Trunk.veiled).filter (·.lists address) =
      (trunks.filter (·.lists address)).map Trunk.veiled := List.filter_map ..
  have hw : (trunks.map Trunk.veiled).filter (·.isWildcard) =
      (trunks.filter (·.isWildcard)).map Trunk.veiled := List.filter_map ..
  simp only [candidates, hl, hw, List.isEmpty_map]
  split_ifs <;> rfl

lemma accepting_veiled (number : String) (trunks : List Trunk) :
    accepting number (trunks.map Trunk.veiled) =
      (accepting number trunks).map (List.map Trunk.veiled) := by
  induction trunks with
  | nil => rfl
  | cons t ts ih =>
    have ht : t.veiled.accepts number = t.accepts number := rfl
    rw [List.map_cons, accepting, accepting, ht, ih]
    rcases t.accepts number with f | b
    · rfl
    · rcases accepting number ts with f | rest
      · rfl
      · cases b <;> rfl

lemma least?_veiled (trunks : List Trunk) :
    least? (fun a b => Text.precedes a.id b.id) (trunks.map Trunk.veiled) =
      (least? (fun a b => Text.precedes a.id b.id) trunks).map Trunk.veiled := by
  induction trunks with
  | nil => rfl
  | cons t ts ih =>
    rw [List.map_cons, least?, least?, ih]
    cases least? (fun a b => Text.precedes a.id b.id) ts with
    | none => rfl
    | some b =>
      have hb : Text.precedes b.veiled.id t.veiled.id = Text.precedes b.id t.id := rfl
      simp only [Option.map_some, hb]
      split_ifs <;> rfl

lemma selectTrunk_veiled (trunks : List Trunk) (address number : String) :
    selectTrunk (trunks.map Trunk.veiled) address number =
      (selectTrunk trunks address number).map Trunk.veiled := by
  have hids (cs : List Trunk) : ids (cs.map Trunk.veiled) = ids cs := by
    simp [ids, Trunk.veiled, Function.comp_def]
  rw [selectTrunk, selectTrunk, candidates_veiled]
  simp only [accepting_veiled, hids, List.isEmpty_map]
  split_ifs
  · rfl
  · rcases accepting number (candidates trunks address) with f | cs
    · rfl
    · have hl := least?_veiled cs
      cases h : least? (fun a b => Text.precedes a.id b.id) cs with
      | none =>
        rw [h] at hl
        simp only [Except.map, bind, Except.bind, hl, h]
        rfl
      | some t =>
        rw [h] at hl
        simp only [Except.map, bind, Except.bind, hl, h]
        rfl

theorem route_veiled (trunks : List Trunk) (rules : List Rule) (call : Call) :
    route (trunks.map Trunk.veiled) rules call = route trunks rules call := by
  rw [route, route, selectTrunk_veiled]
  cases selectTrunk trunks call.address call.number <;> rfl

end Switchboard
