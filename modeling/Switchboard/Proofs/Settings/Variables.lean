import Switchboard.Proofs.Settings.Laying
import Switchboard.Proofs.Settings.Numerals

/-! The variables of the environment that stand for settings, the texts that spell values there,
and the values that stand for them in files. -/

namespace Switchboard.Settings

namespace Key

def variableName (k : Key) : String :=
  "SIP_REGISTRY__" ++ k.sectionName.toUpper ++ "__" ++ k.name.toUpper

def dotted (k : Key) : String := k.sectionName ++ "." ++ k.name

def spelled : (k : Key) → k.Value → String
  | text _, s => s
  | whole _, n => toString n
  | backend, b => b.name

def written : (k : Key) → k.Value → Setting
  | text _, s => .text s
  | whole _, n => .whole n
  | backend, b => .text b.name

def InRange : (k : Key) → k.Value → Prop
  | whole w, n => n < 2 ^ w.bits
  | text _, _ | backend, _ => True

end Key

abbrev Draft := (k : Key) → Option k.Value

def Draft.InRange (d : Draft) : Prop := ∀ k, ∀ v ∈ d k, k.InRange v

lemma WholeKey.bits_le (w : WholeKey) : w.bits ≤ 64 := by cases w <;> decide

lemma Key.written_plain (k : Key) (v : k.Value) : (k.written v).Plain := by
  rcases k with t | w | _ <;> exact trivial

lemma backendNamed_name (b : BackendChoice) : backendNamed b.name = .ok b := by
  cases b <;> cbv

lemma Key.take_written {k : Key} {v : k.Value} (h : k.InRange v) :
    k.take (k.written v) = .ok v := by
  rcases k with t | w | _
  · rfl
  · exact takeWord_written h
  · exact backendNamed_name v

lemma Key.take_spelled {k : Key} {v : k.Value} (h : k.InRange v) :
    k.take (.text (k.spelled v)) = .ok v := by
  rcases k with t | w | _
  · rfl
  · exact takeWord_spelled w.bits_le h
  · exact backendNamed_name v

lemma Key.path_inj {j k : Key} : j.path = k.path ↔ j = k := by
  constructor
  · intro h
    have hn : j.name = k.name := (List.cons.inj (List.cons.inj h).2).1
    rcases j with (_ | _ | _) | (_ | _ | _ | _ | _) | _ <;>
      rcases k with (_ | _ | _) | (_ | _ | _ | _ | _) | _ <;>
      first | rfl | simp [Key.name] at hn
  · rintro rfl
    rfl

lemma smallLetters_append (a b : String) :
    smallLetters (a ++ b) = smallLetters a ++ smallLetters b := by
  apply String.toList_injective
  rw [String.toList_append, smallLetters, smallLetters, smallLetters, String.toList_map,
    String.toList_map, String.toList_map, String.toList_append, List.map_append]

lemma Key.variableName_toList (k : Key) : (smallLetters k.variableName).toList =
    environmentStart ++ (k.sectionName.toList ++ '_' :: '_' :: k.name.toList) := by
  have hp : smallLetters "SIP_REGISTRY__" = "sip_registry__" := by cbv
  have hu : smallLetters "__" = "__" := by cbv
  have hs : smallLetters k.sectionName.toUpper = k.sectionName := by
    rcases k with (_ | _ | _) | (_ | _ | _ | _ | _) | _ <;> cbv
  have hn : smallLetters k.name.toUpper = k.name := by
    rcases k with (_ | _ | _) | (_ | _ | _ | _ | _) | _ <;> cbv
  have hk : smallLetters k.variableName =
      "sip_registry__" ++ k.sectionName ++ "__" ++ k.name := by
    refine (smallLetters_append _ _).trans (congrArg₂ _ ?_ hn)
    refine (smallLetters_append _ _).trans (congrArg₂ _ ?_ hu)
    exact (smallLetters_append _ _).trans (congrArg₂ _ hp hs)
  rw [hk, String.toList_append, String.toList_append, String.toList_append, List.append_assoc,
    List.append_assoc]
  rfl

lemma Key.pointed_names (k : Key) :
    pointed (k.sectionName.toList ++ '_' :: '_' :: k.name.toList) = k.dotted.toList := by
  rcases k with (_ | _ | _) | (_ | _ | _ | _ | _) | _ <;> cbv

lemma Key.pathOf_dotted (k : Key) : pathOf k.dotted = [.name k.sectionName, .name k.name] := by
  rcases k with (_ | _ | _) | (_ | _ | _ | _ | _) | _ <;> cbv

lemma Key.smallLetters_section (k : Key) : smallLetters k.sectionName = k.sectionName := by
  rcases k with (_ | _ | _) | (_ | _ | _ | _ | _) | _ <;> cbv

lemma Key.smallLetters_name (k : Key) : smallLetters k.name = k.name := by
  rcases k with (_ | _ | _) | (_ | _ | _ | _ | _) | _ <;> cbv

lemma ofVariable_of_letters {k : Key} {name : String}
    (h : smallLetters name = smallLetters k.variableName) (value : String) :
    ofVariable name value = some (k.dotted, .text value) := by
  have hp : environmentStart.isPrefixOf
      (environmentStart ++ (k.sectionName.toList ++ '_' :: '_' :: k.name.toList)) = true := by
    rw [List.isPrefixOf_iff_prefix]
    exact List.prefix_append _ _
  rw [ofVariable, h, k.variableName_toList, if_pos hp, List.drop_left, k.pointed_names,
    String.ofList_toList]

lemma ofVariable_none {name : String} (h : ¬ environmentStart <+: (smallLetters name).toList)
    (value : String) : ofVariable name value = none := by
  rw [ofVariable, if_neg]
  rwa [List.isPrefixOf_iff_prefix]

lemma hits_names (j k : Key) (s : Setting) :
    hits k.path (nest (pathOf j.dotted) s) = if j = k then [s] else [] := by
  rw [j.pathOf_dotted, Key.path, hits_name, hits_name, j.smallLetters_section, j.smallLetters_name]
  by_cases hjk : j = k
  · simp [hjk, nest, hits]
  · rw [if_neg hjk]
    have hp : ¬ (j.sectionName = k.sectionName ∧ j.name = k.name) := by
      rintro ⟨hs, hn⟩
      exact hjk (Key.path_inj.mp (by rw [Key.path, Key.path, hs, hn]))
    split_ifs with hs hn
    · exact absurd ⟨hs, hn⟩ hp
    · rfl
    · rfl

section

variable {name value : String} {environment : List (String × String)}

lemma given_variable {k : Key} (h : smallLetters name = smallLetters k.variableName)
    (names : List String) : given names (ofEnvironment ((name, value) :: environment)) =
      hits names (nest (pathOf k.dotted) (.text value)) ++
        given names (ofEnvironment environment) := by
  rw [ofEnvironment, List.filterMap_cons, ofVariable_of_letters h]
  exact List.flatMap_cons

lemma given_other (h : ¬ environmentStart <+: (smallLetters name).toList) (names : List String) :
    given names (ofEnvironment ((name, value) :: environment)) =
      given names (ofEnvironment environment) := by
  rw [ofEnvironment, List.filterMap_cons, ofVariable_none h]
  rfl

end

lemma Key.dotted_inj {j k : Key} (h : j.dotted = k.dotted) : j = k := by
  have hp : pathOf j.dotted = pathOf k.dotted := congrArg pathOf h
  rw [j.pathOf_dotted, k.pathOf_dotted] at hp
  obtain ⟨hs, hn⟩ : j.sectionName = k.sectionName ∧ j.name = k.name := by simpa using hp
  exact Key.path_inj.mp (by rw [Key.path, Key.path, hs, hn])

lemma variableName_inj {j k : Key} (h : j.variableName = k.variableName) : j = k := by
  have hj : ofVariable k.variableName "" = some (j.dotted, .text "") :=
    ofVariable_of_letters (by rw [h]) ""
  have hk : ofVariable k.variableName "" = some (k.dotted, .text "") :=
    ofVariable_of_letters rfl ""
  rw [hk, Option.some_inj, Prod.mk.injEq] at hj
  exact Key.dotted_inj hj.1.symm

/-- The variables that begin as those of settings do spell the values of a draft; there may be
others. -/
structure Draft.InEnvironment (d : Draft) (environment : List (String × String)) : Prop where
  distinct : (environment.map Prod.fst).Nodup
  lookup (k : Key) : environment.lookup k.variableName = (d k).map k.spelled
  others : ∀ v ∈ environment, (∃ k : Key, v.1 = k.variableName) ∨
    ¬ environmentStart <+: (smallLetters v.1).toList

lemma given_lookup {environment : List (String × String)}
    (hd : (environment.map Prod.fst).Nodup)
    (ho : ∀ v ∈ environment, (∃ k : Key, v.1 = k.variableName) ∨
      ¬ environmentStart <+: (smallLetters v.1).toList) (k : Key) :
    given k.path (ofEnvironment environment) =
      ((environment.lookup k.variableName).map Setting.text).toList := by
  induction environment with
  | nil => rfl
  | cons v environment ih =>
    obtain ⟨name, value⟩ := v
    rw [List.map_cons, List.nodup_cons] at hd
    have ih := ih hd.2 fun v hv => ho v (List.mem_cons_of_mem _ hv)
    rw [lookup_entry]
    rcases ho (name, value) (by simp) with ⟨j, rfl⟩ | hn
    · rw [given_variable (k := j) rfl, hits_names, ih]
      by_cases hjk : j = k
      · subst hjk
        simp [lookup_of_not_mem hd.1]
      · have hne : k.variableName ≠ j.variableName := fun he => hjk (variableName_inj he.symm)
        rw [if_neg hjk, if_neg hne, List.nil_append]
    · have hne : k.variableName ≠ name := by
        rintro rfl
        apply hn
        rw [k.variableName_toList]
        exact List.prefix_append _ _
      rw [given_other hn, ih, if_neg hne]

lemma Draft.InEnvironment.given {d : Draft} {environment : List (String × String)}
    (h : d.InEnvironment environment) (k : Key) :
    given k.path (ofEnvironment environment) =
      ((d k).map fun v => Setting.text (k.spelled v)).toList := by
  rw [given_lookup h.distinct h.others, h.lookup, Option.map_map]
  rfl

end Switchboard.Settings
