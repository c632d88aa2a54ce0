import Switchboard.Proofs.Settings.Variables

/-! The two sources of a configuration, a file and the environment, each of which may set any of the
settings: the environment comes before the file, and the file before the standard value. -/

namespace Switchboard.Settings

/-- The text that is loaded where the file is of TOML: of the file that is named, or of the file of
that name with the ending, or no text where the standard file is not there. -/
inductive TomlText (path : Option String) (files : List File) : String → Prop
  | named {f : File} (hf : files.find? (fun f => f.name = path.getD standardFile) = some f)
      (he : ending? f.name = some "toml") : TomlText path files f.text
  | ended {f : File} (hn : files.find? (fun f => f.name = path.getD standardFile) = none)
      (hf : files.find? (fun f => f.name = path.getD standardFile ++ "." ++ "toml") = some f) :
      TomlText path files f.text
  | absent (hp : path = none) (hn : ∀ f ∈ files, f.name ≠ standardFile ∧
      ∀ e ∈ endings, f.name ≠ standardFile ++ "." ++ e.1) : TomlText path files ""

def tomlLayer (text : String) : Except ConfigFault (List (String × Setting)) :=
  match Toml.parse? text with
  | some layer => .ok layer
  | none => .error .unreadable

lemma parse?_empty : Toml.parse? "" = some [] := by cbv

section

variable {path : Option String} {files : List File} {text : String}

lemma formatOf_toml {name : String} (h : ending? name = some "toml") :
    formatOf name = some (some .toml) := by
  rw [formatOf, h]
  rfl

lemma readFile_toml (h : TomlText path files text) :
    readFile path.isSome (path.getD standardFile) files = tomlLayer text := by
  cases h with
  | @named f hf he =>
    have hn : f.name = path.getD standardFile := by simpa using List.find?_some hf
    rw [hn] at he
    simp only [readFile, hf, formatOf_toml he]
    rfl
  | ended hn hf =>
    simp only [readFile, hn, endings, List.findSome?_cons, hf]
    rfl
  | absent hp hn =>
    subst hp
    have hnone {name : String} (h : ∀ f ∈ files, f.name ≠ name) :
        files.find? (fun f => f.name = name) = none := by simpa using h
    have hs : files.find? (fun f => f.name = standardFile) = none :=
      hnone fun f hf => (hn f hf).1
    simp only [readFile, Option.getD_none, Option.isSome_none, hs, Bool.false_eq_true, if_false]
    rw [List.findSome?_eq_none_iff.mpr ?_, tomlLayer, parse?_empty]
    intro e he
    rw [Option.map_eq_none_iff]
    exact hnone fun f hf => (hn f hf).2 e he

lemma load_toml (h : TomlText path files text) (environment : List (String × String)) :
    load path files environment = (tomlLayer text >>= fun layer =>
      takeConfig (layOver (layOver (.table []) layer) (ofEnvironment environment))) := by
  rw [← readFile_toml h]
  cases path <;> rfl

end

lemma load_ok {path : Option String} {files : List File} {environment : List (String × String)}
    {c : Config} (h : load path files environment = .ok c) :
    ∃ layer, takeConfig (layOver (layOver (.table []) layer) (ofEnvironment environment)) =
      .ok c := by
  cases path with
  | none =>
    obtain ⟨layer, -, hc⟩ := Except.bind_eq_ok.mp h
    exact ⟨layer, hc⟩
  | some path =>
    obtain ⟨layer, -, hc⟩ := Except.bind_eq_ok.mp h
    exact ⟨layer, hc⟩

def Draft.InDocument (d : Draft) (text : String) : Prop :=
  ∃ layer, Toml.parse? text = some layer ∧
    ∀ k : Key, given k.path layer = ((d k).map k.written).toList

section

variable {file env : Draft} (hf : file.InRange) (he : env.InRange)

include hf he

lemma taken_of_drafts {layer layer' : List (String × Setting)} {k : Key}
    (hl : given k.path layer = ((file k).map k.written).toList)
    (hl' : given k.path layer' = ((env k).map fun v => Setting.text (k.spelled v)).toList) :
    k.taken (layOver (layOver (.table []) layer) layer') =
      .ok (((env k).or (file k)).getD k.standard) := by
  have hx : ∀ x, (file k).map k.written = some x ∨
      (env k).map (fun v => Setting.text (k.spelled v)) = some x → x.Plain := by
    rintro x (h | h)
    · obtain ⟨v, -, rfl⟩ := Option.map_eq_some_iff.mp h
      exact k.written_plain v
    · obtain ⟨v, -, rfl⟩ := Option.map_eq_some_iff.mp h
      exact trivial
  rw [taken_of_look (look_layers hl hl' hx)]
  cases hv : env k with
  | some v => exact Key.take_spelled (he k v hv)
  | none =>
    cases hv' : file k with
    | some v => exact Key.take_written (hf k v hv')
    | none => rfl

lemma load_of_drafts {path : Option String} {files : List File} {text : String}
    {environment : List (String × String)} (ht : TomlText path files text)
    (hd : file.InDocument text) (hv : env.InEnvironment environment) :
    ∃ c, load path files environment = .ok c ∧
      ∀ k : Key, k.get c = ((env k).or (file k)).getD k.standard := by
  obtain ⟨layer, hp, hl⟩ := hd
  refine ⟨Config.of fun k => ((env k).or (file k)).getD k.standard, ?_, fun k => k.get_of _⟩
  rw [load_toml ht, tomlLayer, hp]
  refine (takeConfig_ok _ _).mpr fun k => ?_
  rw [k.get_of]
  exact taken_of_drafts hf he (hl k) (hv.given k)

end

end Switchboard.Settings
