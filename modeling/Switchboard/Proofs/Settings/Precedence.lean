import Switchboard.Proofs.Settings.Documents

/-! Each setting is loaded by itself: from the environment if it is set there, or else from the
file, or else as it is when not set. -/

namespace Switchboard.Settings

lemma load_absent {files : List File} (h : ∀ f ∈ files, f.name ≠ standardFile ∧
    ∀ e ∈ endings, f.name ≠ standardFile ++ "." ++ e.1) (environment : List (String × String)) :
    load none files environment = load none [⟨standardFile, ""⟩] environment := by
  have he : ending? standardFile = some "toml" := by cbv
  have hn : TomlText none [⟨standardFile, ""⟩] "" :=
    TomlText.named (f := ⟨standardFile, ""⟩) (by rfl) he
  rw [load_toml (.absent rfl h), load_toml hn]

def Loads (file env : Draft) (c : Config) : Prop :=
  file.InRange ∧ env.InRange ∧ ∃ path files text environment, TomlText path files text ∧
    file.InDocument text ∧ env.InEnvironment environment ∧ load path files environment = .ok c

lemma Loads.get {file env : Draft} {c : Config} (h : Loads file env c) (k : Key) :
    k.get c = ((env k).or (file k)).getD k.standard := by
  obtain ⟨hf, he, path, files, text, environment, ht, hd, hv, hc⟩ := h
  obtain ⟨c', hc', hk⟩ := load_of_drafts hf he ht hd hv
  obtain rfl := Except.ok.inj (hc.symm.trans hc')
  exact hk k

theorem Loads.other_kept {file env : Draft} {c c' : Config} {j k : Key} (hk : k ≠ j)
    {v w : Option j.Value} (h : Loads file env c)
    (h' : Loads (Function.update file j v) (Function.update env j w) c') : k.get c' = k.get c := by
  rw [h.get, h'.get, Function.update_of_ne hk, Function.update_of_ne hk]

/-- Every setting has the value of the environment if it is set there, or else the value of the file
if it is set there, or else its standard value; any settings may be set in either. -/
theorem load_each_setting (file env : Draft) (hf : file.InRange) (he : env.InRange) :
    (∀ path files text environment, TomlText path files text → file.InDocument text →
      env.InEnvironment environment → ∃ c, load path files environment = .ok c ∧
        ∀ k : Key, k.get c = ((env k).or (file k)).getD k.standard) ∧
    (∀ files environment, (∀ f ∈ files, f.name ≠ standardFile ∧
        ∀ e ∈ endings, f.name ≠ standardFile ++ "." ++ e.1) →
      load none files environment = load none [⟨standardFile, ""⟩] environment) ∧
    (file.Writable → file.InDocument file.document) ∧ env.InEnvironment env.environment :=
  ⟨fun _ _ _ _ ht hd hv => load_of_drafts hf he ht hd hv,
    fun _ environment hn => load_absent hn environment, Draft.inDocument, env.inEnvironment⟩

def fileAddress : Draft
  | .text .host => some "127.0.0.1"
  | .whole .port => some 9000
  | _ => none

def variablePort : Draft
  | .whole .port => some 9001
  | _ => none

theorem load_address_and_port :
    fileAddress.InRange ∧ variablePort.InRange ∧ ∃ c,
      load none [⟨standardFile, fileAddress.document⟩] variablePort.environment = .ok c ∧
        c.server = ⟨"127.0.0.1", 9001⟩ ∧ c.log = .standard := by
  have hf : fileAddress.InRange := by
    rintro (_ | (_ | _ | _ | _ | _) | _) v hv
    case whole.port => exact Option.some.inj hv ▸ (by decide : 9000 < 2 ^ 16)
    all_goals simp_all [fileAddress, Key.InRange]
  have he : variablePort.InRange := by
    rintro (_ | (_ | _ | _ | _ | _) | _) v hv
    case whole.port => exact Option.some.inj hv ▸ (by decide : 9001 < 2 ^ 16)
    all_goals simp_all [variablePort]
  have hw : fileAddress.Writable := by
    rintro (_ | (_ | _ | _ | _ | _) | _) v hv
    case whole.port => exact Option.some.inj hv ▸ (by decide : 9000 < 2 ^ 63)
    all_goals simp_all [fileAddress, Key.Writable]
  obtain ⟨hload, -, hdoc, henv⟩ := load_each_setting fileAddress variablePort hf he
  have ht : TomlText none [⟨standardFile, fileAddress.document⟩] fileAddress.document :=
    TomlText.named (f := ⟨standardFile, fileAddress.document⟩) (by rfl) (by cbv)
  obtain ⟨c, hc, hk⟩ := hload _ _ _ _ ht (hdoc hw) henv
  refine ⟨hf, he, c, hc, ?_, ?_⟩
  · have hhost : c.server.host = "127.0.0.1" := hk (.text .host)
    have hport : c.server.port = 9001 := hk (.whole .port)
    rw [← hhost, ← hport]
  · have hfilter : c.log.filter = "info" := hk (.text .filter)
    rw [LogConfig.standard, ← hfilter]

lemma Key.variableName_prefix (k : Key) :
    "SIP_REGISTRY__".toList <+: k.variableName.toList := by
  rw [Key.variableName, String.toList_append, String.toList_append, String.toList_append,
    List.append_assoc, List.append_assoc]
  exact List.prefix_append _ _

/-- The names of variables are taken in letters of any size: one that does not begin with the prefix
as it is written may set a setting. -/
theorem small_letters_set_a_setting : ¬ ∀ (env : Draft) (environment : List (String × String)),
    (environment.map Prod.fst).Nodup →
    (∀ k : Key, environment.lookup k.variableName = (env k).map k.spelled) →
    (∀ v ∈ environment, (∃ k : Key, v.1 = k.variableName) ∨
      ¬ "SIP_REGISTRY__".toList <+: v.1.toList) →
    ∃ c, load none [] environment = .ok c ∧ ∀ k : Key, k.get c = (env k).getD k.standard := by
  intro h
  have hp : ¬ "SIP_REGISTRY__".toList <+: "sip_registry__server__host".toList := by simp
  have hl : ∀ k : Key,
      [("sip_registry__server__host", "x")].lookup k.variableName = none := by
    refine fun k => lookup_of_not_mem fun hm => hp ?_
    have hk : k.variableName = "sip_registry__server__host" := List.mem_singleton.mp hm
    rw [← hk]
    exact k.variableName_prefix
  obtain ⟨c, hc, hk⟩ := h (fun _ => none) [("sip_registry__server__host", "x")] (by simp) hl
    (fun v hv => .inr (List.mem_singleton.mp hv ▸ hp))
  have hx : load none [] [("sip_registry__server__host", "x")] =
      .ok { Config.standard with server := ⟨"x", 8080⟩ } := by cbv
  obtain rfl := Except.ok.inj (hx.symm.trans hc)
  have hhost : "x" = "0.0.0.0" := hk (.text .host)
  simp at hhost

end Switchboard.Settings
