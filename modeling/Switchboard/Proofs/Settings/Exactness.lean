import Switchboard.Proofs.Settings.Sources
import Switchboard.Proofs.Toml.Bindings

/-! A setting that is a number is loaded as the number that is given for it, or nothing is
loaded. -/

namespace Switchboard.Settings

open Toml (Within Binds)

/-- The path that names spell; the first of them may spell several. -/
def spelledPath : List String → Path
  | [] => []
  | first :: more => pathOf first ++ more.map .name

def Spells (names : List String) (k : Key) : Prop :=
  ∃ ps : List String, spelledPath names = ps.map .name ∧ ps.map smallLetters = k.path

def Once (names : List String) (layer : List (String × Setting)) : Prop :=
  ∃ x, given names layer = [x] ∧ x ≠ .nothing

lemma within_hits {names : List String} {x s : Setting} (h : Within names x s) (hx : x.Plain) :
    x ∈ hits (names.map smallLetters) s ∨ .nothing ∈ hits (names.map smallLetters) s := by
  induction h with
  | here x => exact .inl (by simp [hits])
  | @table name names x s entries hl _ ih =>
    have hsub : ∀ y ∈ hits (names.map smallLetters) s,
        y ∈ hits ((name :: names).map smallLetters) (.table entries) := by
      intro y hy
      rw [List.map_cons, hits]
      exact List.mem_flatMap.mpr ⟨_, mem_of_lookup hl, by simpa using hy⟩
    exact (ih hx).imp (hsub _) (hsub _)
  | @item names x entries items hi h =>
    cases names with
    | nil =>
      cases h
      exact absurd hx id
    | cons n names => exact .inr (by simp [hits])

lemma hits_nest (ps names : List String) (s : Setting) :
    hits (ps.map smallLetters ++ names) (nest (ps.map .name) s) = hits names s := by
  induction ps with
  | nil => rfl
  | cons p ps ih => rw [List.map_cons, List.map_cons, List.cons_append, hits_name, if_pos rfl, ih]

lemma within_given {names : List String} {k : Key} {x : Setting}
    {layer : List (String × Setting)} (hk : Spells names k) (hx : x.Plain)
    (h : Within names x (.table layer)) :
    x ∈ given k.path layer ∨ .nothing ∈ given k.path layer := by
  obtain ⟨ps, hps, hsmall⟩ := hk
  cases h with
  | here => exact absurd hx id
  | @table first more _ s _ hl h =>
    obtain ⟨qs, rs, rfl, hq, hr⟩ := List.map_eq_append_iff.mp hps.symm
    have hmore : rs = more := by
      have hinj : Function.Injective Step.name := fun _ _ he => Step.name.inj he
      exact hinj.list_map hr
    subst hmore
    rw [List.map_append] at hsmall
    have hsub : ∀ y ∈ hits (rs.map smallLetters) s, y ∈ given k.path layer := by
      intro y hy
      refine List.mem_flatMap.mpr ⟨_, mem_of_lookup hl, ?_⟩
      rwa [← hsmall, ← hq, hits_nest]
    exact (within_hits h hx).imp (hsub _) (hsub _)

lemma Once.eq {names : List String} {layer : List (String × Setting)} {x : Setting}
    (h : Once names layer) (hm : x ∈ given names layer ∨ .nothing ∈ given names layer) :
    given names layer = [x] := by
  obtain ⟨y, hy, hne⟩ := h
  rw [hy, List.mem_singleton, List.mem_singleton] at hm
  rcases hm with rfl | hm
  · exact hy
  · exact absurd hm.symm hne

structure Document.Sets (text : String) (k : Key) (n : ℤ) : Prop where
  binds : ∃ names, Spells names k ∧ Binds text n names
  once : ∀ layer, Toml.parse? text = some layer → Once k.path layer

structure Environment.Sets (environment : List (String × String)) (k : Key) (n : ℤ) : Prop where
  spelled : ∃ name, (name, toString n) ∈ environment ∧
    smallLetters name = smallLetters k.variableName
  once : Once k.path (ofEnvironment environment)

lemma Gives.plain {n : ℤ} {x : Setting} (h : Gives n x) : x.Plain := by
  cases h <;> exact trivial

lemma Document.Sets.given {text : String} {k : Key} {n : ℤ} {layer : List (String × Setting)}
    (h : Document.Sets text k n) (hp : Toml.parse? text = some layer) :
    ∃ x, Gives n x ∧ given k.path layer = [x] := by
  obtain ⟨names, hk, hb⟩ := h.binds
  obtain ⟨x, hx, hw⟩ := hb.within hp
  exact ⟨x, hx, (h.once layer hp).eq (within_given hk hx.plain hw)⟩

lemma mem_given_environment {environment : List (String × String)} {name value : String} {k : Key}
    (hm : (name, value) ∈ environment) (hn : smallLetters name = smallLetters k.variableName) :
    .text value ∈ Settings.given k.path (ofEnvironment environment) := by
  refine List.mem_flatMap.mpr ⟨(k.dotted, .text value), ?_, ?_⟩
  · exact List.mem_filterMap.mpr ⟨_, hm, ofVariable_of_letters hn value⟩
  · rw [hits_names, if_pos rfl]
    simp

lemma Environment.Sets.given {environment : List (String × String)} {k : Key} {n : ℤ}
    (h : Environment.Sets environment k n) :
    given k.path (ofEnvironment environment) = [.text (toString n)] := by
  obtain ⟨name, hm, hn⟩ := h.spelled
  exact h.once.eq (.inl (mem_given_environment hm hn))

def Holds (c : Config) (w : WholeKey) (n : ℤ) : Prop :=
  ((Key.whole w).get c : ℤ) = n ∧ n < 2 ^ w.bits

lemma holds_of_look {s x : Setting} {w : WholeKey} {n : ℤ} {c : Config} (hx : Gives n x)
    (hl : look (Key.whole w).path s = some (some x)) (hc : takeConfig s = .ok c) :
    Holds c w n := by
  have hk : (Key.whole w).taken s = .ok ((Key.whole w).get c) := (takeConfig_ok s c).mp hc _
  rw [taken_of_look hl] at hk
  have hn : ((Key.whole w).get c : ℤ) = n := hx.taken hk
  have hlt : (Key.whole w).get c < 2 ^ w.bits := takeWord_lt hk
  refine ⟨hn, ?_⟩
  rw [← hn]
  exact_mod_cast hlt

/-- A number that is set by a document or by a variable is loaded as it is, or nothing is loaded; so
no number that a setting has no room for is loaded as another. -/
theorem number_loaded_exactly (w : WholeKey) (n : ℤ) :
    (∀ text c, Document.Sets text (.whole w) n → ofText text = .ok c → Holds c w n) ∧
    (∀ path files text environment c, TomlText path files text →
      Document.Sets text (.whole w) n → given (Key.whole w).path (ofEnvironment environment) = [] →
      load path files environment = .ok c → Holds c w n) ∧
    (∀ path files environment c, Environment.Sets environment (.whole w) n →
      load path files environment = .ok c → Holds c w n) := by
  refine ⟨?_, ?_, ?_⟩
  · intro text c hs hc
    rw [ofText] at hc
    split at hc
    · next layer hp =>
      obtain ⟨x, hx, hg⟩ := hs.given hp
      exact holds_of_look hx (look_layOver_hit hg hx.plain _) hc
    · simp at hc
  · intro path files text environment c ht hs he hc
    rw [load_toml ht] at hc
    obtain ⟨layer, hlayer, hc⟩ := Except.bind_eq_ok.mp hc
    rw [tomlLayer] at hlayer
    split at hlayer
    · next hp =>
      obtain rfl := Except.ok.inj hlayer
      obtain ⟨x, hx, hg⟩ := hs.given hp
      have hf := look_layOver_hit hg hx.plain (.table [])
      exact holds_of_look hx ((look_layOver_unhit he (by simp [hf])).trans hf) hc
    · simp at hlayer
  · intro path files environment c hs hc
    obtain ⟨layer, hc⟩ := load_ok hc
    exact holds_of_look .text (look_layOver_hit hs.given trivial _) hc

lemma sets_port : Document.Sets "[server]\nport = 9000\n" (.whole .port) 9000 where
  binds := by
    refine ⟨["server", "port"], ⟨["server", "port"], by cbv, by cbv⟩, ?_⟩
    have hh : Toml.line .initial (Toml.skipSpace (Toml.skipMark "[server]\nport = 9000\n".toList)) =
        some (⟨["server"], .table .heading [("server", .table .heading [])]⟩,
          "\nport = 9000\n".toList) := by cbv
    have he : Toml.endLine "\nport = 9000\n".toList = some "port = 9000\n".toList := by cbv
    have hp : Toml.path (Toml.skipSpace "port = 9000\n".toList) =
        some (["port"], '=' :: " 9000\n".toList) := by cbv
    have hv : Toml.skipBlanks " 9000\n".toList = (toString (9000 : ℤ)).toList ++ ['\n'] := by cbv
    have hn : Toml.Puts 9000 Toml.depthLimit [] (Toml.skipBlanks " 9000\n".toList) := by
      rw [hv]
      exact .numeral (by simp [Ends])
    exact Binds.line (.line .start hh he) hp hn
  once layer h := by
    have hl : Toml.parse? "[server]\nport = 9000\n" =
        some [("server", .table [("port", .whole 9000)])] := by cbv
    obtain rfl := Option.some.inj (hl.symm.trans h)
    exact ⟨.whole 9000, by cbv, by simp⟩

lemma sets_port_variable :
    Environment.Sets [("SIP_REGISTRY__SERVER__PORT", "9001")] (.whole .port) 9001 where
  spelled := by
    have hn : toString (9001 : ℤ) = "9001" := by cbv
    exact ⟨"SIP_REGISTRY__SERVER__PORT", by simp [hn], by cbv⟩
  once := by
    refine ⟨.text "9001", ?_, by simp⟩
    rw [given_variable (k := .whole .port) (by cbv), hits_names, if_pos rfl]
    rfl

theorem port_loaded_exactly :
    (∃ c, ofText "[server]\nport = 9000\n" = .ok c ∧ Holds c .port 9000) ∧
    (∃ c, load none [⟨standardFile, "[server]\nport = 9000\n"⟩] [] = .ok c ∧
      Holds c .port 9000) ∧
    (∃ c, load none [] [("SIP_REGISTRY__SERVER__PORT", "9001")] = .ok c ∧
      Holds c .port 9001) := by
  obtain ⟨hdoc, hfile, -⟩ := number_loaded_exactly .port 9000
  obtain ⟨-, -, hvar⟩ := number_loaded_exactly .port 9001
  refine ⟨?_, ?_, ?_⟩
  · have hc : ofText "[server]\nport = 9000\n" =
        .ok { Config.standard with server := ⟨"0.0.0.0", 9000⟩ } := by cbv
    exact ⟨_, hc, hdoc _ _ sets_port hc⟩
  · have hc : load none [⟨standardFile, "[server]\nport = 9000\n"⟩] [] =
        .ok { Config.standard with server := ⟨"0.0.0.0", 9000⟩ } := by cbv
    exact ⟨_, hc, hfile _ _ _ _ _ (.named (by rfl) (by cbv)) sets_port (by cbv) hc⟩
  · have hc : load none [] [("SIP_REGISTRY__SERVER__PORT", "9001")] =
        .ok { Config.standard with server := ⟨"0.0.0.0", 9001⟩ } := by cbv
    exact ⟨_, hc, hvar _ _ _ _ sets_port_variable hc⟩

example : ofText "[server]\nport = 70000\n" = .error .wrongType := by cbv

end Switchboard.Settings
