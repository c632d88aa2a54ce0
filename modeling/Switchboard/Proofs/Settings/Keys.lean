import Mathlib
import Switchboard.Settings.Load

/-! The settings of the program, each by itself: where its value is looked for, how the value is
taken, and that the configuration as a whole is had by taking each. -/

namespace Switchboard.Settings

open Except (bind_eq_ok)

inductive TextKey where
  | host
  | url
  | filter
  deriving DecidableEq

inductive WholeKey where
  | port
  | requestTimeout
  | maxConnections
  | minConnections
  | connectTimeout
  deriving DecidableEq

inductive Key where
  | text (t : TextKey)
  | whole (w : WholeKey)
  | backend
  deriving DecidableEq

def WholeKey.bits : WholeKey → ℕ
  | port => 16
  | requestTimeout | connectTimeout => 64
  | maxConnections | minConnections => 32

namespace Key

abbrev Value : Key → Type
  | text _ => String
  | whole _ => ℕ
  | backend => BackendChoice

def sectionName : Key → String
  | text .host | whole .port => "server"
  | backend | whole .requestTimeout => "store"
  | text .url | whole .maxConnections | whole .minConnections | whole .connectTimeout => "database"
  | text .filter => "log"

def name : Key → String
  | text .host => "host"
  | text .url => "url"
  | text .filter => "filter"
  | whole .port => "port"
  | whole .requestTimeout => "request_timeout_ms"
  | whole .maxConnections => "max_connections"
  | whole .minConnections => "min_connections"
  | whole .connectTimeout => "connect_timeout_secs"
  | backend => "backend"

def path (k : Key) : List String := [k.sectionName, k.name]

def get : (k : Key) → Config → k.Value
  | text .host, c => c.server.host
  | text .url, c => c.database.url
  | text .filter, c => c.log.filter
  | whole .port, c => c.server.port
  | whole .requestTimeout, c => c.store.requestTimeoutMs
  | whole .maxConnections, c => c.database.maxConnections
  | whole .minConnections, c => c.database.minConnections
  | whole .connectTimeout, c => c.database.connectTimeoutSecs
  | backend, c => c.store.backend

def standard (k : Key) : k.Value := k.get .standard

def take : (k : Key) → Taking k.Value
  | text _ => takeText
  | whole w => takeWord w.bits
  | backend => takeBackend

def siblings : Key → List String
  | text .host | whole .port => ["host", "port"]
  | backend | whole .requestTimeout => ["backend", "request_timeout_ms"]
  | text .url | whole .maxConnections | whole .minConnections | whole .connectTimeout =>
    ["url", "max_connections", "min_connections", "connect_timeout_secs"]
  | text .filter => ["filter"]

def within (k : Key) (s : Setting) : Except ConfigFault k.Value := do
  let fields ← fieldsOf k.siblings s
  takeField k.name k.take k.standard fields

def inside (k : Key) (sections : List (String × Setting)) : Except ConfigFault k.Value :=
  takeField k.sectionName k.within k.standard sections

def taken (k : Key) (s : Setting) : Except ConfigFault k.Value := do
  let sections ← fieldsOf ["server", "store", "database", "log"] s
  k.inside sections

end Key

def Config.of (v : (k : Key) → k.Value) : Config where
  server := ⟨v (.text .host), v (.whole .port)⟩
  store := ⟨v .backend, v (.whole .requestTimeout)⟩
  database := ⟨v (.text .url), v (.whole .maxConnections), v (.whole .minConnections),
    v (.whole .connectTimeout)⟩
  log := ⟨v (.text .filter)⟩

@[simp] lemma Key.get_of (k : Key) (v : (k : Key) → k.Value) : k.get (Config.of v) = v k := by
  rcases k with t | w | _
  · cases t <;> rfl
  · cases w <;> rfl
  · rfl

lemma Key.within_of {k : Key} {s : Setting} {fields : List (String × Setting)}
    (h : fieldsOf k.siblings s = .ok fields) :
    k.within s = takeField k.name k.take k.standard fields := by
  rw [Key.within, h]
  rfl

lemma takeServer_ok (s : Setting) (c : ServerConfig) : takeServer s = .ok c ↔
    (Key.text .host).within s = .ok c.host ∧ (Key.whole .port).within s = .ok c.port := by
  cases h : fieldsOf ["host", "port"] s with
  | error e => simp [takeServer, Key.within, Key.siblings, h, bind, Except.bind]
  | ok fields =>
    rw [Key.within_of (k := .text .host) h, Key.within_of (k := .whole .port) h]
    simp only [takeServer, h, bind_eq_ok, pure, Except.pure, Except.ok.injEq]
    constructor
    · rintro ⟨_, rfl, _, hh, _, hp, rfl⟩
      exact ⟨hh, hp⟩
    · rintro ⟨hh, hp⟩
      exact ⟨_, rfl, _, hh, _, hp, rfl⟩

lemma takeStore_ok (s : Setting) (c : StoreConfig) : takeStore s = .ok c ↔
    Key.backend.within s = .ok c.backend ∧
      (Key.whole .requestTimeout).within s = .ok c.requestTimeoutMs := by
  cases h : fieldsOf ["backend", "request_timeout_ms"] s with
  | error e => simp [takeStore, Key.within, Key.siblings, h, bind, Except.bind]
  | ok fields =>
    rw [Key.within_of (k := .backend) h, Key.within_of (k := .whole .requestTimeout) h]
    simp only [takeStore, h, bind_eq_ok, pure, Except.pure, Except.ok.injEq]
    constructor
    · rintro ⟨_, rfl, _, hb, _, ht, rfl⟩
      exact ⟨hb, ht⟩
    · rintro ⟨hb, ht⟩
      exact ⟨_, rfl, _, hb, _, ht, rfl⟩

lemma takeDatabase_ok (s : Setting) (c : DatabaseConfig) : takeDatabase s = .ok c ↔
    (Key.text .url).within s = .ok c.url ∧
      (Key.whole .maxConnections).within s = .ok c.maxConnections ∧
      (Key.whole .minConnections).within s = .ok c.minConnections ∧
      (Key.whole .connectTimeout).within s = .ok c.connectTimeoutSecs := by
  cases h : fieldsOf ["url", "max_connections", "min_connections", "connect_timeout_secs"] s with
  | error e => simp [takeDatabase, Key.within, Key.siblings, h, bind, Except.bind]
  | ok fields =>
    rw [Key.within_of (k := .text .url) h, Key.within_of (k := .whole .maxConnections) h,
      Key.within_of (k := .whole .minConnections) h, Key.within_of (k := .whole .connectTimeout) h]
    simp only [takeDatabase, h, bind_eq_ok, pure, Except.pure, Except.ok.injEq]
    constructor
    · rintro ⟨_, rfl, _, hu, _, ha, _, hi, _, ht, rfl⟩
      exact ⟨hu, ha, hi, ht⟩
    · rintro ⟨hu, ha, hi, ht⟩
      exact ⟨_, rfl, _, hu, _, ha, _, hi, _, ht, rfl⟩

lemma takeLog_ok (s : Setting) (c : LogConfig) :
    takeLog s = .ok c ↔ (Key.text .filter).within s = .ok c.filter := by
  cases h : fieldsOf ["filter"] s with
  | error e => simp [takeLog, Key.within, Key.siblings, h, bind, Except.bind]
  | ok fields =>
    rw [Key.within_of (k := .text .filter) h]
    simp only [takeLog, h, bind_eq_ok, pure, Except.pure, Except.ok.injEq]
    constructor
    · rintro ⟨_, rfl, _, hf, rfl⟩
      exact hf
    · intro hf
      exact ⟨_, rfl, _, hf, rfl⟩

lemma Key.taken_of {k : Key} {s : Setting} {sections : List (String × Setting)}
    (h : fieldsOf ["server", "store", "database", "log"] s = .ok sections) :
    k.taken s = k.inside sections := by
  rw [Key.taken, h]
  rfl

section

variable (sections : List (String × Setting))

lemma server_ok (c : ServerConfig) : takeField "server" takeServer .standard sections = .ok c ↔
    (Key.text .host).inside sections = .ok c.host ∧
      (Key.whole .port).inside sections = .ok c.port := by
  cases hl : sections.lookup "server" with
  | none =>
    obtain ⟨host, port⟩ := c
    simp [Key.inside, takeField, hl, Key.sectionName, Key.standard, Key.get, Config.standard,
      ServerConfig.standard]
  | some t => simpa only [Key.inside, takeField, hl, Key.sectionName] using takeServer_ok t c

lemma store_ok (c : StoreConfig) : takeField "store" takeStore .standard sections = .ok c ↔
    Key.backend.inside sections = .ok c.backend ∧
      (Key.whole .requestTimeout).inside sections = .ok c.requestTimeoutMs := by
  cases hl : sections.lookup "store" with
  | none =>
    obtain ⟨backend, timeout⟩ := c
    simp [Key.inside, takeField, hl, Key.sectionName, Key.standard, Key.get, Config.standard,
      StoreConfig.standard]
  | some t => simpa only [Key.inside, takeField, hl, Key.sectionName] using takeStore_ok t c

lemma database_ok (c : DatabaseConfig) :
    takeField "database" takeDatabase .standard sections = .ok c ↔
      (Key.text .url).inside sections = .ok c.url ∧
        (Key.whole .maxConnections).inside sections = .ok c.maxConnections ∧
        (Key.whole .minConnections).inside sections = .ok c.minConnections ∧
        (Key.whole .connectTimeout).inside sections = .ok c.connectTimeoutSecs := by
  cases hl : sections.lookup "database" with
  | none =>
    obtain ⟨url, most, least, timeout⟩ := c
    simp [Key.inside, takeField, hl, Key.sectionName, Key.standard, Key.get, Config.standard,
      DatabaseConfig.standard]
  | some t => simpa only [Key.inside, takeField, hl, Key.sectionName] using takeDatabase_ok t c

lemma log_ok (c : LogConfig) : takeField "log" takeLog .standard sections = .ok c ↔
    (Key.text .filter).inside sections = .ok c.filter := by
  cases hl : sections.lookup "log" with
  | none =>
    obtain ⟨filter⟩ := c
    simp [Key.inside, takeField, hl, Key.sectionName, Key.standard, Key.get, Config.standard,
      LogConfig.standard]
  | some t => simpa only [Key.inside, takeField, hl, Key.sectionName] using takeLog_ok t c

end

theorem takeConfig_ok (s : Setting) (c : Config) :
    takeConfig s = .ok c ↔ ∀ k : Key, k.taken s = .ok (k.get c) := by
  cases h : fieldsOf ["server", "store", "database", "log"] s with
  | error e =>
    have hk : ¬ (Key.backend.taken s = .ok (Key.backend.get c)) := by
      simp [Key.taken, h, bind, Except.bind]
    simp only [takeConfig, h, bind, Except.bind, reduceCtorEq, false_iff]
    exact fun ha => hk (ha .backend)
  | ok sections =>
    have hi (k : Key) : k.taken s = k.inside sections := Key.taken_of h
    simp only [hi, takeConfig, h, bind_eq_ok, pure, Except.pure, Except.ok.injEq]
    constructor
    · rintro ⟨_, rfl, _, hs, _, ht, _, hd, _, hl, rfl⟩ k
      obtain ⟨hh, hp⟩ := (server_ok _ _).mp hs
      obtain ⟨hb, hr⟩ := (store_ok _ _).mp ht
      obtain ⟨hu, ha, hm, hc⟩ := (database_ok _ _).mp hd
      rcases k with t | w | _
      · cases t with
        | host => exact hh
        | url => exact hu
        | filter => exact (log_ok _ _).mp hl
      · cases w with
        | port => exact hp
        | requestTimeout => exact hr
        | maxConnections => exact ha
        | minConnections => exact hm
        | connectTimeout => exact hc
      · exact hb
    · intro hk
      refine ⟨_, rfl, c.server, ?_, c.store, ?_, c.database, ?_, c.log, ?_, rfl⟩
      · exact (server_ok _ _).mpr ⟨hk (.text .host), hk (.whole .port)⟩
      · exact (store_ok _ _).mpr ⟨hk .backend, hk (.whole .requestTimeout)⟩
      · exact (database_ok _ _).mpr ⟨hk (.text .url), hk (.whole .maxConnections),
          hk (.whole .minConnections), hk (.whole .connectTimeout)⟩
      · exact (log_ok _ _).mpr (hk (.text .filter))

end Switchboard.Settings
