import Switchboard.Decimal.Shortest
import Switchboard.Json.Record
import Switchboard.Settings.Setting
import Switchboard.Time.Span

/-!
The configuration of the program: what each setting is, what it is when not set, and how values of
other types are taken for it. Whole numbers may be written as text or decimals, switches count as
0 and 1, and text may be given as a number; what does not fit is refused, never cut.
-/

namespace Switchboard

open Json Time Settings

inductive BackendChoice where
  | memory
  | postgres
  deriving DecidableEq, Inhabited

structure ServerConfig where
  host : String
  port : Nat
  deriving DecidableEq, Inhabited

structure StoreConfig where
  backend : BackendChoice
  requestTimeoutMs : Nat
  deriving DecidableEq, Inhabited

structure DatabaseConfig where
  url : String
  maxConnections : Nat
  minConnections : Nat
  connectTimeoutSecs : Nat
  deriving DecidableEq, Inhabited

structure LogConfig where
  filter : String
  deriving DecidableEq, Inhabited

structure Config where
  server : ServerConfig
  store : StoreConfig
  database : DatabaseConfig
  log : LogConfig
  deriving DecidableEq, Inhabited

def ServerConfig.standard : ServerConfig := ⟨"0.0.0.0", 8080⟩

def StoreConfig.standard : StoreConfig := ⟨.memory, 10000⟩

def DatabaseConfig.standard : DatabaseConfig :=
  ⟨"postgres://postgres@localhost/sip_registry", 10, 2, 5⟩

def LogConfig.standard : LogConfig := ⟨"info"⟩

def Config.standard : Config := ⟨.standard, .standard, .standard, .standard⟩

def Config.bindAddress (c : Config) : String := c.server.host ++ ":" ++ toString c.server.port

def StoreConfig.requestTimeout (c : StoreConfig) : Span := .ofMillis c.requestTimeoutMs

namespace BackendChoice

def all : List BackendChoice := [memory, postgres]

def name : BackendChoice → String
  | memory => "memory"
  | postgres => "postgres"

def ofName (name : String) : Except ReadError BackendChoice :=
  match all.find? fun b => b.name = name with
  | some b => .ok b
  | none => .error .mismatch

def readMember (depth : Nat) (input : Text.Octets) :
    Except ReadError (BackendChoice × Text.Octets) := do
  let (name, input) ← readString depth input
  let choice ← ofName name
  let ((), input) ← readNull depth (← readColon input)
  return (choice, ← endObject input)

def codec : Codec BackendChoice where
  write b := writeString b.name
  read depth input :=
    match skipBlank input with
    | [] => .error .truncated
    | b :: rest =>
      if b = objectOpen then nested depth fun depth => readMember depth rest
      else if b = quote then do
        let (name, rest) ← stringBody rest
        return (← ofName name, rest)
      else .error .malformed

end BackendChoice

def ServerConfig.codec : Codec ServerConfig :=
  .record
    [.default "host" .string ServerConfig.standard.host,
      .default "port" (.word 16) ServerConfig.standard.port]
    (fun c => (c.host, c.port, ())) (fun (host, port, ()) => ⟨host, port⟩)

def StoreConfig.codec : Codec StoreConfig :=
  .record
    [.default "backend" BackendChoice.codec StoreConfig.standard.backend,
      .default "request_timeout_ms" (.word 64) StoreConfig.standard.requestTimeoutMs]
    (fun c => (c.backend, c.requestTimeoutMs, ()))
    (fun (backend, timeout, ()) => ⟨backend, timeout⟩)

def DatabaseConfig.codec : Codec DatabaseConfig :=
  .record
    [.default "url" .string DatabaseConfig.standard.url,
      .default "max_connections" (.word 32) DatabaseConfig.standard.maxConnections,
      .default "min_connections" (.word 32) DatabaseConfig.standard.minConnections,
      .default "connect_timeout_secs" (.word 64) DatabaseConfig.standard.connectTimeoutSecs]
    (fun c => (c.url, c.maxConnections, c.minConnections, c.connectTimeoutSecs, ()))
    (fun (url, most, least, timeout, ()) => ⟨url, most, least, timeout⟩)

def LogConfig.codec : Codec LogConfig :=
  .record [.default "filter" .string LogConfig.standard.filter]
    (fun c => (c.filter, ())) (fun (filter, ()) => ⟨filter⟩)

def Config.codec : Codec Config :=
  .record
    [.default "server" ServerConfig.codec .standard, .default "store" StoreConfig.codec .standard,
      .default "database" DatabaseConfig.codec .standard, .default "log" LogConfig.codec .standard]
    (fun c => (c.server, c.store, c.database, c.log, ()))
    (fun (server, store, database, log, ()) => ⟨server, store, database, log⟩)

namespace Settings

inductive ConfigFault where
  | unreadable
  | wrongType
  | wrongShape
  /-- A file that must be there is not, or its format is not known. -/
  | missing
  deriving DecidableEq, Inhabited

def ConfigFault.code : ConfigFault → String
  | unreadable => "file_parse"
  | wrongType => "type"
  | wrongShape => "message"
  | missing => "foreign"

abbrev Taking (α : Type) := Setting → Except ConfigFault α

def takeText : Taking String
  | .bool b => .ok (if b then "true" else "false")
  | .whole n => .ok (toString n)
  | .real x => .ok (Decimal.plain x)
  | .text s => .ok s
  | _ => .error .wrongType

def isOn (s : String) : Bool := s == "true" || s == "on" || s == "yes"

def isOff (s : String) : Bool := s == "false" || s == "off" || s == "no"

def numeral? (s : String) : Option Nat :=
  let ds := match s.toList with
    | '+' :: ds => ds
    | ds => ds
  if ds.isEmpty ∨ !ds.all Char.isDigit then none
  else some (ds.foldl (fun n d => n * 10 + (d.toNat - 48)) 0)

def wordOfText (s : String) : Option Nat :=
  if isOn s.toLower then some 1 else if isOff s.toLower then some 0 else numeral? s.toLower

/-- The nearest whole number that is not negative; a half counts as up. -/
def nearestWord (x : Float) : Nat := if x.round > 0 then x.round.toUInt64.toNat else 0

def takeWord (bits : Nat) (s : Setting) : Except ConfigFault Nat :=
  let within (n : Nat) : Except ConfigFault Nat :=
    if n < 1 <<< bits then .ok n else .error .wrongType
  match s with
  | .bool b => within (if b then 1 else 0)
  | .whole n => if 0 ≤ n then within n.toNat else .error .wrongType
  | .real x => within (nearestWord x)
  | .text t =>
    match wordOfText t with
    | some n => if n < 1 <<< 64 then within n else .error .wrongType
    | none => .error .wrongType
  | _ => .error .wrongType

def backendNamed (name : String) : Except ConfigFault BackendChoice :=
  match BackendChoice.all.find? fun b => b.name = name.toLower with
  | some b => .ok b
  | none => .error .wrongShape

def takeBackend : Taking BackendChoice
  | .text s => backendNamed s
  | .table [(name, _)] => backendNamed name
  | _ => .error .wrongShape

/-- The values of a table's entries, or of a list's items in order, under the names wanted. -/
def fieldsOf (names : List String) : Setting → Except ConfigFault (List (String × Setting))
  | .table entries => .ok entries
  | .list items => .ok (names.zip items)
  | _ => .error .wrongShape

def takeField {α : Type} (name : String) (take : Taking α) (standard : α)
    (fields : List (String × Setting)) : Except ConfigFault α :=
  match fields.lookup name with
  | some s => take s
  | none => .ok standard

def takeServer (s : Setting) : Except ConfigFault ServerConfig := do
  let fields ← fieldsOf ["host", "port"] s
  return { host := ← takeField "host" takeText ServerConfig.standard.host fields
           port := ← takeField "port" (takeWord 16) ServerConfig.standard.port fields }

def takeStore (s : Setting) : Except ConfigFault StoreConfig := do
  let fields ← fieldsOf ["backend", "request_timeout_ms"] s
  let standard := StoreConfig.standard
  return { backend := ← takeField "backend" takeBackend standard.backend fields
           requestTimeoutMs :=
             ← takeField "request_timeout_ms" (takeWord 64) standard.requestTimeoutMs fields }

def takeDatabase (s : Setting) : Except ConfigFault DatabaseConfig := do
  let fields ←
    fieldsOf ["url", "max_connections", "min_connections", "connect_timeout_secs"] s
  let standard := DatabaseConfig.standard
  return { url := ← takeField "url" takeText standard.url fields
           maxConnections :=
             ← takeField "max_connections" (takeWord 32) standard.maxConnections fields
           minConnections :=
             ← takeField "min_connections" (takeWord 32) standard.minConnections fields
           connectTimeoutSecs :=
             ← takeField "connect_timeout_secs" (takeWord 64) standard.connectTimeoutSecs fields }

def takeLog (s : Setting) : Except ConfigFault LogConfig := do
  let fields ← fieldsOf ["filter"] s
  return { filter := ← takeField "filter" takeText LogConfig.standard.filter fields }

def takeConfig (s : Setting) : Except ConfigFault Config := do
  let fields ← fieldsOf ["server", "store", "database", "log"] s
  return { server := ← takeField "server" takeServer .standard fields
           store := ← takeField "store" takeStore .standard fields
           database := ← takeField "database" takeDatabase .standard fields
           log := ← takeField "log" takeLog .standard fields }

end Settings

end Switchboard
