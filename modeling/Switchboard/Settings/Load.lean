import Switchboard.Settings.Config
import Switchboard.Settings.Layer

/-!
Loading the configuration: from a file, if there is one, and from the environment, which comes
after.
-/

namespace Switchboard.Settings

def standardFile : String := "sip-registry.toml"

/-- The endings of files and the formats that can be read. Nothing settles which of several files
counts that differ in their ending only; here it is the first in this order. -/
def endings : List (String × Option Format) :=
  [("toml", some .toml), ("json", some .json), ("yaml", none), ("yml", none), ("ini", none),
    ("ron", none), ("json5", none)]

structure File where
  name : String
  text : String
  deriving DecidableEq, Inhabited

/-- What follows the last point of a name's last part, unless the point is its first sign. -/
def ending? (name : String) : Option String :=
  let last := (name.toList.reverse.takeWhile (· != '/'))
  match last.takeWhile (· != '.'), last.dropWhile (· != '.') with
  | ending, _ :: _ :: _ => some (.ofList ending.reverse)
  | _, _ => none

def formatOf (name : String) : Option (Option Format) :=
  (ending? name).bind fun ending => endings.lookup ending

def readFile (required : Bool) (name : String) (files : List File) :
    Except ConfigFault (List (String × Setting)) :=
  let parse (text : String) (format : Option Format) :=
    match format.bind fun f => f.parse? text with
    | some layer => .ok layer
    | none => .error .unreadable
  match files.find? fun f => f.name = name with
  | some file =>
    match formatOf name with
    | some format => parse file.text format
    | none => if required then .error .missing else .ok []
  | none =>
    let found := endings.findSome? fun (ending, format) =>
      (files.find? fun f => f.name = name ++ "." ++ ending).map fun f => (f, format)
    match found with
    | some (file, format) => parse file.text format
    | none => if required then .error .missing else .ok []

def ofText (text : String) : Except ConfigFault Config :=
  match Format.toml.parse? text with
  | some layer => takeConfig (layOver (.table []) layer)
  | none => .error .unreadable

def load (path : Option String) (files : List File) (environment : List (String × String)) :
    Except ConfigFault Config := do
  let layer ← match path with
    | some path => readFile true path files
    | none => readFile false standardFile files
  takeConfig (layOver (layOver (.table []) layer) (ofEnvironment environment))

end Switchboard.Settings
