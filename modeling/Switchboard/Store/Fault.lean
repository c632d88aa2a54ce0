import Switchboard.Store.Request
import Switchboard.Time.Span

/-!
Disturbances between the service and its store. A fault waits for requests of one sort, lets some
pass, and then disturbs so many; of several that match, the oldest acts.
-/

namespace Switchboard.Store

open Time

inductive Disturbance where
  | none
  | fail (f : Failure)
  | hang
  | delay (s : Span)
  /-- It is answered as by an empty store, without arriving. -/
  | absent
  deriving DecidableEq, Inhabited

def Request.vacant? : (r : Request) → Option r.Answer
  | .get .. => some Option.none
  | .insert .. => some ()
  | .delete .. => some false
  | .list .. => some []
  | .ping => Option.none

inductive Verb where
  | get
  | insert
  | delete
  | list
  | ping
  deriving DecidableEq, Inhabited

namespace Verb

def all : List Verb := [get, insert, delete, list, ping]

def name : Verb → String
  | get => "get"
  | insert => "insert"
  | delete => "delete"
  | list => "list"
  | ping => "ping"

def ofName? (name : String) : Option Verb := all.find? fun v => v.name = name

end Verb

def Request.verb : Request → Verb
  | .get .. => .get
  | .insert .. => .insert
  | .delete .. => .delete
  | .list .. => .list
  | .ping => .ping

structure Fault where
  verb : Verb
  kind : Option Kind
  effect : Disturbance
  times : Nat
  skip : Nat
  deriving DecidableEq, Inhabited

def Fault.meets (f : Fault) (r : Request) : Bool :=
  f.verb = r.verb && f.times != 0 && f.kind.all fun k => r.kind? = some k

def disturb (r : Request) : List Fault → Disturbance × List Fault
  | [] => (.none, [])
  | f :: fs =>
    if f.meets r then
      if f.skip = 0 then (f.effect, { f with times := f.times - 1 } :: fs)
      else
        let (d, fs) := disturb r fs
        (d, { f with skip := f.skip - 1 } :: fs)
    else
      let (d, fs) := disturb r fs
      (d, f :: fs)

end Switchboard.Store
