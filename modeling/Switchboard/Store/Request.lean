import Switchboard.Registry.Failure
import Switchboard.Text.Octets

/-!
What a store is asked: documents, which it keeps as octets, by kind and id. Each request has its
own type of answer.
-/

namespace Switchboard.Store

open Text

inductive Kind where
  | trunk
  | rule
  | participant
  deriving DecidableEq, Inhabited

namespace Kind

def all : List Kind := [trunk, rule, participant]

def name : Kind → String
  | trunk => "sip_trunk"
  | rule => "sip_dispatch_rule"
  | participant => "sip_participant"

def ofName? (name : String) : Option Kind := all.find? fun k => k.name = name

def title (k : Kind) (id : String) : String := k.name ++ " " ++ id

end Kind

inductive Request where
  | get (kind : Kind) (id : String)
  | insert (kind : Kind) (id : String) (data : Octets)
  | delete (kind : Kind) (id : String)
  | list (kind : Kind)
  | ping
  deriving DecidableEq, Inhabited

namespace Request

/-- A document if there is one; nothing; whether there was one to delete; all documents of a kind
in ascending order of their ids. -/
abbrev Answer : Request → Type
  | get .. => Option Octets
  | insert .. => Unit
  | delete .. => Bool
  | list .. => List Octets
  | ping => Unit

def kind? : Request → Option Kind
  | get kind _ | insert kind _ _ | delete kind _ | list kind => some kind
  | ping => none

end Request

end Switchboard.Store
