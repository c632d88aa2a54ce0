/-!
Why an operation of the registry fails: a kind, which callers act on, and a message, which people
read. What was being done when the failure arose is put in front of the message.
-/

namespace Switchboard

inductive FailureKind where
  | notReady
  | invalidArgument
  | notFound
  | alreadyExists
  | failedPrecondition
  | unimplemented
  | deadlineExceeded
  | internal
  deriving DecidableEq, Inhabited

namespace FailureKind

def all : List FailureKind :=
  [notReady, invalidArgument, notFound, alreadyExists, failedPrecondition, unimplemented,
    deadlineExceeded, internal]

def code : FailureKind → String
  | notReady => "not_ready"
  | invalidArgument => "invalid_argument"
  | notFound => "not_found"
  | alreadyExists => "already_exists"
  | failedPrecondition => "failed_precondition"
  | unimplemented => "unimplemented"
  | deadlineExceeded => "deadline_exceeded"
  | internal => "internal"

def ofCode? (code : String) : Option FailureKind := all.find? fun k => k.code = code

def label : FailureKind → String
  | notReady => "Not ready"
  | invalidArgument => "Invalid argument"
  | notFound => "Entity not found"
  | alreadyExists => "Entity already exists"
  | failedPrecondition => "Failed precondition"
  | unimplemented => "Unimplemented"
  | deadlineExceeded => "Deadline exceeded"
  | internal => "Internal error"

end FailureKind

structure Failure where
  kind : FailureKind
  message : String
  deriving DecidableEq, Inhabited

namespace Failure

def within (f : Failure) (context : String) : Failure :=
  { f with message := context ++ ": " ++ f.message }

def text (f : Failure) : String := f.kind.label ++ ": " ++ f.message

def notReady (message : String) : Failure := ⟨.notReady, message⟩
def invalidArgument (message : String) : Failure := ⟨.invalidArgument, message⟩
def notFound (message : String) : Failure := ⟨.notFound, message⟩
def alreadyExists (message : String) : Failure := ⟨.alreadyExists, message⟩
def failedPrecondition (message : String) : Failure := ⟨.failedPrecondition, message⟩
def unimplemented (message : String) : Failure := ⟨.unimplemented, message⟩
def deadlineExceeded (message : String) : Failure := ⟨.deadlineExceeded, message⟩
def internal (message : String) : Failure := ⟨.internal, message⟩

end Failure

abbrev Outcome (α : Type) := Except Failure α

def Outcome.label {α : Type} (success : String) : Outcome α → String
  | .ok _ => success
  | .error f => f.kind.code

end Switchboard
