/-!
Counts of what happened, by what is to be told apart.
-/

namespace Switchboard.Metrics

structure Counter (κ : Type) where
  counts : List (κ × Nat)
  deriving Inhabited

namespace Counter

variable {κ : Type} [DecidableEq κ]

def empty : Counter κ := ⟨[]⟩

def bump (key : κ) : List (κ × Nat) → List (κ × Nat)
  | [] => [(key, 1)]
  | (k, n) :: more => if k = key then (k, n + 1) :: more else (k, n) :: bump key more

def add (c : Counter κ) (key : κ) : Counter κ := ⟨bump key c.counts⟩

def get (c : Counter κ) (key : κ) : Nat := (c.counts.lookup key).getD 0

end Counter

structure OperationKey where
  operation : String
  result : String
  deriving DecidableEq, Inhabited

structure RequestKey where
  method : String
  path : String
  status : Nat
  deriving DecidableEq, Inhabited

structure Tally where
  operations : Counter OperationKey
  dispatches : Counter String
  requests : Counter RequestKey
  deriving Inhabited

def Tally.empty : Tally := ⟨.empty, .empty, .empty⟩

end Switchboard.Metrics
