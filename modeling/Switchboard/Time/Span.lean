/-!
Spans of time in whole nanoseconds, written in the largest unit that leaves a whole part.
-/

namespace Switchboard.Time

structure Span where
  nanos : Nat
  deriving DecidableEq, Inhabited

def Span.ofMicros (n : Nat) : Span := ⟨n * 1000⟩
def Span.ofMillis (n : Nat) : Span := ⟨n * 1000000⟩
def Span.ofSeconds (n : Nat) : Span := ⟨n * 1000000000⟩

instance : Add Span := ⟨fun a b => ⟨a.nanos + b.nanos⟩⟩

instance : LT Span := ⟨fun a b => a.nanos < b.nanos⟩

instance (a b : Span) : Decidable (a < b) := inferInstanceAs (Decidable (a.nanos < b.nanos))

def padded (width n : Nat) : String :=
  let ds := toString n
  String.ofList (List.replicate (width - ds.length) '0') ++ ds

def fraction (width n : Nat) : String :=
  let ds := ((padded width n).toList.reverse.dropWhile (· == '0')).reverse
  if ds.isEmpty then "" else "." ++ String.ofList ds

def inUnit (nanos places : Nat) (name : String) : String :=
  toString (nanos / Nat.pow 10 places) ++ fraction places (nanos % Nat.pow 10 places) ++ name

def Span.text (s : Span) : String :=
  if 1000000000 ≤ s.nanos then inUnit s.nanos 9 "s"
  else if 1000000 ≤ s.nanos then inUnit s.nanos 6 "ms"
  else if 1000 ≤ s.nanos then inUnit s.nanos 3 "µs"
  else inUnit s.nanos 0 "ns"

end Switchboard.Time
