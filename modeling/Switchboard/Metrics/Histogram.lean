import Switchboard.Metrics.Exposition
import Switchboard.Time.Span

/-!
How long requests took: for each sort of request the number of those that took no longer than each
bound, the sum of the times in seconds, and their number.
-/

namespace Switchboard.Metrics

open Time

def bounds : List Float := [0.005, 0.01, 0.025, 0.05, 0.1, 0.25, 0.5, 1, 2.5, 5, 10]

def seconds (s : Span) : Float :=
  Float.ofNat (s.nanos / 1000000000) + Float.ofNat (s.nanos % 1000000000) / 1000000000

structure Distribution where
  buckets : List Nat
  sum : Float
  count : Nat
  deriving Inhabited

def Distribution.empty : Distribution := ⟨bounds.map fun _ => 0, 0, 0⟩

def Distribution.add (d : Distribution) (x : Float) : Distribution where
  buckets := (bounds.zip d.buckets).map fun (bound, n) => if x <= bound then n + 1 else n
  sum := d.sum + x
  count := d.count + 1

structure Histogram where
  distributions : List (RequestKey × Distribution)
  deriving Inhabited

def Histogram.empty : Histogram := ⟨[]⟩

def record (key : RequestKey) (x : Float) :
    List (RequestKey × Distribution) → List (RequestKey × Distribution)
  | [] => [(key, Distribution.empty.add x)]
  | (k, d) :: more => if k = key then (k, d.add x) :: more else (k, d) :: record key x more

def Histogram.add (h : Histogram) (key : RequestKey) (s : Span) : Histogram :=
  ⟨record key (seconds s) h.distributions⟩

def bucketLine (key : RequestKey) (bound : String) (n : Nat) : String :=
  sample (durations ++ "_bucket") (key.labels ++ [("le", bound)]) (toString n)

def distributionLines (key : RequestKey) (d : Distribution) : List String :=
  ((bounds.zip d.buckets).map fun (bound, n) => bucketLine key (Decimal.plain bound) n) ++
    [bucketLine key "+Inf" d.count,
      sample (durations ++ "_sum") key.labels (Decimal.plain d.sum),
      sample (durations ++ "_count") key.labels (toString d.count)]

def Histogram.lines (h : Histogram) : List String :=
  if h.distributions.isEmpty then []
  else sorted
    ("# HELP http_request_duration_seconds HTTP request duration in seconds" ::
      typeLine durations "histogram" ::
      h.distributions.flatMap fun (key, d) => distributionLines key d)

end Switchboard.Metrics
