import Switchboard.Decimal.Shortest
import Switchboard.Metrics.Tally
import Switchboard.Text.Octets

/-!
Counts as lines of text: a name, labels in braces, and a number. Lines are sorted by their octets.
-/

namespace Switchboard.Metrics

/-- The text of a label's value: quotes, line ends and backslashes are escaped, and what is an
escape already stays one. `held` is a backslash that may begin an escape. -/
def escapeLabel (held : Bool) : List Char → List Char
  | [] => if held then ['\\', '\\'] else []
  | c :: cs =>
    if c = '\n' then '\\' :: 'n' :: escapeLabel held cs
    else if c = '"' then '\\' :: '"' :: escapeLabel false cs
    else if c = '\\' then
      if held then '\\' :: '\\' :: escapeLabel false cs else escapeLabel true cs
    else if held then '\\' :: '\\' :: c :: escapeLabel false cs
    else c :: escapeLabel false cs

def labelText (l : String × String) : String :=
  l.1 ++ "=\"" ++ String.ofList (escapeLabel false l.2.toList) ++ "\""

def labelsText (labels : List (String × String)) : String :=
  "\x7b" ++ String.intercalate "," (labels.map labelText) ++ "\x7d"

def sample (name : String) (labels : List (String × String)) (value : String) : String :=
  name ++ labelsText labels ++ " " ++ value

def typeLine (name kind : String) : String := "# TYPE " ++ name ++ " " ++ kind

def sorted (lines : List String) : List String :=
  lines.mergeSort fun a b => !Text.precedes b a

def OperationKey.labels (k : OperationKey) : List (String × String) :=
  [("op", k.operation), ("result", k.result)]

def RequestKey.labels (k : RequestKey) : List (String × String) :=
  [("method", k.method), ("path", k.path), ("status", toString k.status)]

def durations : String := "http_request_duration_seconds"

def counterLines {κ : Type} (name suffix kind : String) (labels : κ → List (String × String))
    (c : Counter κ) : List String :=
  if c.counts.isEmpty then []
  else typeLine name kind ::
    c.counts.map fun (k, n) => sample (name ++ suffix) (labels k) (toString n)

def Tally.lines (t : Tally) : List String :=
  sorted
    (counterLines "sip_registry_operations_total" "" "counter" OperationKey.labels t.operations ++
      counterLines "sip_dispatch_total" "" "counter" (fun r => [("result", r)]) t.dispatches ++
      counterLines durations "_count" "summary" RequestKey.labels t.requests)

end Switchboard.Metrics
