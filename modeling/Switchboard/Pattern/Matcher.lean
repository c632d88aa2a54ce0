import Switchboard.Pattern.Match
import Switchboard.Pattern.Weight

/-!
Patterns ready to be found in texts. The text of a pattern either has no meaning, or weighs too
much, or makes one matcher.
-/

namespace Switchboard

open Pattern

structure Matcher where
  expr : Expr
  deriving Inhabited

namespace Matcher

inductive Fault where
  | noPattern
  | tooHeavy
  deriving DecidableEq, Inhabited

def Fault.text : Fault → String
  | .noPattern => "regex parse error:"
  | .tooHeavy =>
    "Compiled regex exceeds size limit of " ++ toString weightLimit ++ " bytes."

def ofText (text : String) : Except Fault Matcher :=
  match (Tree.ofText? text).bind Tree.meaning? with
  | none => .error .noPattern
  | some e => if e.isTooHeavy then .error .tooHeavy else .ok ⟨e⟩

def occursIn (m : Matcher) (text : String) : Bool := m.expr.occursIn text

end Matcher

end Switchboard
