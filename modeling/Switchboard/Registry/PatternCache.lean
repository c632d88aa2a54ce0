import Switchboard.Registry.Trunk

/-!
Number patterns made ready once: the matchers of the patterns that were asked for, under the
patterns' texts. When there are too many all are dropped; what is answered does not depend on what
is kept.
-/

namespace Switchboard

structure PatternCache where
  entries : List (String × Matcher)
  deriving Inhabited

namespace PatternCache

def empty : PatternCache := ⟨[]⟩

def limit : Nat := 1024

def size (c : PatternCache) : Nat := c.entries.length

def find? (c : PatternCache) (pattern : String) : Option Matcher := c.entries.lookup pattern

def add (c : PatternCache) (pattern : String) (m : Matcher) : PatternCache :=
  ⟨(pattern, m) :: if limit ≤ c.size then [] else c.entries⟩

def accepts (c : PatternCache) (t : Trunk) (number : String) : Outcome Bool × PatternCache :=
  if t.numberPattern = "" then (.ok true, c)
  else
    match c.find? t.numberPattern with
    | some m => (.ok (m.occursIn number), c)
    | none =>
      match numberMatcher t.numberPattern with
      | .error f => (.error f, c)
      | .ok m => (.ok (m.occursIn number), c.add t.numberPattern m)

def acceptsEach (c : PatternCache) (t : Trunk) : List String → List (Outcome Bool) × PatternCache
  | [] => ([], c)
  | number :: numbers =>
    let (answer, c) := c.accepts t number
    let (answers, c) := c.acceptsEach t numbers
    (answer :: answers, c)

end PatternCache

end Switchboard
