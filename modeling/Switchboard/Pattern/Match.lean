import Switchboard.Pattern.Expr

/-!
Matching. A set of places of a text is kept as the bits of a number, the lowest for the place
before the first character. Over a given text the conditions of a pattern become sets of places
(`Expr.over`), and `Walk.advance` takes the places where matches may begin to those where they end.
No places are lost or tried twice, so the work is bounded by the text's length times the pattern's
size.
-/

namespace Switchboard.Pattern

open Switchboard.Unicode

def bit (b : Bool) : Nat := if b then 1 else 0

def placesOf {α : Type} (wanted : α → Bool) (values : List α) : Nat :=
  values.foldr (fun a places => bit (wanted a) + 2 * places) 0

def neighbours (text : List Char) : List (Option Char × Option Char) :=
  (none :: text.map some).zip (text.map some ++ [none])

def isWordOf (unicode : Bool) (c : Option Char) : Bool :=
  c.any fun c => (if unicode then wordSet else asciiWord).contains c.toNat

def Look.holds (l : Look) (before after : Option Char) : Bool :=
  match l with
  | .textStart => before.isNone
  | .textEnd => after.isNone
  | .lineStart => before.isNone || before == some '\n'
  | .lineEnd => after.isNone || after == some '\n'
  | .returnLineStart =>
    before.isNone || before == some '\n' || (before == some '\r' && after != some '\n')
  | .returnLineEnd =>
    after.isNone || after == some '\r' || (after == some '\n' && before != some '\r')
  | .boundary u => isWordOf u before != isWordOf u after
  | .notBoundary u => isWordOf u before == isWordOf u after
  | .wordStart u => !isWordOf u before && isWordOf u after
  | .wordEnd u => isWordOf u before && !isWordOf u after
  | .wordStartHalf u => !isWordOf u before
  | .wordEndHalf u => !isWordOf u after

/-- A pattern over one text: where it may stay, and where it may go on by a character. -/
inductive Walk where
  | anywhere
  | stay (places : Nat)
  | goOn (places : Nat)
  | sequence (first second : Walk)
  | choice (first second : Walk)
  | repetition (body : Walk) (low : Nat) (high : Option Nat)
  deriving Inhabited

def Expr.over (text : List Char) : Expr → Walk
  | .empty => .anywhere
  | .look l => .stay (placesOf (fun (before, after) => l.holds before after) (neighbours text))
  | .set s => .goOn (placesOf (fun c => s.contains c.toNat) text)
  | .sequence a b => .sequence (a.over text) (b.over text)
  | .choice a b => .choice (a.over text) (b.over text)
  | .repetition body low high => .repetition (body.over text) low high
  | .capture body => body.over text

/-- The places reached from `frontier` in at most so many rounds, those `seen` included. -/
def reach (advance : Nat → Nat) : Nat → Nat → Nat → Nat
  | 0, seen, _ => seen
  | rounds + 1, seen, frontier =>
    let met := seen ||| advance frontier
    if met = seen then seen else reach advance rounds met (met ^^^ seen)

def iterate (advance : Nat → Nat) : Nat → Nat → Nat
  | 0, places => places
  | n + 1, places =>
    let next := advance places
    if next = places then places else iterate advance n next

/-- The places where matches end that begin at one of `places`, in a text of that length. -/
def Walk.advance (length : Nat) : Walk → Nat → Nat
  | .anywhere, places => places
  | .stay allowed, places => places &&& allowed
  | .goOn allowed, places => (places &&& allowed) <<< 1
  | .sequence a b, places => b.advance length (a.advance length places)
  | .choice a b, places => a.advance length places ||| b.advance length places
  | .repetition body low high, places =>
    let start := iterate (body.advance length) low places
    let rounds := match high with
      | none => length + 1
      | some high => min (high - low) (length + 1)
    reach (body.advance length) rounds start start

def Expr.occursIn (e : Expr) (text : String) : Bool :=
  let cs := text.toList
  (e.over cs).advance cs.length ((1 <<< (cs.length + 1)) - 1) != 0

end Switchboard.Pattern
