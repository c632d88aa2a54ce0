/-!
Sets of characters as lists of intervals of code points, ascending and apart, and the text form in
which the tables of the character database are kept: each word is the distance from the end of the
interval before, then `+` and the interval's length if it holds more than one code point, in
hexadecimal digits. The tables are of version 16.0 of the database.
-/

namespace Switchboard.Unicode

/-- The code points from `low` to `high`, both included. -/
structure Interval where
  low : Nat
  high : Nat
  deriving DecidableEq, Inhabited

abbrev CharSet := List Interval

namespace CharSet

def lastCode : Nat := 0x10ffff

def all : CharSet := [⟨0, lastCode⟩]

def single (n : Nat) : CharSet := [⟨n, n⟩]

def ofChar (c : Char) : CharSet := single c.toNat

def contains (s : CharSet) (n : Nat) : Bool := s.any fun i => i.low ≤ n && n ≤ i.high

def push (i : Interval) : CharSet → CharSet
  | [] => [i]
  | j :: js => if j.low ≤ i.high + 1 then push ⟨i.low, max i.high j.high⟩ js else i :: j :: js

def below (a b : Interval) : Bool := a.low ≤ b.low

def ofIntervals (is : List Interval) : CharSet := (is.mergeSort below).foldr push []

def union (a b : CharSet) : CharSet := (a.merge b below).foldr push []

def gaps (start : Nat) : CharSet → CharSet
  | [] => if start ≤ lastCode then [⟨start, lastCode⟩] else []
  | i :: is =>
    if start < i.low then ⟨start, i.low - 1⟩ :: gaps (i.high + 1) is else gaps (i.high + 1) is

def complement (s : CharSet) : CharSet := gaps 0 s

def inter (a b : CharSet) : CharSet := complement (union a.complement b.complement)

def diff (a b : CharSet) : CharSet := inter a b.complement

def symmDiff (a b : CharSet) : CharSet := diff (union a b) (inter a b)

def isAscii (s : CharSet) : Bool := List.all s fun i => i.high < 128

def hexDigit (c : Char) : Nat := if c.isDigit then c.toNat - 48 else c.toNat - 87

/-- What has been read of an interval: the number so far, and the distance before a `+`. -/
structure Pending where
  value : Nat
  gap : Option Nat
  begun : Bool

def Pending.fresh : Pending := ⟨0, none, false⟩

def Pending.interval (p : Pending) (last : Nat) : Interval :=
  match p.gap with
  | none => ⟨last + p.value, last + p.value⟩
  | some gap => ⟨last + gap, last + gap + p.value⟩

def decodeFrom (last : Nat) (p : Pending) : List Char → CharSet
  | [] => if p.begun then [p.interval last] else []
  | c :: cs =>
    if c = '+' then decodeFrom last ⟨0, some p.value, true⟩ cs
    else if c = ' ' ∨ c = '\n' then
      if p.begun then p.interval last :: decodeFrom (p.interval last).high .fresh cs
      else decodeFrom last p cs
    else decodeFrom last { p with value := p.value * 16 + hexDigit c, begun := true } cs

def decode (text : String) : CharSet := decodeFrom 0 .fresh text.toList

end CharSet

/-- The code points that have one value of a property, under each name of the value. -/
structure Row where
  names : List String
  ranges : String

def Row.set (r : Row) : CharSet := .decode r.ranges

abbrev Table := List Row

def Table.find? (t : Table) (name : String) : Option CharSet :=
  (List.find? (fun r => r.names.contains name) t).map Row.set

end Switchboard.Unicode
