/-!
New ids: a start that tells what the id is for, and twelve letters and digits drawn at random, none
that is easily taken for another.
-/

namespace Switchboard.Service

def alphabet : List Char :=
  "23456789ABCDEFGHJKLMNPQRSTUVWXYZabcdefghijkmnopqrstuvwxyz".toList

def suffixLength : Nat := 12

def symbol (n : Nat) : Char := alphabet.getD (n % alphabet.length) '2'

def drawSymbols : Nat → StdGen → List Char × StdGen
  | 0, g => ([], g)
  | n + 1, g =>
    let (k, g) := randNat g 0 (alphabet.length - 1)
    let (cs, g) := drawSymbols n g
    (symbol k :: cs, g)

def drawId (start : String) (g : StdGen) : String × StdGen :=
  let (cs, g) := drawSymbols suffixLength g
  (start ++ String.ofList cs, g)

def drawIds (start : String) : Nat → StdGen → List String × StdGen
  | 0, g => ([], g)
  | n + 1, g =>
    let (id, g) := drawId start g
    let (ids, g) := drawIds start n g
    (id :: ids, g)

end Switchboard.Service
