/-!
The media types of request bodies: a type, a subtype, perhaps a suffix behind a plus, and
parameters. Names are compared without regard to case.
-/

namespace Switchboard.Api

def isToken (c : Char) : Bool := c.isAlphanum || "!#$%&'*+-.^_|~\x60".contains c

def isQuotable (c : Char) : Bool := ' ' ≤ c && c != '\x7f'

structure MediaType where
  type : String
  subtype : String
  suffix : Option String
  deriving DecidableEq, Inhabited

inductive Part where
  | start
  | name
  | value
  | plain
  /-- Behind the quote that opens a value. Whatever is there belongs to the value. -/
  | opened
  | quoted
  | closed
  deriving DecidableEq, Inhabited

def Part.wellFormed : Part → List Char → Bool
  | start, [] | value, [] | plain, [] | closed, [] => true
  | name, [] | opened, [] | quoted, [] => false
  | start, c :: cs => if c = ' ' then start.wellFormed cs else isToken c && name.wellFormed cs
  | name, c :: cs => if c = '=' then value.wellFormed cs else isToken c && name.wellFormed cs
  | value, c :: cs => if c = '"' then opened.wellFormed cs else isToken c && plain.wellFormed cs
  | plain, c :: cs => if c = ';' then start.wellFormed cs else isToken c && plain.wellFormed cs
  | opened, c :: cs => isQuotable c && quoted.wellFormed cs
  | quoted, c :: cs =>
    if c = '"' then closed.wellFormed cs else isQuotable c && quoted.wellFormed cs
  | closed, c :: cs => if c = ';' then start.wellFormed cs else c = ' ' && closed.wellFormed cs

def splitSuffix (cs : List Char) : List Char × Option (List Char) :=
  match cs.reverse.takeWhile (· != '+'), cs.reverse.dropWhile (· != '+') with
  | suffix, _ :: c :: before => ((c :: before).reverse, some suffix.reverse)
  | _, _ => (cs, none)

def lower (cs : List Char) : String := (String.ofList cs).toLower

def MediaType.parse? (text : String) : Option MediaType :=
  let cs := text.toList
  match cs.takeWhile isToken, cs.dropWhile isToken with
  | t :: ts, '/' :: rest =>
    match rest.takeWhile isToken, rest.dropWhile isToken with
    | s :: ss, tail =>
      let (subtype, suffix) := splitSuffix (s :: ss)
      let m : MediaType := ⟨lower (t :: ts), lower subtype, suffix.map lower⟩
      match tail with
      | [] => some m
      | c :: tail =>
        if (c = ';' ∨ c = ' ') ∧ Part.start.wellFormed tail then some m else none
    | _, _ => none
  | _, _ => none

def MediaType.isJson (m : MediaType) : Bool :=
  m.type == "application" && (m.subtype == "json" || m.suffix == some "json")

end Switchboard.Api
