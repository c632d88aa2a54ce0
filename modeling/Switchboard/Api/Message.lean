import Switchboard.Text.Octets

/-!
Requests and responses of the HTTP front.
-/

namespace Switchboard.Api

open Text

structure HttpRequest where
  method : String
  /-- The path with what follows it, as it was sent. -/
  target : String
  contentType : Option String
  body : Octets
  deriving Inhabited

def HttpRequest.path (q : HttpRequest) : String :=
  .ofList (q.target.toList.takeWhile fun c => c != '?' && c != '#')

structure HttpResponse where
  status : Nat
  headers : List (String × String)
  body : Octets
  deriving DecidableEq, Inhabited

namespace HttpResponse

def plain : String := "text/plain; charset=utf-8"

def bare (status : Nat) : HttpResponse := ⟨status, [], []⟩

def text (status : Nat) (body : String) : HttpResponse :=
  ⟨status, [("content-type", plain)], octets body⟩

def json (status : Nat) (body : Octets) : HttpResponse :=
  ⟨status, [("content-type", "application/json")], body⟩

def withHeader (r : HttpResponse) (name value : String) : HttpResponse :=
  { r with headers := r.headers ++ [(name, value)] }

def header? (r : HttpResponse) (name : String) : Option String := r.headers.lookup name

end HttpResponse

end Switchboard.Api
