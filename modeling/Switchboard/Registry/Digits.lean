import Switchboard.Json.Record
import Switchboard.Registry.Failure
import Switchboard.Text.Quoted

/-!
The tones that can be sent on a call: digits, star and hash, the letters `A` to `D`, and `w` for a
pause.
-/

namespace Switchboard

open Json Text

def isTone (c : Char) : Bool :=
  ('0' ≤ c && c ≤ '9') || c == '*' || c == '#' || ('A' ≤ c && c ≤ 'D') || c == 'w'

structure Digits where
  text : String
  deriving DecidableEq, Inhabited

def Digits.parse (text : String) : Outcome Digits :=
  if text = "" then .error (.invalidArgument "dtmf digits must not be empty")
  else
    match text.toList.find? fun c => !isTone c with
    | some c => .error (.invalidArgument ("invalid dtmf digit " ++ quotedChar c))
    | none => .ok ⟨text⟩

structure SentDigits where
  participantId : String
  digits : String
  deriving DecidableEq, Inhabited

def SentDigits.codec : Codec SentDigits :=
  .record [.required "sip_participant_id" .string, .required "digits" .string]
    (fun s => (s.participantId, s.digits, ()))
    (fun (participantId, digits, ()) => ⟨participantId, digits⟩)

end Switchboard
