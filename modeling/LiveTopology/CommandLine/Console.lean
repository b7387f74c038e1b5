import LiveTopology.Bytes
import LiveTopology.CommandLine.Session

/-!
This module contains how what is typed becomes the incidents of a session.
-/

namespace LiveTopology.Console

def chomp (bs : List UInt8) : List UInt8 :=
  match bs.reverse with
  | 10 :: 13 :: rest => rest.reverse
  | 10 :: rest => rest.reverse
  | _ => bs

/-- What reading up to the end of a line means. Nothing is read at the end of the input. -/
def incident (bs : List UInt8) : Incident :=
  if bs.isEmpty then .endOfInput
  else
    match Bytes.text? bs with
    | none => .unreadable
    | some _ =>
      match Bytes.text? (chomp bs) with
      | none => .unreadable
      | some line => .line line

end LiveTopology.Console
