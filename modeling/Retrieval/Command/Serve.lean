import Retrieval.Command.Run
import Retrieval.Server.Address
import Retrieval.Server.Basic

namespace Retrieval.Command

structure Serving where
  input : Option String
  language : String
  overrides : Overrides
  host : String
  socket : Nat
  deriving DecidableEq, Repr

namespace Serving

def options : Options :=
  ⟨["input", "language"] ++ overrideOptions ++ ["host", "port"], []⟩

/-- The number of a socket; a minus sign goes with zero only. -/
def socket? (s : String) : Option Nat :=
  match s.toList with
  | '-' :: '+' :: _ => none
  | '-' :: cs => (Decimal.Natural.parse 1 (String.ofList cs)).toOption
  | _ => (Decimal.Natural.parse 65536 s).toOption

def parse? (environment : List (String × String)) (args : List String) : Option Serving := do
  let g ← options.read environment args
  return {
    input := ← g.optional "input" Given.path?
    language := (g.text? "language").getD "auto"
    overrides := ← overrides? g
    host := (g.text? "host").getD "0.0.0.0"
    socket := (← g.optional "port" socket?).getD 8080 }

def prepare (s : Serving) (files : Storage) (adminToken : Option String) :
    Except Failure Server := do
  let config ← s.overrides.apply files
  let catalog ← match s.input with
    | none => .ok (.empty config files)
    | some input => index files config input s.language
  if Server.Address.isHost s.host then return .start catalog adminToken else .error .address

end Serving

end Retrieval.Command
