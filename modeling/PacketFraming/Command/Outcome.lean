import PacketFraming.Stream.Fault

/-! What a command leaves behind: output, log lines, an error, and an exit code. -/

namespace PacketFraming.Command

/-- Why a command failed: the exit code, and the sentence shown to the user. -/
structure Failure where
  code : Nat
  message : String
deriving DecidableEq, Repr

namespace Failure

def noFrame : Nat := 1

def permissionDenied : Nat := 50

def invalidData : Nat := 60

def usage : Nat := 64

def noInput : Nat := 66

def internal : Nat := 125

def ofFault (context : String) (fault : Fault) : Failure where
  code := match fault.kind with
    | .notFound => noInput
    | .permissionDenied => permissionDenied
    | _ => internal
  message := context ++ ": " ++ fault.description

/-- A refused layout is the user's fault, a payload that is too large the data's. -/
def ofLayoutError (context : String) (cause : LayoutError) : Failure where
  code := match cause with
    | .payloadTooLarge _ => invalidData
    | _ => usage
  message := context ++ ": " ++ cause.message

def ofStreamError (context : String) : StreamError → Failure
  | .layout cause => ofLayoutError context cause
  | .fault cause => ofFault context cause
  | .closed => { code := noFrame, message := context ++ ": " ++ StreamError.closed.message }

end Failure

structure LogLine where
  message : String
  fields : List (String × Nat)
deriving DecidableEq, Repr

/-- What the surroundings of the program hold. -/
structure Surroundings where
  standardInput : List UInt8
  file : String → Except Fault (List UInt8)
  terminal : Bool

structure Outcome where
  code : Nat
  output : List UInt8
  error : Option String
  log : List LogLine
deriving DecidableEq, Repr

namespace Outcome

def success (output : List UInt8) : Outcome where
  code := 0
  output := output
  error := none
  log := []

def failure (cause : Failure) : Outcome where
  code := cause.code
  output := []
  error := some cause.message
  log := []

def ofExcept : Except Failure Outcome → Outcome
  | .ok outcome => outcome
  | .error cause => failure cause

end Outcome

end PacketFraming.Command
