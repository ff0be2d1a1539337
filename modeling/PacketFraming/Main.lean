import PacketFraming.Command.Run

/-! The command line program: it reads what a request may need, runs the request, and
writes what is left behind. -/

namespace PacketFraming.Command

def faultOfError (error : IO.Error) : Fault :=
  let described (kind : FaultKind) (code : UInt32) (details : String) : Fault :=
    { kind, description := details ++ " (os error " ++ toString code ++ ")" }
  match error with
  | .noFileOrDirectory _ code details => described .notFound code details
  | .permissionDenied _ code details => described .permissionDenied code details
  | .inappropriateType _ code details =>
      described (if code = 21 then .isDirectory else .other) code details
  | other => { kind := .other, description := toString other }

def readPath (path : String) : IO (Except Fault (List UInt8)) := do
  try
    let bytes ← IO.FS.readBinFile path
    return .ok bytes.toList
  catch error =>
    return .error (faultOfError error)

/-- Everything a request may look at, read beforehand. -/
def gather (request : Request) : IO Surroundings := do
  let input ←
    if request.readsStandardInput then (← IO.getStdin).readBinToEnd
    else pure ByteArray.empty
  let files ← request.paths.mapM fun path => return (path, ← readPath path)
  let missing : Fault := .ofKind .notFound
  return {
    standardInput := input.toList
    file := fun path => (files.lookup path).getD (.error missing)
    terminal := ← (← IO.getStdout).isTty }

/-- Writes an outcome: the output to standard output, and log lines and the error to
standard error. -/
def deliver (logFormat : LogFormat) (outcome : Outcome) : IO UInt32 := do
  for entry in outcome.log do
    match logFormat with
    | .text => IO.eprintln entry.toText
    | .json => IO.eprintln entry.toJson.render
  let output ← IO.getStdout
  output.write ⟨outcome.output.toArray⟩
  output.flush
  if let some message := outcome.error then
    IO.eprintln ("error: " ++ message)
  return outcome.code.toUInt32

def execute (arguments : List String) : IO UInt32 := do
  match Request.ofArguments arguments with
  | .error .version =>
      IO.print versionLine
      return 0
  | .error (.usage detail) =>
      IO.eprintln ("error: " ++ detail.getD "the arguments are not valid")
      return 2
  | .ok request => deliver request.logFormat (request.run (← gather request))

end PacketFraming.Command

def main (arguments : List String) : IO UInt32 :=
  PacketFraming.Command.execute arguments
