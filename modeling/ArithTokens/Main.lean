import ArithTokens.Command

/-!
# The command line

Collects what a run depends on, answers the request and writes what is to be seen of it. The
source is read only when the arguments are accepted.
-/

namespace ArithTokens

/-- The system's number and words for a failure, if it has them. -/
def systemError? : IO.Error → Option (UInt32 × String)
  | .alreadyExists _ code words | .invalidArgument _ code words | .permissionDenied _ code words
  | .resourceExhausted _ code words | .inappropriateType _ code words | .noSuchThing _ code words
  | .interrupted _ code words | .noFileOrDirectory _ code words | .otherError code words
  | .resourceBusy code words | .resourceVanished code words | .unsupportedOperation code words
  | .hardwareFault code words | .unsatisfiedConstraints code words | .illegalOperation code words
  | .protocolError code words | .timeExpired code words => some (code, words)
  | .unexpectedEof | .userError _ => none

/-- What a failed reading means. Some functions of the system give the number of a failure as a
negative one; any other failure than the known ones keeps the system's words. -/
def ReadFailure.ofError (error : IO.Error) : ReadFailure :=
  match systemError? error with
  | none => .other error.toString 5
  | some (code, words) =>
    match code.toInt32.toInt.natAbs with
    | 2 => .notFound
    | 20 => .notADirectory
    | 21 => .isADirectory
    | 36 => .nameTooLong
    | 40 => .tooManyLinks
    | number => .other words.capitalize number

/-- Reads the bytes of the source that the options name. -/
def Options.readContent (options : Options) : IO (Except ReadFailure ByteArray) := do
  try
    let bytes ← options.ofSource (IO.FS.readBinFile ·) (do (← IO.getStdin).readBinToEnd)
    return .ok bytes
  catch error => return .error (.ofError error)

end ArithTokens

/-- Runs the command once. -/
def main (arguments : List String) : IO UInt32 := do
  let filter := ArithTokens.Filter.ofSetting (← IO.getEnv "RUST_LOG")
  let verdict ← ArithTokens.Verdict.ofArguments arguments ArithTokens.Options.readContent
  let outcome := verdict.outcome filter
  IO.eprint outcome.stderr
  IO.print outcome.stdout
  return UInt32.ofNat outcome.exitCode
