import ArithTokens.FileSystem.Standard
import ArithTokens.Log
import ArithTokens.Options
import ArithTokens.Report
import ArithTokens.Token.Encoding

/-!
# The command

A run reads its arguments, then a source, then scans it, and ends with an exit code and what it has
written to the two output streams. `Invocation` holds everything that a run depends on, `Verdict`
says how it ends, and `Verdict.outcome` what is seen of it. Tokens are printed only after the whole
source has been scanned, so nothing is on the standard output of a run that fails.
-/

namespace ArithTokens

/-- What is seen of a run. -/
structure Outcome where
  exitCode : Nat
  stdout : String
  stderr : String
deriving DecidableEq, Repr

/-- Each of the lines followed by a newline. -/
def printLines (lines : List String) : String := String.join (lines.map (· ++ "\n"))

/-- The printed form of a list of tokens. -/
def Format.print (format : Format) (tokens : List Token) : String :=
  match format with
  | .text => printLines (tokens.map Token.text)
  | .json => printLines [(Token.jsonList tokens).indentedText]

/-- How a run ends: its arguments are not accepted, it gives help, it cannot read its source, or it
scans it. -/
inductive Verdict where
  | rejected (error : UsageError)
  | help
  | unreadable (options : Options) (failure : ReadFailure)
  | scanned (options : Options) (scan : Scan)

namespace Options

/-- What there is for the source that the options name: something for the file at its path, and if
they name no file, something for the standard input. -/
def ofSource {α : Type} (options : Options) (file : String → α) (input : α) : α :=
  match options.file? with
  | some path => file path
  | none => input

/-- The name of the source. -/
def sourceName (options : Options) : String := options.ofSource id "<stdin>"

/-- How a run with accepted arguments ends, by the bytes of its source. They have to be the UTF-8
encoding of a text, which is scanned without the line endings at its end. -/
def verdict (options : Options) (content : Except ReadFailure ByteArray) : Verdict :=
  match content with
  | .error failure => .unreadable options failure
  | .ok bytes =>
    match String.fromUTF8? bytes with
    | none => .unreadable options .notText
    | some text =>
      .scanned options (Source.scan ⟨options.sourceName, Source.withoutFinalLineEndings text⟩)

/-- What was being done when the source could not be read. -/
def readingStep (options : Options) : String :=
  options.ofSource (fun path => "read source file '" ++ path ++ "'") "read source from stdin"

/-- The report of an error, plain or drawn as the options ask for. -/
def report (options : Options) (error : ScanError) : String :=
  printLines (if options.plain then [error.message] else (Report.ofError error).rows)

end Options

namespace Verdict

/-- How a run with these arguments ends. The bytes of the source are asked for only when the
arguments are accepted. -/
def ofArguments {m : Type → Type} [Monad m] (arguments : List String)
    (content : Options → m (Except ReadFailure ByteArray)) : m Verdict := do
  match Request.read arguments with
  | .error error => return .rejected error
  | .ok .help => return .help
  | .ok (.scan options) => return options.verdict (← content options)

/-- What is seen of a run that ends in this way when its log is filtered. -/
def outcome (filter : Filter) : Verdict → Outcome
  | .rejected error =>
    ⟨2, "", "error: " ++ error.message ++ "\n\nFor more information, try '--help'.\n"⟩
  | .help => ⟨0, printLines Request.helpLines, ""⟩
  | .unreadable options failure =>
    ⟨1, "", "Error: " ++ options.readingStep ++ "\n\nCaused by:\n    " ++ failure.cause ++ "\n"⟩
  | .scanned options scan =>
    match scan.result with
    | .ok tokens => ⟨0, options.format.print tokens, printLines (scan.log filter)⟩
    | .error error =>
      ⟨1, "", printLines (scan.log filter) ++ options.report error ++ "Error: scan failed\n"⟩

end Verdict

/-- Everything that a run depends on: its arguments, the bytes on standard input, the files that
were put into the directory where it runs, and the setting that filters its log. -/
structure Invocation where
  arguments : List String
  input : ByteArray
  files : List (String × ByteArray)
  logSetting : Option String

namespace Invocation

/-- The file system in which the run happens. -/
def fileSystem (invocation : Invocation) : FileSystem :=
  (FileSystem.standard invocation.input).writeAll invocation.files

/-- The bytes of the source that the options name. -/
def content (invocation : Invocation) (options : Options) : Except ReadFailure ByteArray :=
  options.ofSource invocation.fileSystem.read (.ok invocation.input)

/-- How a run ends. -/
def verdict (invocation : Invocation) : Verdict :=
  Id.run (Verdict.ofArguments invocation.arguments fun options => return invocation.content options)

/-- What is seen of a run. -/
def outcome (invocation : Invocation) : Outcome :=
  invocation.verdict.outcome (.ofSetting invocation.logSetting)

end Invocation

end ArithTokens
