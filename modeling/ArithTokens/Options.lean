/-!
# Command-line options

The words of a command line are read from left to right, and the first one that cannot be accepted
ends the reading, as does a request for help. Every option may be given once and there may be one
file. Behind the word `--` every word is a file.
-/

namespace ArithTokens

/-- The forms in which tokens are printed. -/
inductive Format where
  | text
  | json
deriving DecidableEq, Repr

/-- The form with this name. -/
def Format.ofName? (name : String) : Option Format :=
  if name = "text" then some .text else if name = "json" then some .json else none

/-- What a run is asked to do: which file to read, if not standard input, in which form to print
tokens, and whether errors are reported in plain text. -/
structure Options where
  file? : Option String
  format : Format
  plain : Bool
deriving DecidableEq, Repr

/-- Why a command line is not accepted. -/
inductive UsageError where
  | unknownOption (word : String)
  | repeatedOption (option : String)
  | missingValue (option : String)
  | invalidValue (option value : String)
  | unexpectedValue (option : String)
  | emptyFile
  | secondFile (name : String)
deriving DecidableEq, Repr

/-- The message for a command line that is not accepted. -/
def UsageError.message : UsageError → String
  | .unknownOption word => "unexpected argument '" ++ word ++ "' found"
  | .repeatedOption option => "the argument '" ++ option ++ "' cannot be used multiple times"
  | .missingValue option => "a value is required for '" ++ option ++ "' but none was supplied"
  | .invalidValue option value => "invalid value '" ++ value ++ "' for '" ++ option ++ "'"
  | .unexpectedValue option => "unexpected value for '" ++ option ++ "' found"
  | .emptyFile => "a value is required for '[FILE]' but none was supplied"
  | .secondFile name => "unexpected argument '" ++ name ++ "' found"

/-- What a command line asks for. -/
inductive Request where
  | help
  | scan (options : Options)
deriving DecidableEq, Repr

/-- What has been chosen by the words read so far. -/
structure Choices where
  file? : Option String
  format? : Option Format
  plain : Bool
deriving DecidableEq, Repr

namespace Choices

/-- Nothing is chosen before the first word. -/
def none : Choices := ⟨.none, .none, false⟩

/-- The options chosen; text is the form of printing unless another one is chosen. -/
def options (choices : Choices) : Options :=
  ⟨choices.file?, choices.format?.getD .text, choices.plain⟩

/-- Plain reports are chosen, once. -/
def addPlain (choices : Choices) : Except UsageError Choices :=
  if choices.plain then .error (.repeatedOption "--plain")
  else .ok { choices with plain := true }

/-- A form of printing is chosen by its name, once. -/
def addFormat (choices : Choices) (name : String) : Except UsageError Choices :=
  match choices.format?, Format.ofName? name with
  | some _, _ => .error (.repeatedOption "--format")
  | .none, some format => .ok { choices with format? := some format }
  | .none, .none => .error (.invalidValue "--format" name)

/-- A file is chosen, once; its name is not empty. -/
def addFile (choices : Choices) (name : String) : Except UsageError Choices :=
  if name = "" then .error .emptyFile
  else if choices.file?.isSome then .error (.secondFile name)
  else .ok { choices with file? := some name }

end Choices

namespace Request

/-- Says that a word looks like an option: it starts with a dash and is more than that. -/
def isDashed (word : String) : Bool := "-".toList.isPrefixOf word.toList && word ≠ "-"

/-- Says that a word asks for help: the long option, or the short one at the head of a group of
one-letter options. -/
def asksForHelp (word : String) : Bool := word = "--help" || "-h".toList.isPrefixOf word.toList

/-- The text behind the equals sign of an option that is given with its value in one word. -/
def attached? (option word : String) : Option String :=
  if (option.toList ++ ['=']).isPrefixOf word.toList then
    some (String.ofList (word.toList.drop (option.length + 1)))
  else none

/-- Behind `--` every word is a file. -/
def readFiles (choices : Choices) : List String → Except UsageError Request
  | [] => .ok (.scan choices.options)
  | word :: rest => do readFiles (← choices.addFile word) rest

/-- Reads the words that are left when some choices have been made. -/
def readFrom (choices : Choices) : List String → Except UsageError Request
  | [] => .ok (.scan choices.options)
  | word :: rest =>
    if word = "--" then readFiles choices rest
    else if asksForHelp word then .ok .help
    else if word = "--plain" then do readFrom (← choices.addPlain) rest
    else if word = "--format" then
      match rest with
      | [] => .error (.missingValue word)
      | value :: rest =>
        if isDashed value then .error (.missingValue word)
        else do readFrom (← choices.addFormat value) rest
    else
      match attached? "--format" word with
      | some value => do readFrom (← choices.addFormat value) rest
      | none =>
        if (attached? "--plain" word).isSome || (attached? "--help" word).isSome then
          .error (.unexpectedValue word)
        else if isDashed word then .error (.unknownOption word)
        else do readFrom (← choices.addFile word) rest

/-- What the words of a command line ask for. -/
def read (words : List String) : Except UsageError Request := readFrom .none words

/-- The lines that explain the command line. -/
def helpLines : List String :=
  ["Tokenize arithmetic expressions",
    "",
    "Usage: arith-lex [OPTIONS] [FILE]",
    "",
    "Arguments:",
    "  [FILE]  Source file to tokenize (omit to read stdin)",
    "",
    "Options:",
    "      --format <FORMAT>  Token output format [default: text] [possible values: text, json]",
    "      --plain            Report errors as plain text instead of a graphical diagnostic",
    "  -h, --help             Print help"]

end Request

end ArithTokens
