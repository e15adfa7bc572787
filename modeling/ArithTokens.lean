import ArithTokens.Binary64
import ArithTokens.Binary64.Rounding
import ArithTokens.Bytes
import ArithTokens.Command
import ArithTokens.Decimal
import ArithTokens.Decimal.Shortest
import ArithTokens.Decimal.Style
import ArithTokens.FileSystem
import ArithTokens.FileSystem.Standard
import ArithTokens.Hexadecimal
import ArithTokens.Json
import ArithTokens.Json.Reading
import ArithTokens.Lexeme
import ArithTokens.Log
import ArithTokens.Log.Directive
import ArithTokens.Log.Filter
import ArithTokens.Log.Level
import ArithTokens.Log.Scope
import ArithTokens.Main
import ArithTokens.NumberLexeme
import ArithTokens.Numeral
import ArithTokens.Options
import ArithTokens.Pattern
import ArithTokens.Pattern.CharSet
import ArithTokens.Pattern.Escape
import ArithTokens.Pattern.Flags
import ArithTokens.Place
import ArithTokens.Proofs.Command
import ArithTokens.Proofs.Concatenation
import ArithTokens.Proofs.Document
import ArithTokens.Proofs.Index
import ArithTokens.Proofs.Layout
import ArithTokens.Proofs.Number
import ArithTokens.Proofs.Numerals
import ArithTokens.Proofs.Output
import ArithTokens.Proofs.Rounding
import ArithTokens.Proofs.Scanning
import ArithTokens.Proofs.Spelling
import ArithTokens.Proofs.TokenDocument
import ArithTokens.Proofs.TokenText
import ArithTokens.Proofs.Trail
import ArithTokens.Proofs.Value
import ArithTokens.Report
import ArithTokens.ScanError
import ArithTokens.Scanner
import ArithTokens.Source
import ArithTokens.Token
import ArithTokens.Token.Decoding
import ArithTokens.Token.Encoding
import ArithTokens.Unicode.Alphabetic
import ArithTokens.Unicode.Alphanumeric
import ArithTokens.Unicode.Numeric
import ArithTokens.Unicode.Whitespace
import ArithTokens.Wrapping
import ArithTokens.Wrapping.BreakClass
import ArithTokens.Proofs.FloatToken
import ArithTokens.Proofs.LineEndings
import ArithTokens.Proofs.Independence
import ArithTokens.Proofs.Lines
import ArithTokens.Proofs.Span
import ArithTokens.Proofs.Report
import ArithTokens.Proofs.Significant
import ArithTokens.Proofs.RoundingInterval
import ArithTokens.Proofs.Shortest
import ArithTokens.Proofs.FloatText
import ArithTokens.Proofs.Accumulation
import ArithTokens.Proofs.Advances
import ArithTokens.Proofs.Equality
import ArithTokens.Proofs.Arguments
