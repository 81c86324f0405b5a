import DumpWorkbench.Text.Utf8

namespace DumpWorkbench.Json

inductive Fault where
  | endInList
  | endInObject
  | endInString
  | endInValue
  | expectedColon
  | expectedCommaOrBracket
  | expectedCommaOrBrace
  | expectedWord
  | expectedValue
  | invalidEscape
  | invalidNumber
  | numberOutOfRange
  | invalidText
  | controlCharacter
  | keyNotString
  | loneSurrogate
  | trailingComma
  | trailingCharacters
  | unpairedSurrogate
  | tooDeep
deriving DecidableEq, Repr

def Fault.message : Fault → String
  | .endInList => "EOF while parsing a list"
  | .endInObject => "EOF while parsing an object"
  | .endInString => "EOF while parsing a string"
  | .endInValue => "EOF while parsing a value"
  | .expectedColon => "expected `:`"
  | .expectedCommaOrBracket => "expected `,` or `]`"
  | .expectedCommaOrBrace => "expected `,` or `\x7d`"
  | .expectedWord => "expected ident"
  | .expectedValue => "expected value"
  | .invalidEscape => "invalid escape"
  | .invalidNumber => "invalid number"
  | .numberOutOfRange => "number out of range"
  | .invalidText => "invalid unicode code point"
  | .controlCharacter => "control character (\\u0000-\\u001F) found while parsing a string"
  | .keyNotString => "key must be a string"
  | .loneSurrogate => "lone leading surrogate in hex escape"
  | .trailingComma => "trailing comma"
  | .trailingCharacters => "trailing characters"
  | .unpairedSurrogate => "unexpected end of hex escape"
  | .tooDeep => "recursion limit exceeded"

/-- A fault met while reading, with the number of bytes after the place it is reported at. -/
structure Stop where
  fault : Fault
  unread : Nat
deriving DecidableEq, Repr

def Stop.behind (fault : Fault) (rest : Bytes) : Stop := ⟨fault, rest.length⟩

def Stop.next (fault : Fault) (rest : Bytes) : Stop := ⟨fault, rest.length - 1⟩

/-- A fault with the line, counted from one, and the bytes of that line before it. -/
structure ReadError where
  fault : Fault
  line : Nat
  column : Nat
deriving DecidableEq, Repr

def Stop.locate (s : Stop) (text : Bytes) : ReadError :=
  let seen := text.take (text.length - s.unread)
  ⟨s.fault, 1 + seen.count 0x0A, (seen.reverse.takeWhile (· != 0x0A)).length⟩

def ReadError.message (e : ReadError) : String :=
  s!"{e.fault.message} at line {e.line} column {e.column}"

end DumpWorkbench.Json
