import DumpWorkbench.Severity
import DumpWorkbench.Timestamp

namespace DumpWorkbench.Log

structure Entry where
  severity : Severity
  target : String
  message : String
deriving DecidableEq, Repr

/-- A character of a message; those that could steer a terminal are spelled out. -/
def escapeChar (c : Char) : List Char :=
  let hex := Nat.toDigits 16 c.toNat
  if c = '\x1b' ∨ c = '\x7f' then '\\' :: 'x' :: hex
  else if c = '\x07' ∨ c = '\x08' ∨ c = '\x0c' then '\\' :: 'x' :: '0' :: hex
  else if 0x80 ≤ c.toNat ∧ c.toNat ≤ 0x9F then ['\\', 'u', '\x7b'] ++ hex ++ ['\x7d']
  else [c]

def escape (message : String) : String := String.ofList (message.toList.flatMap escapeChar)

def Entry.line (e : Entry) (now : Timestamp) : String :=
  let label := e.severity.label
  let pad := String.ofList (List.replicate (5 - label.length) ' ')
  now.logText ++ " " ++ pad ++ label ++ " " ++ e.target ++ ": " ++ escape e.message ++ "\n"

end DumpWorkbench.Log
