import DumpWorkbench.Decimal.Shortest
import DumpWorkbench.Json.Basic

namespace DumpWorkbench.Json

def hexDigit (n : Nat) : Char := Nat.digitChar n

def escapeChar (c : Char) : List Char :=
  if c = '"' then ['\\', '"']
  else if c = '\\' then ['\\', '\\']
  else if c = '\x08' then ['\\', 'b']
  else if c = '\x0c' then ['\\', 'f']
  else if c = '\n' then ['\\', 'n']
  else if c = '\r' then ['\\', 'r']
  else if c = '\t' then ['\\', 't']
  else if c.toNat < 0x20 then
    ['\\', 'u', '0', '0', hexDigit (c.toNat / 16), hexDigit (c.toNat % 16)]
  else [c]

def quote (s : String) : List Char := '"' :: s.toList.flatMap escapeChar ++ ['"']

def integerText (i : Int) : List Char :=
  if i < 0 then '-' :: Nat.toDigits 10 i.natAbs else Nat.toDigits 10 i.natAbs

def Number.text : Number → List Char
  | .integer i => integerText i
  | .real x => x.text

mutual

def compactChars : Value → List Char
  | .null => ['n', 'u', 'l', 'l']
  | .bool true => ['t', 'r', 'u', 'e']
  | .bool false => ['f', 'a', 'l', 's', 'e']
  | .number n => n.text
  | .string s => quote s
  | .array [] => ['[', ']']
  | .array (v :: vs) => '[' :: (compactChars v ++ compactItems vs ++ [']'])
  | .object [] => ['\x7b', '\x7d']
  | .object ((k, v) :: ms) =>
    '\x7b' :: (quote k ++ ':' :: compactChars v ++ compactMembers ms ++ ['\x7d'])

def compactItems : List Value → List Char
  | [] => []
  | v :: vs => ',' :: (compactChars v ++ compactItems vs)

def compactMembers : Members → List Char
  | [] => []
  | (k, v) :: ms => ',' :: (quote k ++ ':' :: compactChars v ++ compactMembers ms)

end

def newLine (level : Nat) : List Char := '\n' :: List.replicate (2 * level) ' '

mutual

def prettyChars (level : Nat) : Value → List Char
  | .null => ['n', 'u', 'l', 'l']
  | .bool true => ['t', 'r', 'u', 'e']
  | .bool false => ['f', 'a', 'l', 's', 'e']
  | .number n => n.text
  | .string s => quote s
  | .array [] => ['[', ']']
  | .array (v :: vs) =>
    '[' :: (newLine (level + 1) ++ prettyChars (level + 1) v ++ prettyItems level vs
      ++ newLine level ++ [']'])
  | .object [] => ['\x7b', '\x7d']
  | .object ((k, v) :: ms) =>
    '\x7b' :: (newLine (level + 1) ++ quote k ++ ':' :: ' ' :: prettyChars (level + 1) v
      ++ prettyMembers level ms ++ newLine level ++ ['\x7d'])

def prettyItems (level : Nat) : List Value → List Char
  | [] => []
  | v :: vs => ',' :: (newLine (level + 1) ++ prettyChars (level + 1) v ++ prettyItems level vs)

def prettyMembers (level : Nat) : Members → List Char
  | [] => []
  | (k, v) :: ms =>
    ',' :: (newLine (level + 1) ++ quote k ++ ':' :: ' ' :: prettyChars (level + 1) v
      ++ prettyMembers level ms)

end

def Value.compact (v : Value) : String := String.ofList (compactChars v)

def Value.pretty (v : Value) : String := String.ofList (prettyChars 0 v)

end DumpWorkbench.Json
