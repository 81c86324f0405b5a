import DumpWorkbench.Decimal.Binary64
import DumpWorkbench.Number

namespace DumpWorkbench.Toml

abbrev Chars := List Char

def isBlank (c : Char) : Bool := c == ' ' || c == '\t'

/-- Characters that may stand in a comment and, but for quotes and backslashes, in a string. -/
def isText (c : Char) : Bool :=
  c == '\t' || (0x20 ≤ c.toNat && c.toNat ≤ 0x7E) || 0x80 ≤ c.toNat

def skipBlanks (cs : Chars) : Chars := cs.dropWhile isBlank

def newline? : Chars → Option Chars
  | '\n' :: r => some r
  | '\r' :: '\n' :: r => some r
  | _ => none

def skipComment : Chars → Chars
  | '#' :: r => r.dropWhile isText
  | cs => cs

def endOfLine (cs : Chars) : Except Nat Chars :=
  match skipComment (skipBlanks cs) with
  | [] => .ok []
  | r =>
    match newline? r with
    | some r => .ok r
    | none => .error r.length

def skipLines : Chars → Chars
  | ' ' :: r => skipLines r
  | '\t' :: r => skipLines r
  | '\n' :: r => skipLines r
  | '\r' :: '\n' :: r => skipLines r
  | cs => cs

/-- Skips blanks, line endings and comments that end with a line. The fuel bounds the number of
comments. -/
def skipAll : Nat → Chars → Chars
  | 0, cs => cs
  | fuel + 1, cs =>
    match skipLines cs with
    | '#' :: r =>
      match newline? (r.dropWhile isText) with
      | some r => skipAll fuel r
      | none => '#' :: r
    | r => r

def skipSpace (cs : Chars) : Chars := skipAll cs.length cs

def hexDigit? (c : Char) : Option Nat :=
  if '0' ≤ c ∧ c ≤ '9' then some (c.toNat - 48)
  else if 'a' ≤ c ∧ c ≤ 'f' then some (c.toNat - 87)
  else if 'A' ≤ c ∧ c ≤ 'F' then some (c.toNat - 55)
  else none

def hexValue? (cs : Chars) : Option Nat :=
  cs.foldlM (fun n c => (hexDigit? c).map (n * 16 + ·)) 0

def codePoint? (digits : Nat) (cs : Chars) : Option Char :=
  if cs.length < digits then none
  else match hexValue? (cs.take digits) with
    | some n => if n.isValidChar then some (Char.ofNat n) else none
    | none => none

/-- The character of an escape, and how many characters after the backslash it takes. -/
def escape? : Chars → Option (Char × Nat)
  | [] => none
  | c :: r =>
    if c = 'b' then some ('\x08', 1)
    else if c = 't' then some ('\t', 1)
    else if c = 'n' then some ('\n', 1)
    else if c = 'f' then some ('\x0c', 1)
    else if c = 'r' then some ('\r', 1)
    else if c = '"' ∨ c = '\\' then some (c, 1)
    else if c = 'u' then (codePoint? 4 r).map (·, 5)
    else if c = 'U' then (codePoint? 8 r).map (·, 9)
    else none

def basic (cs : Chars) : Except Nat (Chars × Chars) :=
  match cs with
  | [] => .error 0
  | c :: r =>
    if c = '"' then .ok ([], r)
    else if c = '\\' then
      match escape? r with
      | none => .error r.length
      | some (d, n) => (basic (r.drop n)).map fun (s, rest) => (d :: s, rest)
    else if isText c then (basic r).map fun (s, rest) => (c :: s, rest)
    else .error (c :: r).length
termination_by cs.length
decreasing_by all_goals simp; try omega

def literal : Chars → Except Nat (Chars × Chars)
  | [] => .error 0
  | c :: r =>
    if c = '\'' then .ok ([], r)
    else if isText c then (literal r).map fun (s, rest) => (c :: s, rest)
    else .error (c :: r).length

def runLength (c : Char) (cs : Chars) : Nat := (cs.takeWhile (· == c)).length

/-- What a backslash at the end of a line skips, if it stands there: the blanks, the line ending
and all blanks and line endings behind it. -/
def lineJoin? (cs : Chars) : Option Chars := (newline? (skipBlanks cs)).map skipLines

/-- The inside of a string in three double quotes. Up to two quotes may stand before the closing
three. The fuel bounds the number of steps. -/
def longBasic : Nat → Chars → Except Nat (Chars × Chars)
  | 0, cs => .error cs.length
  | _, [] => .error 0
  | fuel + 1, c :: r =>
    if c = '"' then
      let k := runLength '"' (c :: r)
      if k < 3 then (longBasic fuel r).map fun (s, rest) => (c :: s, rest)
      else if k ≤ 5 then .ok (List.replicate (k - 3) '"', (c :: r).drop k)
      else .error ((c :: r).drop 5).length
    else if c = '\\' then
      match lineJoin? r with
      | some r => longBasic fuel r
      | none =>
        match escape? r with
        | none => .error r.length
        | some (d, n) => (longBasic fuel (r.drop n)).map fun (s, rest) => (d :: s, rest)
    else match newline? (c :: r) with
      | some r => (longBasic fuel r).map fun (s, rest) => ('\n' :: s, rest)
      | none =>
        if isText c then (longBasic fuel r).map fun (s, rest) => (c :: s, rest)
        else .error (c :: r).length

def longLiteral : Nat → Chars → Except Nat (Chars × Chars)
  | 0, cs => .error cs.length
  | _, [] => .error 0
  | fuel + 1, c :: r =>
    if c = '\'' then
      let k := runLength '\'' (c :: r)
      if k < 3 then (longLiteral fuel r).map fun (s, rest) => (c :: s, rest)
      else if k ≤ 5 then .ok (List.replicate (k - 3) '\'', (c :: r).drop k)
      else .error ((c :: r).drop 5).length
    else match newline? (c :: r) with
      | some r => (longLiteral fuel r).map fun (s, rest) => ('\n' :: s, rest)
      | none =>
        if isText c then (longLiteral fuel r).map fun (s, rest) => (c :: s, rest)
        else .error (c :: r).length

/-- A line ending right behind three opening quotes is not part of the string. -/
def dropNewline (cs : Chars) : Chars := (newline? cs).getD cs

def basicString : Chars → Except Nat (Chars × Chars)
  | '"' :: '"' :: r => let r := dropNewline r; longBasic (r.length + 1) r
  | r => basic r

def literalString : Chars → Except Nat (Chars × Chars)
  | '\'' :: '\'' :: r => let r := dropNewline r; longLiteral (r.length + 1) r
  | r => literal r

def isKeyChar (c : Char) : Bool := c.isAlphanum || c == '-' || c == '_'

def keyPart : Chars → Except Nat (String × Chars)
  | '"' :: r => (basic r).map fun (s, rest) => (String.ofList s, rest)
  | '\'' :: r => (literal r).map fun (s, rest) => (String.ofList s, rest)
  | cs =>
    let name := cs.takeWhile isKeyChar
    if name.isEmpty then .error cs.length else .ok (String.ofList name, cs.dropWhile isKeyChar)

def keyParts : Nat → Chars → Except Nat (List String × Chars)
  | 0, cs => .error cs.length
  | fuel + 1, cs =>
    match keyPart (skipBlanks cs) with
    | .error n => .error n
    | .ok (part, rest) =>
      match skipBlanks rest with
      | '.' :: r => (keyParts fuel r).map fun (parts, rest) => (part :: parts, rest)
      | rest => .ok ([part], rest)

/-- Keys have fewer than 80 parts. -/
def maxParts : Nat := 79

def key (cs : Chars) : Except Nat ((List String × String) × Chars) :=
  match keyParts maxParts cs with
  | .error n => .error n
  | .ok (parts, rest) => .ok ((parts.dropLast, parts.getLastD ""), rest)

def isDigit (c : Char) : Bool := c.isDigit

def digitsValue (ds : Chars) : Nat := ds.foldl (fun n d => n * 10 + (d.toNat - 48)) 0

def digitsIn? (n low high : Nat) (cs : Chars) : Option (Nat × Chars) :=
  let ds := cs.take n
  let v := digitsValue ds
  if ds.length = n ∧ ds.all isDigit ∧ low ≤ v ∧ v ≤ high then some (v, cs.drop n) else none

def skipChar? (c : Char) : Chars → Option Chars
  | [] => none
  | d :: r => if d = c then some r else none

def daysIn (year month : Nat) : Nat :=
  if month = 2 then
    if year % 4 = 0 ∧ (year % 100 ≠ 0 ∨ year % 400 = 0) then 29 else 28
  else if month = 4 ∨ month = 6 ∨ month = 9 ∨ month = 11 then 30
  else 31

def skipDate? (cs : Chars) : Option Chars := do
  let (year, cs) ← digitsIn? 4 0 9999 cs
  let cs ← skipChar? '-' cs
  let (month, cs) ← digitsIn? 2 1 12 cs
  let cs ← skipChar? '-' cs
  let (_, cs) ← digitsIn? 2 1 (daysIn year month) cs
  return cs

/-- A time of day; a minute may have a leap second. -/
def skipTime? (cs : Chars) : Option Chars := do
  let (_, cs) ← digitsIn? 2 0 23 cs
  let cs ← skipChar? ':' cs
  let (_, cs) ← digitsIn? 2 0 59 cs
  let cs ← skipChar? ':' cs
  let (_, cs) ← digitsIn? 2 0 60 cs
  match cs with
  | '.' :: r => if (r.takeWhile isDigit).isEmpty then none else return r.dropWhile isDigit
  | _ => return cs

def skipOffset (cs : Chars) : Chars :=
  match cs with
  | [] => cs
  | c :: r =>
    if c = 'Z' ∨ c = 'z' then r
    else if c = '+' ∨ c = '-' then
      ((digitsIn? 2 0 23 r).bind fun (_, r) => (skipChar? ':' r).bind fun r =>
        (digitsIn? 2 0 59 r).map (·.2)).getD cs
    else cs

def skipMoment? (cs : Chars) : Option Chars :=
  match skipDate? cs with
  | none => skipTime? cs
  | some rest =>
    match rest with
    | [] => some rest
    | c :: r =>
      if c = 'T' ∨ c = 't' ∨ c = ' ' then
        match skipTime? r with
        | some r => some (skipOffset r)
        | none => some rest
      else some rest

def skipDigits? (digit : Char → Bool) : Chars → Option Chars
  | [] => none
  | c :: r =>
    if digit c then
      match r with
      | '_' :: r => skipDigits? digit r
      | [] => some []
      | d :: s => if digit d then skipDigits? digit (d :: s) else some (d :: s)
    else none

/-- Skips a sign and decimal digits without a leading zero. -/
def skipInteger? (cs : Chars) : Option Chars :=
  let cs := match cs with
    | '+' :: r => r
    | '-' :: r => r
    | _ => cs
  match cs with
  | '0' :: r => some r
  | cs => skipDigits? isDigit cs

def skipExponent? (cs : Chars) : Option Chars :=
  match cs with
  | [] => none
  | c :: r =>
    if c = 'e' ∨ c = 'E' then
      match r with
      | '+' :: r => skipDigits? isDigit r
      | '-' :: r => skipDigits? isDigit r
      | r => skipDigits? isDigit r
    else none

def skipDecimal? (cs : Chars) : Option Chars := do
  let cs ← skipInteger? cs
  match cs with
  | '.' :: r =>
    let cs ← skipDigits? isDigit r
    return (skipExponent? cs).getD cs
  | cs => skipExponent? cs

/-- The value of a number that `skipDecimal?` skips, without its sign. -/
def decimalOf (text : Chars) : Decimal :=
  let mantissa := text.takeWhile fun c => c ≠ 'e' && c ≠ 'E'
  let power := text.drop (mantissa.length + 1)
  let digits := mantissa.filter isDigit
  let places := ((mantissa.dropWhile (· ≠ '.')).filter isDigit).length
  let e : Int := digitsValue (power.filter isDigit)
  ⟨digitsValue digits, (if power.head? = some '-' then -e else e) - places⟩

/-- A number with a fraction or an exponent; one that is too large for a double is refused, but a
negative one is not. -/
def decimal? (cs : Chars) : Option (String × Chars) := do
  let rest ← skipDecimal? cs
  let text := cs.take (cs.length - rest.length)
  if text.head? ≠ some '-' ∧ Binary64.ofDecimal false (decimalOf text) = none then none
  else return (String.ofList text, rest)

/-- What follows infinity or the value that is no number. -/
def skipSpecial? (cs : Chars) : Option Chars :=
  let cs := match cs with
    | '+' :: r => r
    | '-' :: r => r
    | _ => cs
  match cs with
  | 'i' :: 'n' :: 'f' :: r => some r
  | 'n' :: 'a' :: 'n' :: r => some r
  | _ => none

def baseValue (base : Nat) (cs : Chars) : Nat :=
  (cs.filterMap hexDigit?).foldl (fun n d => n * base + d) 0

def isDigitBelow (base : Nat) (c : Char) : Bool := (hexDigit? c).any (· < base)

def word (n : Int) : Option Int := if -Number.words63 ≤ n ∧ n < Number.words63 then some n else none

def based? (base : Nat) (r : Chars) : Option (Int × Chars) := do
  let rest ← skipDigits? (isDigitBelow base) r
  let n ← word (baseValue base (r.take (r.length - rest.length)))
  return (n, rest)

def integer? : Chars → Option (Int × Chars)
  | '0' :: 'x' :: r => based? 16 r
  | '0' :: 'o' :: r => based? 8 r
  | '0' :: 'b' :: r => based? 2 r
  | cs => do
    let rest ← skipInteger? cs
    let text := cs.take (cs.length - rest.length)
    let n : Int := baseValue 10 text
    let n ← word (if text.head? = some '-' then -n else n)
    return (n, rest)

end DumpWorkbench.Toml
