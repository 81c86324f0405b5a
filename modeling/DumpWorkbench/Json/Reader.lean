import DumpWorkbench.Decimal.Quick
import DumpWorkbench.Json.Basic
import DumpWorkbench.Json.Fault
import DumpWorkbench.Number

namespace DumpWorkbench.Json

def isSpace (b : UInt8) : Bool := b == 0x20 || b == 0x0A || b == 0x09 || b == 0x0D

def skipSpace (bs : Bytes) : Bytes := bs.dropWhile isSpace

def isDigit (b : UInt8) : Bool := 0x30 ≤ b && b ≤ 0x39

def digitsValue (ds : Bytes) : Nat := ds.foldl (fun n d => n * 10 + (d.toNat - 0x30)) 0

def hexDigit? (b : UInt8) : Option Nat :=
  if 0x30 ≤ b && b ≤ 0x39 then some (b.toNat - 0x30)
  else if 0x41 ≤ b && b ≤ 0x46 then some (b.toNat - 0x37)
  else if 0x61 ≤ b && b ≤ 0x66 then some (b.toNat - 0x57)
  else none

def hexUnit? : Bytes → Option Nat
  | [a, b, c, d] => do
    let a ← hexDigit? a
    let b ← hexDigit? b
    let c ← hexDigit? c
    let d ← hexDigit? d
    return a * 4096 + b * 256 + c * 16 + d
  | _ => none

def hexUnit (bs : Bytes) : Except Stop Nat :=
  if bs.length < 4 then .error (.behind .endInString [])
  else match hexUnit? (bs.take 4) with
    | some n => .ok n
    | none => .error (.behind .invalidEscape (bs.drop 4))

def isHighSurrogate (n : Nat) : Bool := 0xD800 ≤ n && n < 0xDC00

def isLowSurrogate (n : Nat) : Bool := 0xDC00 ≤ n && n < 0xE000

/-- The second half of a surrogate pair, after the four digits of the first. -/
def lowSurrogate (bs : Bytes) : Except Stop Nat :=
  match bs with
  | [] => .error (.behind .endInString [])
  | b :: r =>
    if b ≠ 0x5C then .error (.behind .unpairedSurrogate r)
    else match r with
      | [] => .error (.behind .endInString [])
      | u :: r =>
        if u ≠ 0x75 then .error (.behind .unpairedSurrogate r)
        else do
          let n ← hexUnit r
          if isLowSurrogate n then return n
          else throw (.behind .loneSurrogate (r.drop 4))

/-- The character of a `\u` escape, and how many bytes after the `u` it takes. -/
def unicodeEscape (bs : Bytes) : Except Stop (Char × Nat) := do
  let n ← hexUnit bs
  if isLowSurrogate n then throw (.behind .loneSurrogate (bs.drop 4))
  else if isHighSurrogate n then
    let m ← lowSurrogate (bs.drop 4)
    return (Char.ofNat (0x10000 + (n - 0xD800) * 1024 + (m - 0xDC00)), 10)
  else return (Char.ofNat n, 4)

def letterEscape? (b : UInt8) : Option UInt8 :=
  if b = 0x22 || b = 0x5C || b = 0x2F then some b
  else if b = 0x62 then some 0x08
  else if b = 0x66 then some 0x0C
  else if b = 0x6E then some 0x0A
  else if b = 0x72 then some 0x0D
  else if b = 0x74 then some 0x09
  else none

/-- The bytes that an escape stands for, and how many bytes after the backslash it takes. -/
def escape (bs : Bytes) : Except Stop (Bytes × Nat) :=
  match bs with
  | [] => .error (.behind .endInString [])
  | b :: r =>
    match letterEscape? b with
    | some c => .ok ([c], 1)
    | none =>
      if b = 0x75 then do
        let (c, n) ← unicodeEscape r
        return (Utf8.encodeChar c, n + 1)
      else .error (.behind .invalidEscape r)

/-- The bytes up to the closing quote with the escapes resolved, and what follows the quote. -/
def stringBytes (bs : Bytes) : Except Stop (Bytes × Bytes) :=
  match bs with
  | [] => .error (.behind .endInString [])
  | b :: r =>
    if b = 0x22 then .ok ([], r)
    else if b = 0x5C then
      match escape r with
      | .error e => .error e
      | .ok (c, n) =>
        match stringBytes (r.drop n) with
        | .error e => .error e
        | .ok (s, r) => .ok (c ++ s, r)
    else if b < 0x20 then .error (.behind .controlCharacter r)
    else
      match stringBytes r with
      | .error e => .error e
      | .ok (s, r) => .ok (b :: s, r)
termination_by bs.length
decreasing_by all_goals simp; try omega

def string (bs : Bytes) : Except Stop (String × Bytes) := do
  let (s, r) ← stringBytes bs
  match Utf8.decode? s with
  | some text => return (text, r)
  | none => throw ⟨.invalidText, r.length + (s.length - Utf8.validLength s)⟩

/-- Cuts a run of digits where its value first passes `limit`. -/
def overflowRest? (limit : Nat) : Nat → Bytes → Option Bytes
  | _, [] => none
  | n, d :: r =>
    let n := n * 10 + (d.toNat - 0x30)
    if limit < n then some r else overflowRest? limit n r

/-- The sign, if any, and the digits of an exponent, after the letter. An exponent past 2^31 - 1
is refused at the digit that takes it there, unless the number is zero or the sign is minus. -/
def exponent (zero : Bool) (bs : Bytes) : Except Stop (Int × Bytes) :=
  let (negative, bs) := match bs with
    | b :: r => if b = 0x2D then (true, r) else if b = 0x2B then (false, r) else (false, bs)
    | [] => (false, bs)
  match bs with
  | [] => .error (.behind .endInValue [])
  | b :: r =>
    if !isDigit b then .error (.behind .invalidNumber r)
    else
      let ds := bs.takeWhile isDigit
      let rest := bs.dropWhile isDigit
      let n : Int := digitsValue ds
      match overflowRest? (Number.words31 - 1) 0 ds with
      | some more =>
        if zero || negative then .ok (if negative then -n else n, rest)
        else .error ⟨.numberOutOfRange, more.length + rest.length⟩
      | none => .ok (if negative then -n else n, rest)

def fraction (bs : Bytes) : Except Stop (Bytes × Bytes) :=
  let ds := bs.takeWhile isDigit
  let rest := bs.dropWhile isDigit
  if ds.isEmpty then
    .error (if rest.isEmpty then .next .endInValue rest else .next .invalidNumber rest)
  else .ok (ds, rest)

/-- The digits before the decimal point: a leading zero stands alone. -/
def integerDigits (bs : Bytes) : Except Stop (Bytes × Bytes) :=
  match bs with
  | [] => .error (.behind .endInValue [])
  | b :: r =>
    if b = 0x30 then
      match r with
      | c :: _ => if isDigit c then .error (.next .invalidNumber r) else .ok ([b], r)
      | [] => .ok ([b], r)
    else if isDigit b then .ok (bs.takeWhile isDigit, bs.dropWhile isDigit)
    else .error (.behind .invalidNumber r)

/-- Appends decimal digits to a number as long as it has 64 bits, and gives the digits that are
left. -/
def gather (n : Nat) : Bytes → Nat × Bytes
  | [] => (n, [])
  | d :: r =>
    let m := n * 10 + (d.toNat - 0x30)
    if m < Number.words64 then gather m r else (n, d :: r)

/-- The first digits of a number, as many as a word of 64 bits holds. Digits that are left before
the point count as a power of ten; those that are left behind it are dropped. -/
def firstDigits (whole fraction : Bytes) : Decimal :=
  let (n, more) := gather 0 whole
  let (n, rest) := gather n fraction
  ⟨n, more.length - ((fraction.length - rest.length : Nat) : Int)⟩

/-- How digits become a double: what is kept of those before and behind the point, and how that is
rounded. -/
structure Rounding where
  keep : Bytes → Bytes → Decimal
  round : Bool → Decimal → Option Binary64

def Rounding.quick : Rounding := ⟨firstDigits, Binary64.quick⟩

section

variable (R : Rounding)

def real (negative : Bool) (d : Decimal) (rest : Bytes) : Except Stop (Number × Bytes) :=
  match R.round negative d with
  | some x => .ok (.real x, rest)
  | none => .error (.behind .numberOutOfRange rest)

/-- An integer in the range of a signed or of an unsigned 64 bit word is kept exactly; any other,
and a negative zero, is a double. -/
def integer (negative : Bool) (ds rest : Bytes) : Except Stop (Number × Bytes) :=
  let n := digitsValue ds
  if negative then
    if 0 < n && n ≤ Number.words63 then .ok (.integer (-n), rest)
    else real R true (R.keep ds []) rest
  else if n < Number.words64 then .ok (.integer n, rest)
  else real R false (R.keep ds []) rest

def isExponentMark (b : UInt8) : Bool := b == 0x65 || b == 0x45

def scaled (negative : Bool) (d : Decimal) (bs : Bytes) : Except Stop (Number × Bytes) :=
  match bs with
  | [] => real R negative d bs
  | b :: r =>
    if isExponentMark b then do
      let (e, rest) ← exponent (d.digits == 0) r
      real R negative ⟨d.digits, d.exponent + e⟩ rest
    else real R negative d bs

def number (negative : Bool) (bs : Bytes) : Except Stop (Number × Bytes) := do
  let (ds, rest) ← integerDigits bs
  match rest with
  | [] => integer R negative ds rest
  | b :: r =>
    if b = 0x2E then
      let (fs, rest) ← fraction r
      scaled R negative (R.keep ds fs) rest
    else if isExponentMark b then scaled R negative (R.keep ds []) rest
    else integer R negative ds rest

end

/-- Takes something from the front of the bytes, and gives what is left. -/
abbrev Scan (α : Type) := Bytes → Except Stop (α × Bytes)

def word (value : Value) : Bytes → Bytes → Except Stop (Value × Bytes)
  | [], bs => .ok (value, bs)
  | _ :: _, [] => .error (.behind .endInValue [])
  | w :: ws, b :: r => if b = w then word value ws r else .error (.behind .expectedWord r)

/-- The items of an array after the first, and the closing bracket. The fuel bounds their
number. -/
def items (item : Scan Value) : Nat → Scan (List Value)
  | 0, bs => .error (.next .endInList bs)
  | fuel + 1, bs =>
    match skipSpace bs with
    | [] => .error (.next .endInList [])
    | b :: r =>
      if b = 0x5D then .ok ([], r)
      else if b ≠ 0x2C then .error (.next .expectedCommaOrBracket (b :: r))
      else match skipSpace r with
        | [] => .error (.next .endInValue [])
        | c :: s =>
          if c = 0x5D then .error (.next .trailingComma (c :: s))
          else do
            let (v, rest) ← item (c :: s)
            let (vs, rest) ← items item fuel rest
            return (v :: vs, rest)

def array (item : Scan Value) (bs : Bytes) : Except Stop (Value × Bytes) :=
  match skipSpace bs with
  | [] => .error (.next .endInList [])
  | b :: r =>
    if b = 0x5D then .ok (.array [], r)
    else do
      let (v, rest) ← item (b :: r)
      let (vs, rest) ← items item rest.length rest
      return (.array (v :: vs), rest)

def member (item : Scan Value) (bs : Bytes) : Except Stop ((String × Value) × Bytes) :=
  match bs with
  | [] => .error (.next .endInValue [])
  | b :: r =>
    if b ≠ 0x22 then .error (.next .keyNotString (b :: r))
    else do
      let (k, rest) ← string r
      match skipSpace rest with
      | [] => throw (.next .endInObject [])
      | c :: s =>
        if c ≠ 0x3A then throw (.next .expectedColon (c :: s))
        else
          let (v, rest) ← item s
          return ((k, v), rest)

def members (item : Scan Value) : Nat → Scan Members
  | 0, bs => .error (.next .endInObject bs)
  | fuel + 1, bs =>
    match skipSpace bs with
    | [] => .error (.next .endInObject [])
    | b :: r =>
      if b = 0x7D then .ok ([], r)
      else if b ≠ 0x2C then .error (.next .expectedCommaOrBrace (b :: r))
      else match skipSpace r with
        | [] => .error (.next .endInValue [])
        | c :: s =>
          if c = 0x7D then .error (.next .trailingComma (c :: s))
          else do
            let (m, rest) ← member item (c :: s)
            let (ms, rest) ← members item fuel rest
            return (m :: ms, rest)

def object (item : Scan Value) (bs : Bytes) : Except Stop (Value × Bytes) :=
  match skipSpace bs with
  | [] => .error (.next .endInObject [])
  | b :: r =>
    if b = 0x7D then .ok (.object [], r)
    else do
      let (m, rest) ← member item (b :: r)
      let (ms, rest) ← members item rest.length rest
      return (.object (m :: ms), rest)

/-- A value that nests at most `depth` arrays and objects. -/
def value (R : Rounding) (depth : Nat) (bs : Bytes) : Except Stop (Value × Bytes) :=
  match skipSpace bs with
  | [] => .error (.next .endInValue [])
  | b :: r =>
    if b = 0x6E then word .null [0x75, 0x6C, 0x6C] r
    else if b = 0x74 then word (.bool true) [0x72, 0x75, 0x65] r
    else if b = 0x66 then word (.bool false) [0x61, 0x6C, 0x73, 0x65] r
    else if b = 0x22 then (string r).map fun (s, rest) => (.string s, rest)
    else if b = 0x2D then (number R true r).map fun (n, rest) => (.number n, rest)
    else if isDigit b then (number R false (b :: r)).map fun (n, rest) => (.number n, rest)
    else if b = 0x5B || b = 0x7B then
      match depth with
      | 0 => .error (.next .tooDeep (b :: r))
      | depth + 1 => if b = 0x5B then array (value R depth) r else object (value R depth) r
    else .error (.next .expectedValue (b :: r))

def maxDepth : Nat := 127

def document (R : Rounding) (text : Bytes) : Except Stop Value := do
  let (v, rest) ← value R maxDepth text
  match skipSpace rest with
  | [] => return v
  | b :: r => throw (.next .trailingCharacters (b :: r))

def read (text : Bytes) : Except ReadError Value :=
  (document .quick text).mapError (·.locate text)

end DumpWorkbench.Json
