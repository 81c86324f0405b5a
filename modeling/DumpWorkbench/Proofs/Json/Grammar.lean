import DumpWorkbench.Proofs.Decimal.Range
import DumpWorkbench.Proofs.Json.Digits

namespace DumpWorkbench.Json

open Utf8 (encodeChars)

inductive HexDigit : UInt8 → Nat → Prop
  | digit {n : Nat} (h : n < 10) : HexDigit (UInt8.ofNat (0x30 + n)) n
  | upper {n : Nat} (h : n < 6) : HexDigit (UInt8.ofNat (0x41 + n)) (10 + n)
  | lower {n : Nat} (h : n < 6) : HexDigit (UInt8.ofNat (0x61 + n)) (10 + n)

inductive HexUnit : Bytes → Nat → Prop
  | mk {a b c d : UInt8} {i j k l : Nat} (ha : HexDigit a i) (hb : HexDigit b j)
      (hc : HexDigit c k) (hd : HexDigit d l) :
      HexUnit [a, b, c, d] (((i * 16 + j) * 16 + k) * 16 + l)

/-- The letters of escapes, and what they stand for. -/
def letters : List (UInt8 × Char) :=
  [(0x22, '"'), (0x5C, '\\'), (0x2F, '/'), (0x62, '\x08'), (0x66, '\x0C'), (0x6E, '\n'),
    (0x72, '\r'), (0x74, '\t')]

/-- What may stand between quotes for a character: the character itself in UTF-8 unless it is a
quote, a backslash or a control character, or an escape. A surrogate stands in a pair only. -/
inductive Spells : Char → Bytes → Prop
  | plain {c : Char} (hquote : c ≠ '"') (hslash : c ≠ '\\') (hcontrol : 0x20 ≤ c.toNat) :
      Spells c (String.utf8EncodeChar c)
  | letter {b : UInt8} {c : Char} (h : (b, c) ∈ letters) : Spells c [0x5C, b]
  | unit {ds : Bytes} {n : Nat} (hds : HexUnit ds n) (hn : n < 0xD800 ∨ 0xE000 ≤ n) :
      Spells (Char.ofNat n) (0x5C :: 0x75 :: ds)
  | pair {ds es : Bytes} {n m : Nat} (hds : HexUnit ds n) (hn : 0xD800 ≤ n ∧ n < 0xDC00)
      (hes : HexUnit es m) (hm : 0xDC00 ≤ m ∧ m < 0xE000) :
      Spells (Char.ofNat (0x10000 + (n - 0xD800) * 0x400 + (m - 0xDC00)))
        (0x5C :: 0x75 :: ds ++ 0x5C :: 0x75 :: es)

def Quoted (s : String) (bs : Bytes) : Prop :=
  ∃ units : List Bytes, List.Forall₂ Spells s.toList units ∧ bs = 0x22 :: units.flatten ++ [0x22]

inductive Sign where
  | none
  | plus
  | minus
deriving DecidableEq

def Sign.chars : Sign → List Char
  | .none => []
  | .plus => ['+']
  | .minus => ['-']

/-- The exponent of a number as it is spelled. -/
structure Exponent where
  mark : Char
  sign : Sign
  digits : List Char
  mark_eq : mark = 'e' ∨ mark = 'E'
  isDigit : ∀ c ∈ digits, c.isDigit = true
  ne_nil : digits ≠ []

namespace Exponent

def chars (x : Exponent) : List Char := x.mark :: (x.sign.chars ++ x.digits)

def value (x : Exponent) : Int :=
  if x.sign = .minus then -Nat.ofDigitChars 10 x.digits 0 else Nat.ofDigitChars 10 x.digits 0

end Exponent

/-- A number as it is spelled: no zero before another digit, and digits on both sides of a point. -/
structure Numeral where
  negative : Bool
  whole : List Char
  fraction : List Char
  exponent : Option Exponent
  leading : Leading whole
  isDigit : ∀ c ∈ fraction, c.isDigit = true

namespace Numeral

def unsigned (x : Numeral) : List Char :=
  x.whole ++ (if x.fraction = [] then [] else '.' :: x.fraction) ++
    (x.exponent.map Exponent.chars).getD []

def chars (x : Numeral) : List Char := (if x.negative then ['-'] else []) ++ x.unsigned

def significand (x : Numeral) : Nat := Nat.ofDigitChars 10 (x.whole ++ x.fraction) 0

def power (x : Numeral) : Int := (x.exponent.map Exponent.value).getD 0

def decimal (x : Numeral) : Decimal := ⟨x.significand, x.power - x.fraction.length⟩

/-- A numeral without point and exponent, of 64 bits with a sign or without. A zero with a minus
sign is none. -/
def IsInteger (x : Numeral) : Prop :=
  x.fraction = [] ∧ x.exponent = none ∧
    if x.negative then 0 < x.significand ∧ x.significand ≤ 2 ^ 63 else x.significand < 2 ^ 64

instance (x : Numeral) : Decidable x.IsInteger :=
  inferInstanceAs (Decidable (x.fraction = [] ∧ x.exponent = none ∧
    if x.negative then 0 < x.significand ∧ x.significand ≤ 2 ^ 63 else x.significand < 2 ^ 64))

/-- What is kept of the digits, with the power of ten for their place. -/
def kept (R : Rounding) (x : Numeral) : Decimal :=
  let d := R.keep (encodeChars x.whole) (encodeChars x.fraction)
  ⟨d.digits, d.exponent + x.power⟩

/-- The number that is spelled: an integer, or what the decimal is rounded to. An exponent has 31
bits, which one below zero and one of the number zero need not. -/
inductive Denotes (R : Rounding) (x : Numeral) : Number → Prop
  | integer (h : x.IsInteger) :
    Denotes R x (.integer (if x.negative then -x.significand else x.significand))
  | real {y : Binary64} (h : ¬ x.IsInteger)
      (hpower : (x.kept R).digits ≠ 0 → x.power < 2 ^ 31)
      (hy : R.round x.negative (x.kept R) = some y) : Denotes R x (.real y)

end Numeral

section

variable {α : Type} {P : α → Bytes → Prop}

def Blank (bs : Bytes) : Prop := ∀ b ∈ bs, b = 0x20 ∨ b = 0x09 ∨ b = 0x0A ∨ b = 0x0D

/-- With blanks on both sides. -/
inductive Padded (P : α → Bytes → Prop) : α → Bytes → Prop
  | mk {x : α} {s t u : Bytes} (hs : Blank s) (h : P x t) (hu : Blank u) :
      Padded P x (s ++ t ++ u)

/-- One or more, a comma between two of them. -/
inductive Separated (P : α → Bytes → Prop) : List α → Bytes → Prop
  | one {x : α} {s : Bytes} (h : Padded P x s) : Separated P [x] s
  | comma {x : α} {xs : List α} {s t : Bytes} (h : Padded P x s) (rest : Separated P xs t) :
      Separated P (x :: xs) (s ++ 0x2C :: t)

/-- What stands between two brackets or braces. -/
inductive Listed (P : α → Bytes → Prop) : List α → Bytes → Prop
  | none {s : Bytes} (h : Blank s) : Listed P [] s
  | some {xs : List α} {s : Bytes} (h : Separated P xs s) : Listed P xs s

inductive Member (P : Value → Bytes → Prop) : String × Value → Bytes → Prop
  | mk {key : String} {v : Value} {k s u t : Bytes} (hkey : Quoted key k) (hs : Blank s)
      (hu : Blank u) (h : P v t) : Member P (key, v) (k ++ s ++ 0x3A :: u ++ t)

inductive Leaf (A : Numeral → Number → Prop) : Value → Bytes → Prop
  | null : Leaf A .null (Utf8.encode "null")
  | true : Leaf A (.bool true) (Utf8.encode "true")
  | false : Leaf A (.bool false) (Utf8.encode "false")
  | number {x : Numeral} {n : Number} (h : A x n) : Leaf A (.number n) (encodeChars x.chars)
  | string {s : String} {bs : Bytes} (h : Quoted s bs) : Leaf A (.string s) bs

inductive Nested (P : Value → Bytes → Prop) : Value → Bytes → Prop
  | array {vs : List Value} {bs : Bytes} (h : Listed P vs bs) :
      Nested P (.array vs) (0x5B :: bs ++ [0x5D])
  | object {ms : Members} {bs : Bytes} (h : Listed (Member P) ms bs) :
      Nested P (.object ms) (0x7B :: bs ++ [0x7D])

/-- The texts of values that nest at most that deep. -/
def Text (A : Numeral → Number → Prop) : Nat → Value → Bytes → Prop
  | 0 => Leaf A
  | n + 1 => fun v bs => Leaf A v bs ∨ Nested (Text A n) v bs

/-- The texts that hold one value, with blanks around it, of at most 127 arrays and objects one in
the other. -/
def Document (A : Numeral → Number → Prop) (v : Value) (bs : Bytes) : Prop :=
  Padded (Text A 127) v bs

end

end DumpWorkbench.Json
