namespace DumpWorkbench

abbrev Bytes := List UInt8

namespace Utf8

def tailByte (n : Nat) : UInt8 := UInt8.ofNat (0x80 + n % 64)

def encodeChar (c : Char) : Bytes :=
  let n := c.toNat
  if n < 0x80 then [UInt8.ofNat n]
  else if n < 0x800 then [UInt8.ofNat (0xC0 + n / 64), tailByte n]
  else if n < 0x10000 then [UInt8.ofNat (0xE0 + n / 4096), tailByte (n / 64), tailByte n]
  else [UInt8.ofNat (0xF0 + n / 262144), tailByte (n / 4096), tailByte (n / 64), tailByte n]

def encodeChars (cs : List Char) : Bytes := cs.flatMap encodeChar

def encode (s : String) : Bytes := encodeChars s.toList

def isTail (b : UInt8) : Bool := 0x80 ≤ b && b < 0xC0

/-- Whether `b` may follow the leading byte `a`: overlong forms, surrogates and values past
U+10FFFF are ruled out here. -/
def isSecond (a b : UInt8) : Bool :=
  if a = 0xE0 then 0xA0 ≤ b && b < 0xC0
  else if a = 0xED then 0x80 ≤ b && b < 0xA0
  else if a = 0xF0 then 0x90 ≤ b && b < 0xC0
  else if a = 0xF4 then 0x80 ≤ b && b < 0x90
  else 0xC2 ≤ a && a < 0xF5 && isTail b

/-- The first unit of `a :: r`, and how many bytes of `r` it takes. -/
def head (a : UInt8) (r : Bytes) : Option Char × Nat :=
  if a < 0x80 then (some (Char.ofNat a.toNat), 0)
  else match r with
    | [] => (none, 0)
    | b :: r =>
      if !isSecond a b then (none, 0)
      else if a < 0xE0 then
        (some (Char.ofNat ((a.toNat - 0xC0) * 64 + (b.toNat - 0x80))), 1)
      else match r with
        | [] => (none, 1)
        | c :: r =>
          if !isTail c then (none, 1)
          else if a < 0xF0 then
            (some (Char.ofNat
              ((a.toNat - 0xE0) * 4096 + (b.toNat - 0x80) * 64 + (c.toNat - 0x80))), 2)
          else match r with
            | [] => (none, 2)
            | d :: _ =>
              if !isTail d then (none, 2)
              else
                (some (Char.ofNat ((a.toNat - 0xF0) * 262144 + (b.toNat - 0x80) * 4096
                  + (c.toNat - 0x80) * 64 + (d.toNat - 0x80))), 3)

/-- The units of a byte string; `none` stands for one that is no character. -/
def units : Bytes → List (Option Char)
  | [] => []
  | a :: r => (head a r).1 :: units (r.drop (head a r).2)
termination_by bs => bs.length
decreasing_by simp only [List.length_drop, List.length_cons]; omega

def decodeChars? (bs : Bytes) : Option (List Char) := (units bs).mapM id

def decode? (bs : Bytes) : Option String := (decodeChars? bs).map String.ofList

/-- The text of any bytes, one U+FFFD for each unit that is no character. -/
def decodeLossy (bs : Bytes) : String :=
  String.ofList ((units bs).map (·.getD '\uFFFD'))

/-- How many bytes precede the first unit that is no character. -/
def validLength : Bytes → Nat
  | [] => 0
  | a :: r =>
    match head a r with
    | (some _, n) => n + 1 + validLength (r.drop n)
    | (none, _) => 0
termination_by bs => bs.length
decreasing_by simp only [List.length_drop, List.length_cons]; omega

end Utf8
end DumpWorkbench
