import DumpWorkbench.Text.Utf8

namespace DumpWorkbench.Text.Control

/-- Where a terminal stands in a control sequence. -/
inductive Place where
  | ground
  | escape
  | escapeMore
  | sequence
  | parameters
  | sequenceMore
  | sequenceIgnored
  | device
  | deviceParameters
  | deviceMore
  | deviceIgnored
  | deviceText
  | message
  | command
deriving DecidableEq, Repr

/-- What a terminal does with a byte. -/
inductive Effect where
  | nothing
  | show
  | execute
deriving DecidableEq, Repr

def isControl (b : UInt8) : Bool := b < 0x20

def isBetween (low high b : UInt8) : Bool := low ≤ b && b ≤ high

def isMore (b : UInt8) : Bool := isBetween 0x20 0x2F b

def isFinal (b : UInt8) : Bool := isBetween 0x40 0x7E b

def isDigitOrMark (b : UInt8) : Bool := isBetween 0x30 0x3B b

def isPrivate (b : UInt8) : Bool := isBetween 0x3C 0x3F b

def afterEscape (b : UInt8) : Place :=
  if isMore b then .escapeMore
  else if b = 0x5B then .sequence
  else if b = 0x5D then .command
  else if b = 0x50 then .device
  else if b = 0x58 ∨ b = 0x5E ∨ b = 0x5F then .message
  else if isBetween 0x30 0x7E b then .ground
  else .escape

/-- The place after a byte that neither starts a sequence nor breaks one off. -/
def next (p : Place) (b : UInt8) : Place :=
  match p with
  | .ground => .ground
  | .escape => afterEscape b
  | .escapeMore => if isBetween 0x30 0x7E b then .ground else p
  | .sequence =>
    if isFinal b then .ground
    else if isMore b then .sequenceMore
    else if isDigitOrMark b || isPrivate b then .parameters
    else p
  | .parameters =>
    if isFinal b then .ground
    else if isMore b then .sequenceMore
    else if isPrivate b then .sequenceIgnored
    else p
  | .sequenceMore =>
    if isFinal b then .ground
    else if isDigitOrMark b || isPrivate b then .sequenceIgnored
    else p
  | .sequenceIgnored => if isFinal b then .ground else p
  | .device =>
    if isFinal b then .deviceText
    else if isMore b then .deviceMore
    else if isDigitOrMark b || isPrivate b then .deviceParameters
    else p
  | .deviceParameters =>
    if isFinal b then .deviceText
    else if isMore b then .deviceMore
    else if isPrivate b then .deviceIgnored
    else p
  | .deviceMore =>
    if isFinal b then .deviceText
    else if isDigitOrMark b || isPrivate b then .deviceIgnored
    else p
  | .deviceIgnored | .deviceText | .message => if b = 0x9C then .ground else p
  | .command => if b = 0x07 then .ground else p

/-- Whether controls that stand inside of a sequence are obeyed. -/
def obeys : Place → Bool
  | .ground | .escape | .escapeMore | .sequence | .parameters | .sequenceMore
  | .sequenceIgnored => true
  | _ => false

/-- Bytes that break off a sequence or start one, wherever they stand. -/
def isBreak (b : UInt8) : Bool := b = 0x18 || b = 0x1A || b = 0x1B

def step (p : Place) (b : UInt8) : Place × Effect :=
  if isBreak b then if b = 0x1B then (.escape, .nothing) else (.ground, .execute)
  else if isControl b then (next p b, if obeys p then .execute else .nothing)
  else if p = .ground then
    (.ground, if isBetween 0x20 0x7E b ∨ isBetween 0xC2 0xF4 b then .show else .nothing)
  else (next p b, .nothing)

def isSpace (b : UInt8) : Bool := b = 0x20 || b = 0x0C || isBetween 0x09 0x0A b || b = 0x0D

def keeps (e : Effect) (b : UInt8) : Bool := e = .show || (e = .execute && isSpace b)

/-- What is left of a text: `shown` tells whether the byte before was kept. Then the bytes in the
middle of a character are kept too, and whatever is kept ends a sequence. -/
def stripFrom (shown : Bool) (p : Place) : Bytes → Bytes
  | [] => []
  | b :: r =>
    let (q, e) := step p b
    if keeps e b || (shown && Utf8.isTail b) then b :: stripFrom true .ground r
    else stripFrom false q r

def tailLength (b : UInt8) : Nat :=
  if b < 0xC2 then 0 else if b < 0xE0 then 1 else if b < 0xF0 then 2 else 3

/-- What is left of a text that is written to a stream: `shown` tells whether the byte before was
kept, and `tail` how many bytes of a character are still to come. White space inside of a sequence
is kept and does not end the sequence. -/
def stripStreamFrom (shown : Bool) (p : Place) (tail : Nat) : Bytes → Bytes
  | [] => []
  | b :: r =>
    if 0 < tail then b :: stripStreamFrom true .ground (tail - 1) r
    else
      let (q, e) := step (if shown then .ground else p) b
      let p := if shown && !isBreak b then p else q
      if keeps e b then
        b :: stripStreamFrom true (if 0 < tailLength b then .ground else p) (tailLength b) r
      else stripStreamFrom false p 0 r

def strip (text : String) : String := Utf8.decodeLossy (stripFrom false .ground (Utf8.encode text))

/-- What of a text reaches a stream that takes no control sequences. -/
def stripStream (text : String) : String :=
  Utf8.decodeLossy (stripStreamFrom false .ground 0 (Utf8.encode text))

end DumpWorkbench.Text.Control
