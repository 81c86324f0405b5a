import DumpWorkbench.Number
import DumpWorkbench.Shell.Octets

namespace DumpWorkbench.Shell

inductive Operator where
  | mul | div | rem | add | sub | left | right
  | less | atMost | more | atLeast | equal | differs
  | bitAnd | bitXor | bitOr
deriving DecidableEq, Repr

inductive Sum where
  | number (n : Int)
  | variable (name : String)
  | negative (x : Sum)
  | complement (x : Sum)
  | isZero (x : Sum)
  | operation (o : Operator) (x y : Sum)
  | both (x y : Sum)
  | either (x y : Sum)
  | choice (x y z : Sum)
  | assign (name : String) (o : Option Operator) (x : Sum)
deriving Repr

inductive SumFault where
  | expecting (what : String)
  | zeroDivision
  | noNumber (text : String)
deriving DecidableEq, Repr

def SumFault.message (text : String) : SumFault → String
  | .expecting what => "arithmetic expression: expecting " ++ what ++ ": \"" ++ text ++ "\""
  | .zeroDivision => "arithmetic expression: division by zero: \"" ++ text ++ "\""
  | .noNumber x => "Illegal number: " ++ x

def wrap (n : Int) : Int := (n + Number.words63) % Number.words64 - Number.words63

def clamp (n : Int) : Int :=
  if Number.words63 ≤ n then Number.words63 - 1
  else if n < -Number.words63 then -Number.words63
  else n

def digitValue? (c : Char) : Option Nat :=
  if c.isDigit then some (c.toNat - 48)
  else if 'a' ≤ c ∧ c ≤ 'f' then some (c.toNat - 87)
  else if 'A' ≤ c ∧ c ≤ 'F' then some (c.toNat - 55)
  else none

def digitsOf (base : Nat) (cs : List Char) : List Char × List Char :=
  let ds := cs.takeWhile fun c => (digitValue? c).any (· < base)
  (ds, cs.drop ds.length)

def valueOf (base : Nat) (ds : List Char) : Nat :=
  ds.foldl (fun n d => n * base + (digitValue? d).getD 0) 0

/-- A number without a sign in front: hexadecimal behind `0x`, octal behind `0`, or decimal. -/
def unsigned? (cs : List Char) : Option (Nat × List Char) :=
  let other : Option (Nat × List Char) :=
    match cs with
    | '0' :: x :: r =>
      if (x = 'x' ∨ x = 'X') ∧ !(digitsOf 16 r).1.isEmpty then
        some (valueOf 16 (digitsOf 16 r).1, (digitsOf 16 r).2)
      else none
    | _ => none
  match other with
  | some x => some x
  | none =>
    let base := if cs.head? = some '0' then 8 else 10
    let (ds, rest) := digitsOf base cs
    if ds.isEmpty then none else some (valueOf base ds, rest)

def signed? (decimal : Bool) (text : String) : Option Int :=
  let cs := text.toList.dropWhile isSpaceChar
  let (negative, cs) := match cs with
    | '-' :: r => (true, r)
    | '+' :: r => (false, r)
    | _ => (false, cs)
  let found := if decimal then
      let (ds, rest) := digitsOf 10 cs
      if ds.isEmpty then none else some (valueOf 10 ds, rest)
    else unsigned? cs
  match found with
  | none => none
  | some (n, rest) =>
    if rest.all isSpaceChar then some (if negative then -(n : Int) else n) else none

def skipSpace (cs : List Char) : List Char := cs.dropWhile isSpaceChar

/-- The operators of each precedence, the strongest first; the longer of two comes first. -/
def precedences : List (List (String × Operator)) :=
  [[("*", .mul), ("/", .div), ("%", .rem)],
   [("+", .add), ("-", .sub)],
   [("<<", .left), (">>", .right)],
   [("<=", .atMost), (">=", .atLeast), ("<", .less), (">", .more)],
   [("==", .equal), ("!=", .differs)],
   [("&", .bitAnd)],
   [("^", .bitXor)],
   [("|", .bitOr)]]

def marks : List String :=
  ["<<=", ">>=", "<<", ">>", "<=", ">=", "==", "!=", "&&", "||", "+=", "-=", "*=", "/=", "%=",
    "&=", "^=", "|=", "=", "<", ">", "+", "-", "*", "/", "%", "&", "^", "|", "?", ":"]

def mark? (cs : List Char) : Option (String × List Char) :=
  let cs := skipSpace cs
  (marks.find? (·.toList.isPrefixOf cs)).map fun m => (m, cs.drop m.length)

def assignment? (m : String) : Option (Option Operator) :=
  match m with
  | "=" => some none
  | "+=" => some (some .add)
  | "-=" => some (some .sub)
  | "*=" => some (some .mul)
  | "/=" => some (some .div)
  | "%=" => some (some .rem)
  | "<<=" => some (some .left)
  | ">>=" => some (some .right)
  | "&=" => some (some .bitAnd)
  | "^=" => some (some .bitXor)
  | "|=" => some (some .bitOr)
  | _ => none

mutual

def assigned : Nat → List Char → Except SumFault (Sum × List Char)
  | 0, _ => .error (.expecting "primary")
  | fuel + 1, cs =>
    let cs := skipSpace cs
    let name := cs.takeWhile isNameChar
    let target :=
      if cs.head?.any isNameStart then
        match mark? (cs.drop name.length) with
        | some (m, rest) => (assignment? m).map fun o => (o, rest)
        | none => none
      else none
    match target with
    | some (o, rest) => do
      let (x, rest) ← assigned fuel rest
      return (.assign (String.ofList name) o x, rest)
    | none => chosen fuel cs

def chosen : Nat → List Char → Except SumFault (Sum × List Char)
  | 0, _ => .error (.expecting "primary")
  | fuel + 1, cs => do
    let (x, rest) ← alternative fuel cs
    match mark? rest with
    | some ("?", rest) =>
      let (y, rest) ← assigned fuel rest
      match mark? rest with
      | some (":", rest) =>
        let (z, rest) ← chosen fuel rest
        return (.choice x y z, rest)
      | _ => .error (.expecting "':'")
    | _ => return (x, rest)

def alternative : Nat → List Char → Except SumFault (Sum × List Char)
  | 0, _ => .error (.expecting "primary")
  | fuel + 1, cs => do
    let (x, rest) ← conjunction fuel cs
    match mark? rest with
    | some ("||", rest) =>
      let (y, rest) ← alternative fuel rest
      return (.either x y, rest)
    | _ => return (x, rest)

def conjunction : Nat → List Char → Except SumFault (Sum × List Char)
  | 0, _ => .error (.expecting "primary")
  | fuel + 1, cs => do
    let (x, rest) ← level fuel precedences.length cs
    match mark? rest with
    | some ("&&", rest) =>
      let (y, rest) ← conjunction fuel rest
      return (.both x y, rest)
    | _ => return (x, rest)

def level : Nat → Nat → List Char → Except SumFault (Sum × List Char)
  | 0, _, _ => .error (.expecting "primary")
  | fuel + 1, 0, cs => primary fuel cs
  | fuel + 1, n + 1, cs => do
    let (x, rest) ← level fuel n cs
    levelRest fuel n x rest

def levelRest : Nat → Nat → Sum → List Char → Except SumFault (Sum × List Char)
  | 0, _, _, _ => .error (.expecting "primary")
  | fuel + 1, n, x, cs =>
    match mark? cs with
    | none => .ok (x, cs)
    | some (m, rest) =>
      match (precedences.getD n []).lookup m with
      | none => .ok (x, cs)
      | some o => do
        let (y, rest) ← level fuel n rest
        levelRest fuel n (.operation o x y) rest

def primary : Nat → List Char → Except SumFault (Sum × List Char)
  | 0, _ => .error (.expecting "primary")
  | fuel + 1, cs =>
    match skipSpace cs with
    | '(' :: r => do
      let (x, rest) ← assigned fuel r
      match skipSpace rest with
      | ')' :: rest => return (x, rest)
      | _ => .error (.expecting "')'")
    | '-' :: r => do
      let (x, rest) ← primary fuel r
      return (.negative x, rest)
    | '+' :: r => primary fuel r
    | '~' :: r => do
      let (x, rest) ← primary fuel r
      return (.complement x, rest)
    | '!' :: r =>
      if r.head? = some '=' then .error (.expecting "primary")
      else do
        let (x, rest) ← primary fuel r
        return (.isZero x, rest)
    | cs =>
      let name := cs.takeWhile isNameChar
      if cs.head?.any isNameStart then
        .ok (.variable (String.ofList name), cs.drop name.length)
      else match unsigned? cs with
        | some (n, rest) => .ok (.number (clamp n), rest)
        | none => .error (.expecting "primary")

end

def Sum.read (text : String) : Except SumFault Sum := do
  let cs := text.toList
  let (x, rest) ← assigned (24 * cs.length + 48) cs
  if (skipSpace rest).isEmpty then return x else .error (.expecting "EOF")

def truth (b : Bool) : Int := if b then 1 else 0

def bits (n : Int) : Nat := (n % Number.words64).toNat

def Operator.apply (o : Operator) (x y : Int) : Except SumFault Int :=
  match o with
  | .mul => .ok (wrap (x * y))
  | .div => if y = 0 then .error .zeroDivision else .ok (wrap (x.tdiv y))
  | .rem => if y = 0 then .error .zeroDivision else .ok (x.tmod y)
  | .add => .ok (wrap (x + y))
  | .sub => .ok (wrap (x - y))
  | .left => .ok (wrap (x * Number.power 2 (bits y % 64)))
  | .right => .ok (x / Number.power 2 (bits y % 64))
  | .less => .ok (truth (x < y))
  | .atMost => .ok (truth (x ≤ y))
  | .more => .ok (truth (y < x))
  | .atLeast => .ok (truth (y ≤ x))
  | .equal => .ok (truth (x = y))
  | .differs => .ok (truth (x ≠ y))
  | .bitAnd => .ok (wrap (bits x &&& bits y))
  | .bitXor => .ok (wrap (bits x ^^^ bits y))
  | .bitOr => .ok (wrap (bits x ||| bits y))

/-- Variables that were set, the latest first. -/
abbrev Changes := List (String × Int)

/-- The result, and the variables that were set on the way. `value` gives the text of the others. -/
def Sum.evaluate (value : String → Option String) (set : Changes) :
    Sum → Except SumFault (Int × Changes)
  | .number n => .ok (n, set)
  | .variable name => look name
  | .negative x => do
    let (n, set) ← x.evaluate value set
    return (wrap (-n), set)
  | .complement x => do
    let (n, set) ← x.evaluate value set
    return (-n - 1, set)
  | .isZero x => do
    let (n, set) ← x.evaluate value set
    return (truth (n = 0), set)
  | .operation o x y => do
    let (m, set) ← x.evaluate value set
    let (n, set) ← y.evaluate value set
    return (← o.apply m n, set)
  | .both x y => do
    let (m, set) ← x.evaluate value set
    if m = 0 then return (0, set)
    let (n, set) ← y.evaluate value set
    return (truth (n ≠ 0), set)
  | .either x y => do
    let (m, set) ← x.evaluate value set
    if m ≠ 0 then return (1, set)
    let (n, set) ← y.evaluate value set
    return (truth (n ≠ 0), set)
  | .choice x y z => do
    let (m, set) ← x.evaluate value set
    if m ≠ 0 then y.evaluate value set else z.evaluate value set
  | .assign name o x => do
    let (n, set) ← x.evaluate value set
    match o with
    | none => return (n, (name, n) :: set)
    | some o =>
      let (m, _) ← look name
      let n ← o.apply m n
      return (n, (name, n) :: set)
where
  look (name : String) : Except SumFault (Int × Changes) :=
    match set.lookup name with
    | some n => .ok (n, set)
    | none =>
      match value name with
      | none | some "" => .ok (0, set)
      | some text =>
        match signed? false text with
        | some n => .ok (clamp n, set)
        | none => .error (.noNumber text)

end DumpWorkbench.Shell
