import DumpWorkbench.Shell.Calculation
import DumpWorkbench.Shell.Launcher.Process

namespace DumpWorkbench.Shell

variable {m : Type → Type} [Monad m] [Files m]

inductive Condition where
  | never
  | hasText (s : String)
  | isEmpty (s : String)
  | file (test : String) (name : String)
  | relation (r : String) (x y : String)
  | inverse (c : Condition)
  | both (c d : Condition)
  | either (c d : Condition)
deriving Repr

inductive Operand where
  | one
  | two
  | not
  | and
  | or
  | opening
  | closing
deriving DecidableEq, Repr

def fileTests : List String :=
  ["-r", "-w", "-x", "-e", "-f", "-d", "-c", "-b", "-p", "-u", "-g", "-k", "-s", "-t", "-h", "-O",
    "-G", "-L", "-S"]

def numberRelations : List String := ["-eq", "-ne", "-gt", "-ge", "-lt", "-le"]

def fileRelations : List String := ["-nt", "-ot", "-ef"]

def operand? (s : String) : Option Operand :=
  if s = "-z" ∨ s = "-n" ∨ fileTests.contains s then some .one
  else if ["=", "!=", "<", ">"].contains s ∨ numberRelations.contains s ∨ fileRelations.contains s
    then some .two
  else match s with
    | "!" => some .not
    | "-a" => some .and
    | "-o" => some .or
    | "(" => some .opening
    | ")" => some .closing
    | _ => none

def unary (operator x : String) : Condition :=
  match operator with
  | "-z" => .isEmpty x
  | "-n" => .hasText x
  | _ => .file operator x

/-- What the first of the arguments is to the command; an operator in the place of an operand is
one. -/
def leading? (args : List String) : Option Operand :=
  match args with
  | [] => none
  | s :: r =>
    match operand? s, r with
    | some .one, [] => none
    | some .one, [_] => some .one
    | some .one, x :: _ :: _ => if operand? x = some .two then none else some .one
    | some .opening, [] => none
    | o, _ => o

/-- A condition with the arguments from its last one on. -/
abbrev Reading := Except String (Condition × List String)

mutual

def Condition.alternatives : Nat → List String → Reading
  | 0, _ => .error "too many arguments"
  | fuel + 1, args => do
    let (c, args) ← alternativesOf fuel args
    if leading? (args.drop 1) = some .or then
      let (d, args) ← alternatives fuel (args.drop 2)
      return (.either c d, args)
    else return (c, args)

def Condition.alternativesOf : Nat → List String → Reading
  | 0, _ => .error "too many arguments"
  | fuel + 1, args => do
    let (c, args) ← negations fuel args
    if leading? (args.drop 1) = some .and then
      let (d, args) ← alternativesOf fuel (args.drop 2)
      return (.both c d, args)
    else return (c, args)

def Condition.negations : Nat → List String → Reading
  | 0, _ => .error "too many arguments"
  | fuel + 1, args => do
    if leading? args = some .not then
      if args.length = 1 then return (.inverse .never, args)
      let (c, args) ← negations fuel (args.drop 1)
      return (.inverse c, args)
    else single fuel args

def Condition.single : Nat → List String → Reading
  | 0, _ => .error "too many arguments"
  | _, [] => .ok (.never, [])
  | fuel + 1, s :: r =>
    match leading? (s :: r) with
    | some .opening => do
      if leading? r = some .closing then return (.never, r)
      let (c, args) ← alternatives fuel r
      if leading? (args.drop 1) = some .closing then return (c, args.drop 1)
      else .error "closing paren expected"
    | some .one =>
      match r with
      | [] => .error s!"{s}: argument expected"
      | x :: t => .ok (unary s x, x :: t)
    | _ =>
      match r, leading? r with
      | o :: t, some .two =>
        match t with
        | [] => .error s!"{o}: argument expected"
        | y :: t => .ok (.relation o s y, y :: t)
      | _, _ => .ok (.hasText s, s :: r)

end

def Condition.read : Bool → List String → Except String Condition
  | negative, args =>
    let whole (args : List String) : Except String Condition := do
      let (c, rest) ← alternatives (4 * args.length + 8) args
      match rest with
      | s :: _ :: _ => .error s!"{s}: unexpected operator"
      | _ => return if negative then .inverse c else c
    match args with
    | [] => .ok (if negative then .inverse .never else .never)
    | [x, o, y] =>
      if operand? o = some .two then
        .ok (if negative then .inverse (.relation o x y) else .relation o x y)
      else if x = "(" ∧ y = ")" then whole [o]
      else if x = "!" then read true [o, y]
      else whole args
    | [x, o, y, z] =>
      if x = "(" ∧ z = ")" then whole [o, y]
      else if x = "!" then read true [o, y, z]
      else whole args
    | _ => whole args
termination_by _ args => args.length

def isRelation (s : String) : Bool :=
  ["=", "!=", "=="].contains s || numberRelations.contains s || fileRelations.contains s

def isUnary (s : String) : Bool :=
  match s.toList with
  | ['-', _] => true
  | _ => false

namespace Condition.Program

def beyond (last : String) : Reading := .error s!"missing argument after {curly last}"

def single (args : List String) : Reading :=
  match args with
  | [] => .ok (.never, [])
  | x :: r => .ok (.hasText x, r)

def one (last : String) (args : List String) : Reading :=
  match args with
  | o :: r =>
    if o = "-z" ∨ o = "-n" ∨ (fileTests ++ ["-N"]).contains o then
      match r with
      | x :: t => .ok (unary o x, t)
      | [] => beyond last
    else .error s!"{curly o}: unary operator expected"
  | [] => beyond last

def pair (last : String) (args : List String) : Reading :=
  match args with
  | "!" :: r => (single r).map fun (c, t) => (.inverse c, t)
  | o :: _ => if isUnary o then one last args else beyond last
  | [] => beyond last

mutual

def counted (last : String) : Nat → Nat → List String → Reading
  | 0, _, _ => .error "too many arguments"
  | fuel + 1, n, args =>
    match n, args with
    | 1, _ => single args
    | 2, _ => pair last args
    | 3, x :: o :: y :: r =>
      if isRelation o then .ok (.relation o x y, r)
      else if x = "!" then (pair last (o :: y :: r)).map fun (c, t) => (.inverse c, t)
      else if x = "(" ∧ y = ")" then .ok (.hasText o, r)
      else if o = "-a" ∨ o = "-o" then alternatives last fuel args
      else .error s!"{curly o}: binary operator expected"
    | 4, x :: o :: y :: z :: r =>
      if x = "!" then
        (counted last fuel 3 (o :: y :: z :: r)).map fun (c, t) => (.inverse c, t)
      else if x = "(" ∧ z = ")" then (pair last [o, y]).map fun (c, _) => (c, r)
      else alternatives last fuel args
    | _, _ => alternatives last fuel args

def alternatives (last : String) : Nat → List String → Reading
  | 0, _ => .error "too many arguments"
  | fuel + 1, args => do
    let (c, rest) ← conjunction last fuel args
    match rest with
    | "-o" :: r =>
      let (d, rest) ← alternatives last fuel r
      return (.either c d, rest)
    | _ => return (c, rest)

def conjunction (last : String) : Nat → List String → Reading
  | 0, _ => .error "too many arguments"
  | fuel + 1, args => do
    let (c, rest) ← term last fuel args
    match rest with
    | "-a" :: r =>
      let (d, rest) ← conjunction last fuel r
      return (.both c d, rest)
    | _ => return (c, rest)

def term (last : String) : Nat → List String → Reading
  | 0, _ => .error "too many arguments"
  | fuel + 1, args =>
    match args with
    | [] => beyond last
    | "!" :: r => (term last fuel r).map fun (c, t) => (.inverse c, t)
    | "(" :: r =>
      if r.isEmpty then beyond last
      else
        let inner := (r.takeWhile (· ≠ ")")).length
        let n := if inner = r.length ∨ 4 < inner then r.length else inner
        match counted last fuel n r with
        | .error e => .error e
        | .ok (c, ")" :: t) => .ok (c, t)
        | .ok (_, []) => .error (curly ")" ++ " expected")
        | .ok (_, x :: _) => .error (curly ")" ++ " expected, found " ++ curly x)
    | x :: o :: y :: r =>
      if isRelation o then .ok (.relation o x y, r)
      else if isUnary x then one last args
      else .ok (.hasText x, o :: y :: r)
    | x :: r => if isUnary x then one last args else .ok (.hasText x, r)

end

def read (args : List String) : Except String Condition :=
  if args.isEmpty then .ok .never
  else do
    let (c, rest) ← counted (args.getLastD "") (8 * args.length + 16) args.length args
    match rest with
    | [] => return c
    | x :: _ => .error s!"extra argument {curly x}"

end Condition.Program

def compared (r : String) (o : Ordering) : Bool :=
  match r with
  | "-eq" => o == .eq
  | "-ne" => o != .eq
  | "-gt" => o == .gt
  | "-ge" => o != .lt
  | "-lt" => o == .lt
  | _ => o != .gt

def passes (test name : String) : Action m Bool := do
  let isDevice := (device? name).isSome
  let isProgram := (systemProgram? name).isSome
  match test with
  | "-e" | "-r" | "-w" | "-O" | "-G" => return isDevice || isProgram || (← fileExists name)
  | "-x" =>
    if isProgram || (← isDirectory name) then return true
    let p ← resolve name
    return ← (Files.isExecutable p : m Bool)
  | "-f" => return isProgram || (← isFile name)
  | "-d" => isDirectory name
  | "-c" => return isDevice
  | "-s" =>
    if ← isDirectory name then return true
    match ← readFile name with
    | .ok s => return s ≠ ""
    | .error _ => return false
  | _ => return false

def badNumber (program : Bool) (s : String) : String :=
  if program then s!"invalid integer {curly s}" else s!"Illegal number: {s}"

def integer (program : Bool) (s : String) : Except String Int :=
  match signed? true s with
  | some n =>
    if program || clamp n = n then .ok n else .error (badNumber program s)
  | none => .error (badNumber program s)

/-- Whether a condition holds, or what is wrong with it. Both sides of it are tried in any case by
the command and by the program. -/
def Condition.holds (program : Bool) : Condition → Action m (Except String Bool)
  | .never => return .ok false
  | .hasText s => return .ok (s ≠ "")
  | .isEmpty s => return .ok (s = "")
  | .file "-t" name => return (integer program name).map fun _ => false
  | .file test name => return .ok (← passes test name)
  | .relation r x y => do
    if numberRelations.contains r then
      return do return compared r (compare (← integer program x) (← integer program y))
    match r with
    | "=" | "==" => return .ok (x = y)
    | "!=" => return .ok (x ≠ y)
    | "<" => return .ok (x < y)
    | ">" => return .ok (y < x)
    | "-ef" =>
      let p ← resolve x
      let q ← resolve y
      return .ok (p.normalize = q.normalize && (← fileExists x))
    | "-nt" => return .ok (program && (← fileExists x) && !(← fileExists y))
    | _ => return .ok (program && !(← fileExists x) && (← fileExists y))
  | .inverse c => do return (← c.holds program).map (!·)
  | .both c d => do
    match ← c.holds program with
    | .error e => return .error e
    | .ok x => return (← d.holds program).map (x && ·)
  | .either c d => do
    match ← c.holds program with
    | .error e => return .error e
    | .ok x => return (← d.holds program).map (x || ·)

end DumpWorkbench.Shell
