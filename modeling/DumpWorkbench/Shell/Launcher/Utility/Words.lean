import DumpWorkbench.Shell.Launcher.Condition
import DumpWorkbench.Shell.Launcher.Format
import DumpWorkbench.Shell.Launcher.Regex
import DumpWorkbench.Shell.Launcher.Utility.Columns
import DumpWorkbench.Shell.Launcher.Utility.Directory

namespace DumpWorkbench.Shell.Utility

variable {m : Type → Type} [Monad m] [Files m]

def basename (args : List String) : Action m Nat :=
  withOptions [⟨'a', ["multiple"], .nothing⟩, ⟨'s', ["suffix"], .something⟩,
    ⟨'z', ["zero"], .nothing⟩] args (fun g => do
    let several := g.has 'a' || g.has 's'
    let ending := if g.has 'z' then "\x00" else "\n"
    let stripped (suffix name : String) : String :=
      if name ≠ suffix && suffix ≠ "" && name.endsWith suffix then
        String.ofList (name.toList.take (name.length - suffix.length))
      else name
    match g.operands with
    | [] => withoutOperand 1
    | a :: r =>
      if several then
        put (String.join (g.operands.map fun x =>
          stripped ((g.value? 's').getD "") (lastPart x) ++ ending)) 0
      else match r with
        | [] => put (lastPart a ++ ending) 0
        | [suffix] => put (stripped suffix (lastPart a) ++ ending) 0
        | _ :: extra :: _ => misused 1 s!"extra operand {curly extra}") 1 true

def dirname (args : List String) : Action m Nat :=
  withOptions [⟨'z', ["zero"], .nothing⟩] args fun g => do
    if g.operands.isEmpty then withoutOperand 1
    else put (String.join (g.operands.map fun x =>
      (if withoutSlashes x = "/" then "/" else parentOf x) ++ "\n")) 0

def printfProgram (args : List String) : Action m Nat := do
  let args := if args.head? = some "--" then args.drop 1 else args
  match args with
  | [] => withoutOperand 1
  | format :: r =>
    let p := printed .program format r
    for c in p.complaints.reverse do tell c
    match p.failure with
    | some f =>
      let _ ← put p.output 1
      tell f
      return 1
    | none =>
      match p.args with
      | a :: _ =>
        if !p.stopped then tell s!"warning: ignoring excess arguments, starting with {curly a}"
      | [] => pure ()
      put p.output (if p.complaints.isEmpty then 0 else 1)

def testProgram (bracket : Bool) (args : List String) : Action m Nat := do
  if bracket && args.getLast? ≠ some "]" then
    tell ("missing " ++ curly "]")
    return 2
  match Condition.Program.read (if bracket then args.dropLast else args) with
  | .error e =>
    tell e
    return 2
  | .ok c =>
    match ← c.holds true with
    | .error e =>
      tell e
      return 2
    | .ok b => return if b then 0 else 1

namespace Expr

inductive Fault where
  | missing (last : String)
  | unexpected (word : String)
  | unclosed (last : String)
  | nonInteger
  | zeroDivision
  | pattern (f : Regex.Fault)

def Fault.message : Fault → String
  | .missing last => s!"syntax error: missing argument after {curly last}"
  | .unexpected word => s!"syntax error: unexpected argument {curly word}"
  | .unclosed last => "syntax error: expecting \x27)\x27 after " ++ curly last
  | .nonInteger => "non-integer argument"
  | .zeroDivision => "division by zero"
  | .pattern f => f.message

/-- A value with the words behind it. -/
abbrev Result := Except Fault (String × List String)

def integer? (s : String) : Option Int :=
  let (negative, ds) := match s.toList with
    | '-' :: r => (true, r)
    | cs => (false, cs)
  if ds.isEmpty || !ds.all Char.isDigit then none
  else some (if negative then -(valueOf 10 ds : Int) else valueOf 10 ds)

def isNull (s : String) : Bool := s = "" || integer? s = some 0

/-- How much of a text a pattern fits, or what its first group fits. -/
def fitted (text pattern : String) : Except Fault String :=
  match Regex.read false pattern.toList with
  | .error f => .error (.pattern f)
  | .ok r =>
    let grouped := (pattern.splitOn "\\(").length ≠ 1
    let found := r.matchAt? false ⟨[], text.toList, 0, []⟩
    .ok (if grouped then String.ofList ((found.bind fun f => f.groups.lookup 1).getD [])
      else toString ((found.map fun f => (unpacked (String.ofList f.text)).length).getD 0))

def operators : List (List String) :=
  [["|"], ["&"], ["<", "<=", "=", "==", "!=", ">=", ">"], ["+", "-"], ["*", "/", "%"], [":"]]

def compared (o : String) (x y : String) : Bool :=
  let c := match integer? x, integer? y with
    | some a, some b => compare a b
    | _, _ => compare x y
  match o with
  | "<" => c == .lt
  | "<=" => c != .gt
  | "=" | "==" => c == .eq
  | "!=" => c != .eq
  | ">=" => c != .lt
  | _ => c == .gt

def apply (o x y : String) : Except Fault String :=
  let whole (f : Int → Int → Except Fault Int) : Except Fault String :=
    match integer? x, integer? y with
    | some a, some b => (f a b).map toString
    | _, _ => .error .nonInteger
  match o with
  | "|" => .ok (if !isNull x then x else if !isNull y then y else "0")
  | "&" => .ok (if !isNull x && !isNull y then x else "0")
  | "+" => whole fun a b => .ok (a + b)
  | "-" => whole fun a b => .ok (a - b)
  | "*" => whole fun a b => .ok (a * b)
  | "/" => whole fun a b => if b = 0 then .error .zeroDivision else .ok (a.tdiv b)
  | "%" => whole fun a b => if b = 0 then .error .zeroDivision else .ok (a.tmod b)
  | ":" => fitted x y
  | o => .ok (if compared o x y then "1" else "0")

mutual

def level (last : String) : Nat → List (List String) → List String → Result
  | 0, _, _ => .error (.missing last)
  | fuel + 1, [], ws => single last fuel ws
  | fuel + 1, os :: stronger, ws => do
    let (x, rest) ← level last fuel stronger ws
    levelRest last fuel os stronger x rest

def levelRest (last : String) :
    Nat → List String → List (List String) → String → List String → Result
  | 0, _, _, _, _ => .error (.missing last)
  | fuel + 1, os, stronger, x, ws =>
    match ws with
    | o :: r =>
      if os.contains o then do
        let (y, rest) ← level last fuel stronger r
        levelRest last fuel os stronger (← apply o x y) rest
      else .ok (x, ws)
    | [] => .ok (x, [])

def single (last : String) : Nat → List String → Result
  | 0, _ => .error (.missing last)
  | fuel + 1, ws =>
    match ws with
    | [] => .error (.missing last)
    | "+" :: w :: r => .ok (w, r)
    | "length" :: r => do
      let (x, rest) ← single last fuel r
      return (toString (unpacked x).length, rest)
    | "match" :: r => do
      let (x, rest) ← single last fuel r
      let (y, rest) ← single last fuel rest
      return (← fitted x y, rest)
    | "index" :: r => do
      let (x, rest) ← single last fuel r
      let (y, rest) ← single last fuel rest
      let place := (x.toList.findIdx? y.toList.contains).elim 0 (· + 1)
      return (toString place, rest)
    | "substr" :: r => do
      let (x, rest) ← single last fuel r
      let (i, rest) ← single last fuel rest
      let (n, rest) ← single last fuel rest
      match integer? i, integer? n with
      | some i, some n =>
        if i ≤ 0 ∨ n ≤ 0 then return ("", rest)
        else return (String.ofList ((x.toList.drop (i.toNat - 1)).take n.toNat), rest)
      | _, _ => return ("", rest)
    | "(" :: r => do
      let (x, rest) ← level last fuel operators r
      match rest with
      | ")" :: rest => return (x, rest)
      | [] => .error (.unclosed last)
      | w :: _ => .error (.unexpected w)
    | ")" :: _ => .error (.unexpected ")")
    | w :: r => .ok (w, r)

end

end Expr

def expr (args : List String) : Action m Nat := do
  let args := if args.head? = some "--" then args.drop 1 else args
  if args.isEmpty then withoutOperand 2
  else
    let outcome := Expr.level (args.getLastD "") (16 * args.length + 32) Expr.operators args
    let outcome := outcome.bind fun (x, rest) =>
      match rest with
      | [] => .ok x
      | w :: _ => .error (Expr.Fault.unexpected w)
    match outcome with
    | .error f =>
      tell f.message
      return 2
    | .ok x => put (x ++ "\n") (if Expr.isNull x then 1 else 0) 3

/-- A decimal number: digits behind the point count as places. -/
structure Fixed where
  value : Int
  places : Nat
  width : Nat

def Fixed.read? (s : String) : Option Fixed :=
  let (negative, cs) := signOf s.toList
  let whole := cs.takeWhile Char.isDigit
  let rest := cs.drop whole.length
  let fraction := match rest with
    | '.' :: r => some r
    | [] => some []
    | _ => none
  match fraction with
  | none => none
  | some f =>
    if !f.all Char.isDigit || (whole.isEmpty && f.isEmpty) then none
    else
      let n : Int := valueOf 10 (whole ++ f)
      let start := max 1 whole.length + if negative then 1 else 0
      some ⟨if negative then -n else n, f.length,
        start + if f.isEmpty then 0 else f.length + 1⟩

def Fixed.scaled (x : Fixed) (places : Nat) : Int := x.value * Number.power 10 (places - x.places)

def fixedText (places : Nat) (n : Int) : String :=
  let digits := Nat.toDigits 10 n.natAbs
  let digits := List.replicate (places + 1 - digits.length) '0' ++ digits
  let whole := digits.length - places
  (if n < 0 then "-" else "") ++ String.ofList
    (digits.take whole ++ (if places = 0 then [] else '.' :: digits.drop whole))

def zeroPadded (width : Nat) (s : String) : String :=
  let missing := String.ofList (List.replicate (width - s.length) '0')
  if s.startsWith "-" then "-" ++ missing ++ String.ofList (s.toList.drop 1) else missing ++ s

def maxTerms : Nat := 1000000

def terms (first step last : Int) : List Int :=
  let count := if step = 0 then 0
    else if 0 < step then (if last < first then 0 else ((last - first) / step).toNat + 1)
    else if first < last then 0 else ((first - last) / (-step)).toNat + 1
  (List.range (min maxTerms count)).map fun (n : Nat) => first + n * step

/-- Options in front of numbers, which may be negative. -/
def seqOptions (args : List String) : List String × List String :=
  let isNumber (s : String) : Bool :=
    match s.toList with
    | '-' :: c :: _ => c.isDigit || c = '.'
    | _ => false
  let front := args.takeWhile fun a => a ≠ "--" && !isNumber a
  (front, (args.drop front.length))

def seq (args : List String) : Action m Nat :=
  let (front, numbers) := seqOptions args
  let rules : List OptionRule :=
    [⟨'w', ["equal-width"], .nothing⟩, ⟨'s', ["separator"], .something⟩,
      ⟨'f', ["format"], .something⟩]
  withOptions rules front (fun g => do
    let operands := g.operands ++ if numbers.head? = some "--" then numbers.drop 1 else numbers
    match operands with
    | [] => withoutOperand 1
    | _ :: _ :: _ :: extra :: _ => misused 1 s!"extra operand {curly extra}"
    | _ =>
      match operands.find? fun s => (Fixed.read? s).isNone with
      | some bad => misused 1 s!"invalid floating point argument: {curly bad}"
      | none =>
        let xs := operands.filterMap Fixed.read?
        let one : Fixed := ⟨1, 0, 1⟩
        let (first, step, last) := match xs with
          | [c] => (one, one, c)
          | [a, c] => (a, one, c)
          | [a, b, c] => (a, b, c)
          | _ => (one, one, one)
        if step.value = 0 then
          misused 1 ("invalid Zero increment value: " ++ curly (operands.getD 1 ""))
        else
          let places := max first.places step.places
          let all := max places last.places
          let scale := Number.power 10 (all - places)
          let values := (terms (first.scaled all) (step.scaled all) (last.scaled all)).map
            fun n => n / (scale : Int)
          let texts := values.map (fixedText places)
          let texts := match g.value? 'f' with
            | some format => texts.map fun t => (printed .program format [t]).output
            | none =>
              if g.has 'w' then
                let width := texts.foldl (fun n t => max n t.length) 0
                texts.map (zeroPadded width)
              else texts
          if texts.isEmpty then return 0
          put (((g.value? 's').getD "\n").intercalate texts ++ "\n") 0) 1 true

end DumpWorkbench.Shell.Utility
