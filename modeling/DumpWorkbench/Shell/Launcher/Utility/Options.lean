import DumpWorkbench.Shell.Launcher.Process

namespace DumpWorkbench.Shell.Utility

variable {m : Type → Type} [Monad m] [Files m]

def isUnprintable (c : Char) : Bool := c.toNat < 32 || c.toNat = 127

def unprintable (c : Char) : String :=
  match c with
  | '\x07' => "\\a"
  | '\x08' => "\\b"
  | '\x0c' => "\\f"
  | '\n' => "\\n"
  | '\r' => "\\r"
  | '\t' => "\\t"
  | '\x0b' => "\\v"
  | c =>
    let digits := Nat.toDigits 8 c.toNat
    "\\" ++ String.ofList (List.replicate (3 - digits.length) '0' ++ digits)

/-- The inside of a text in quotes: a quote, and what cannot be shown, stand outside of the quotes.
`outside` holds behind such an escape. -/
def quotedInside (outside : Bool) : List Char → String
  | [] => if outside then "'" else ""
  | c :: r =>
    if isUnprintable c then
      (if outside then "" else "'$'") ++ unprintable c ++ quotedInside true r
    else
      let back := if outside then "''" else ""
      back ++ (if c = '\'' then "'\\''" else String.singleton c) ++ quotedInside false r

def quoted (s : String) : String :=
  let cs := s.toList
  let isActive (c : Char) : Bool := isUnprintable c || ['$', '\\', '\x60', '"', '!'].contains c
  if cs.contains '\'' && !cs.any isActive then "\"" ++ s ++ "\""
  else
    let inside := "'" ++ quotedInside false cs
    if cs.getLast?.any isUnprintable then inside else inside ++ "'"

/-- Whether a shell would not take a name as it stands. -/
def needsQuotes (s : String) : Bool :=
  let cs := s.toList
  cs.isEmpty || cs.any (fun c => isUnprintable c || c = ' '
    || ['!', '"', '$', '&', '\'', '(', ')', '*', ';', '<', '=', '>', '?', '[', '\\', '^', '\x60',
      '|'].contains c)
    || cs.head?.any ['#', '~'].contains
    || (cs.length = 1 && cs.head?.any ['\x7b', '\x7d'].contains)

def named (s : String) : String := if needsQuotes s then quoted s else s

def tell (text : String) : Action m Unit := do
  let name := (← process).name
  complain s!"{name}: {text}"

def misused (status : Nat) (text : String) : Action m Nat := do
  let name := (← process).name
  complain s!"{name}: {text}"
  complain s!"Try '{name} --help' for more information."
  return status

def withoutOperand (status : Nat) : Action m Nat := misused status "missing operand"

def put (text : String) (status : Nat) (failure : Nat := 1) : Action m Nat := do
  if text = "" then return status
  match ← say text with
  | .ok _ => return status
  | .error f =>
    tell s!"write error: {faultText f}"
    return failure

inductive Takes where
  | nothing
  | something
  | perhaps
deriving DecidableEq, Repr

/-- An option: its letter, its long names, and whether it takes a value. -/
structure OptionRule where
  letter : Char
  names : List String := []
  takes : Takes := .nothing

/-- Options with their values, and the operands. -/
structure Given where
  options : List (Char × String) := []
  operands : List String := []

def Given.has (g : Given) (letter : Char) : Bool := g.options.any (·.1 = letter)

def Given.value? (g : Given) (letter : Char) : Option String :=
  (g.options.reverse.find? (·.1 = letter)).map (·.2)

def Given.last? (g : Given) (letters : List Char) : Option Char :=
  (g.options.reverse.find? fun o => letters.contains o.1).map (·.1)

def readLetters (rules : List OptionRule) :
    List Char → List String → Except String (List (Char × String) × List String)
  | [], rest => .ok ([], rest)
  | c :: cs, rest =>
    match rules.find? (·.letter = c) with
    | none => .error s!"invalid option -- '{c}'"
    | some rule =>
      match rule.takes with
      | .nothing => (readLetters rules cs rest).map fun (os, t) => ((c, "") :: os, t)
      | .perhaps => .ok ([(c, String.ofList cs)], rest)
      | .something =>
        if !cs.isEmpty then .ok ([(c, String.ofList cs)], rest)
        else match rest with
          | v :: t => .ok ([(c, v)], t)
          | [] => .error s!"option requires an argument -- '{c}'"

/-- The rule of a long option, which may be shortened. -/
def longRule? (rules : List OptionRule) (name : String) : Option OptionRule :=
  match rules.find? (·.names.contains name) with
  | some r => some r
  | none =>
    match rules.filter fun r => r.names.any (·.startsWith name) with
    | [r] => some r
    | _ => none

def readLong (rules : List OptionRule) (text : String) (rest : List String) :
    Except String ((Char × String) × List String) :=
  let name := text.toList.takeWhile (· ≠ '=')
  let value := if name.length < text.length then some (text.toList.drop (name.length + 1)) else none
  let name := String.ofList name
  match longRule? rules name with
  | none => .error s!"unrecognized option '--{text}'"
  | some rule =>
    let full := (rule.names.find? (·.startsWith name)).getD name
    match rule.takes, value with
    | .nothing, some _ => .error s!"option '--{full}' doesn't allow an argument"
    | .nothing, none => .ok ((rule.letter, ""), rest)
    | .something, none =>
      match rest with
      | v :: t => .ok ((rule.letter, v), t)
      | [] => .error s!"option '--{full}' requires an argument"
    | _, v => .ok ((rule.letter, String.ofList (v.getD [])), rest)

/-- Reads options. They may stand behind operands unless `first` holds. -/
def readOptions (rules : List OptionRule) (first : Bool) :
    Nat → Given → List String → Except String Given
  | 0, g, _ => .ok g
  | _, g, [] => .ok g
  | fuel + 1, g, a :: r =>
    match a.toList with
    | ['-', '-'] => .ok { g with operands := g.operands ++ r }
    | '-' :: '-' :: cs => do
      let (o, rest) ← readLong rules (String.ofList cs) r
      readOptions rules first fuel { g with options := g.options ++ [o] } rest
    | '-' :: c :: cs => do
      let (os, rest) ← readLetters rules (c :: cs) r
      readOptions rules first fuel { g with options := g.options ++ os } rest
    | _ =>
      if first then .ok { g with operands := g.operands ++ a :: r }
      else readOptions rules first fuel { g with operands := g.operands ++ [a] } r

def withOptions (rules : List OptionRule) (args : List String) (body : Given → Action m Nat)
    (status : Nat := 1) (first : Bool := false) : Action m Nat := do
  match readOptions rules first (args.length + 1) {} args with
  | .error message => misused status message
  | .ok g => body g

/-- How many zero bytes are taken for all that `/dev/zero` has. -/
def manyZeros : Nat := 200000

def contentOf (name : String) : Action m (Except IoFault String) := do
  if name = "-" then
    match ← stream? 0 with
    | some (_, .zeros) => return .ok (String.ofList (List.replicate manyZeros '\x00'))
    | some (_, .file path _ _ _ _) =>
      if ← (Files.isDirectory path : m Bool) then return .error .isDirectory
      readAll 0
    | _ => readAll 0
  else match device? name with
    | some (.stream .zeros) => return .ok (String.ofList (List.replicate manyZeros '\x00'))
    | some (.stream _) => return .ok ""
    | some (.descriptor d) => readAll d
    | none => readFile name

def linesOf (s : String) : List String :=
  let pieces := s.splitOn "\n"
  let ended := pieces.dropLast.map (· ++ "\n")
  match pieces.getLast? with
  | some "" | none => ended
  | some last => ended ++ [last]

def bareLines (s : String) : List String :=
  let pieces := s.splitOn "\n"
  if pieces.getLast? = some "" then pieces.dropLast else pieces

def withoutNewline (s : String) : String :=
  if s.endsWith "\n" then String.ofList s.toList.dropLast else s

def lastPart (path : String) : String :=
  let cs := (path.toList.reverse.dropWhile (· = '/')).reverse
  if cs.isEmpty then (if path = "" then "" else "/")
  else String.ofList ((cs.reverse.takeWhile (· ≠ '/')).reverse)

end DumpWorkbench.Shell.Utility
