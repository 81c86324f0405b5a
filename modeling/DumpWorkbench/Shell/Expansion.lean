import DumpWorkbench.Shell.Calculation
import DumpWorkbench.Shell.Pattern
import DumpWorkbench.Shell.State

namespace DumpWorkbench.Shell

variable {m : Type → Type} [Monad m] [Files m]

/-- A piece of an expanded word: a character, the mark of quotes, which make a field even if it is
empty, or the end of a field. A character that `splits` may separate fields. -/
inductive Item where
  | char (c : Char) (quoted splits : Bool)
  | keep
  | cut
deriving DecidableEq, Repr

/-- The letters of the options that are set, those that are listed last first. -/
def Process.optionText (p : Process) : String := String.ofList p.options.reverse

def Process.single? (p : Process) (name : String) : Option String :=
  match name with
  | "#" => some (toString p.arguments.length)
  | "?" => some (toString p.status)
  | "$" => some (toString p.shell)
  | "!" => p.background.head?.map fun b => toString b.1
  | "-" => some p.optionText
  | "0" => some p.name
  | _ =>
    match name.toNat? with
    | some 0 => some p.name
    | some (n + 1) => p.arguments[n]?
    | none => p.value? name

/-- The characters that separate fields. -/
def Process.separators (p : Process) : List Char := ((p.value? "IFS").getD " \t\n").toList

def isList (name : String) : Bool := name = "@" || name = "*"

def Process.joint (p : Process) (name : String) : String :=
  if name = "*" then String.ofList (p.separators.take 1) else " "

def Process.parameter? (p : Process) (name : String) : Option String :=
  if isList name then
    if p.arguments.isEmpty then none else some ((p.joint name).intercalate p.arguments)
  else p.single? name

def userName? (inValue : Bool) (w : Word) : Option (String × Word) :=
  let isEnd (c : Char) : Bool := c == '/' || (inValue && c == ':')
  let name := w.takeWhile fun p => p.plain?.any (!isEnd ·)
  let rest := w.drop name.length
  match rest with
  | [] => (Word.plain? name).map (·, [])
  | .plain _ :: _ => (Word.plain? name).map (·, rest)
  | _ => none

def Process.home? (p : Process) (user : String) : Option String :=
  if user = "" then p.value? "HOME" else if user = "root" then some "/root" else none

def Process.withHome (p : Process) (inValue : Bool) (w : Word) : Word :=
  match w with
  | .plain '~' :: r =>
    match userName? inValue r with
    | some (user, rest) =>
      match p.home? user with
      | some d => d.toList.map Part.quoted ++ rest
      | none => w
    | none => w
  | _ => w

def Process.withHomes (p : Process) : Nat → Word → Word
  | 0, w => w
  | fuel + 1, w =>
    let w := p.withHome true w
    let before := w.takeWhile fun x => x.plain? ≠ some ':'
    match w.drop before.length with
    | [] => w
    | c :: r => before ++ c :: p.withHomes fuel r

def literal (s : String) (quoted splits : Bool) : List Item :=
  s.toList.map (Item.char · quoted splits)

def Item.char? : Item → Option Char
  | .char c _ _ => some c
  | _ => none

def Item.marked? : Item → Option Marked
  | .char c q _ => some (c, q)
  | _ => none

def textOf (items : List Item) : String := String.ofList (items.filterMap Item.char?)

def patternFrom (items : List Item) : Pattern := patternOf (items.filterMap Item.marked?)

/-- Arguments one by one: a field each, or joined where no fields are made. -/
def listItems (p : Process) (name : String) (quoted joins : Bool) : List Item :=
  let each (a : String) : List Item :=
    (if quoted then [.keep] else []) ++ literal a quoted (!quoted)
  if joins || (quoted && name = "*") then
    literal ((p.joint name).intercalate p.arguments) quoted (!quoted)
  else [Item.cut].intercalate (p.arguments.map each)

/-- The value of a parameter that has to be there if option `u` is set. -/
def demanded (name : String) : Action m String := do
  let p ← process
  match p.parameter? name with
  | some v => return v
  | none =>
    if p.options.contains 'u' && !isList name then fail s!"{name}: parameter not set"
    return ""

/-- The result of a calculation. The variables that it sets are set. -/
def calculated (text : String) : Action m String := do
  let p ← process
  let outcome := do (← Sum.read text).evaluate p.single? []
  match outcome with
  | .error e => fail (e.message text)
  | .ok (n, changes) =>
    for (name, v) in changes.reverse do setVariable name (toString v) false
    return toString n

mutual

/-- The items of a part. `capture` gives the output of a script, `joins` tells that no fields are
made, and `splits` that the text itself comes from an expansion. -/
def partItems (capture : List Char → Bool → Action m String) (joins splits : Bool) :
    Part → Action m (List Item)
  | .plain c => return [.char c false splits]
  | .quoted c => return [.char c true false]
  | .quotes => return [.keep]
  | .output script recounts quoted => do
    return literal (← capture script recounts) quoted (!quoted)
  | .calculation text quoted => do
    let items ← partsItems capture true false text
    return literal (← calculated (textOf items)) quoted (!quoted)
  | .parameter name use operand quoted => do
    let p ← process
    let value := p.parameter? name
    let isMissing (empty : Bool) : Bool := value.isNone || (empty && value = some "")
    let shown (s : String) : List Item := literal s quoted (!quoted)
    let own : List Item :=
      if isList name then listItems p name quoted joins else shown (value.getD "")
    match use with
    | .value =>
      if isList name then return own else return shown (← demanded name)
    | .length => return shown (toString (← demanded name).length)
    | .fallback empty =>
      if isMissing empty then partsItems capture joins (!quoted) operand else return own
    | .replace empty =>
      if isMissing empty then return [] else partsItems capture joins (!quoted) operand
    | .assign empty =>
      if isMissing empty then
        let v := textOf (← partsItems capture true false operand)
        if isName name then setVariable name v false else fail s!"{name}: bad variable name"
        return shown v
      else return own
    | .demand empty =>
      if isMissing empty then
        let said := textOf (← partsItems capture true false operand)
        let usual := if empty then "parameter not set or null" else "parameter not set"
        fail s!"{name}: {if operand.isEmpty then usual else said}"
      else return own
    | .dropFront longest =>
      let v ← demanded name
      let pattern := patternFrom (← partsItems capture true false operand)
      return shown (String.ofList (pattern.dropFront longest v.toList))
    | .dropBack longest =>
      let v ← demanded name
      let pattern := patternFrom (← partsItems capture true false operand)
      return shown (String.ofList (pattern.dropBack longest v.toList))
    | .bad => fail "Bad substitution"

def partsItems (capture : List Char → Bool → Action m String) (joins splits : Bool) :
    List Part → Action m (List Item)
  | [] => return []
  | x :: r => do
    let first ← partItems capture joins splits x
    let rest ← partsItems capture joins splits r
    return first ++ rest

end

/-- Fields under construction: those that are complete, the last one first; the one that grows, if
any, its last character first; and whether only white space has ended the last one so far. -/
structure Fields where
  done : List (List Marked) := []
  growing : Option (List Marked) := none
  loose : Bool := false

def Fields.close (f : Fields) : Fields :=
  match f.growing with
  | some g => ⟨g.reverse :: f.done, none, true⟩
  | none => f

/-- White space separates fields together with all of its kind around it; any other separator ends
a field of its own. -/
def Fields.add (separators : List Char) (f : Fields) : Item → Fields
  | .keep => { f with growing := some (f.growing.getD []), loose := false }
  | .cut => { f.close with loose := false }
  | .char c quoted splits =>
    if splits && separators.contains c then
      if c = ' ' ∨ c = '\t' ∨ c = '\n' then f.close
      else match f.growing with
        | some _ => { f.close with loose := false }
        | none => if f.loose then { f with loose := false } else { f with done := [] :: f.done }
    else { f with growing := some ((c, quoted) :: f.growing.getD []), loose := false }

def fieldsOf (separators : List Char) (items : List Item) : List (List Marked) :=
  (items.foldl (Fields.add separators) {}).close.done.reverse

def pathParts : List Marked → List (List Marked)
  | [] => [[]]
  | c :: r =>
    if c.1 = '/' then [] :: pathParts r
    else match pathParts r with
      | [] => [[c]]
      | s :: ss => (c :: s) :: ss

def plainText (cs : List Marked) : String := String.ofList (cs.map (·.1))

/-- The names in a directory that a pattern stands for. Hidden names are left out unless the pattern
begins with a dot. -/
def matching (directory : String) (part : List Marked) : Action m (List String) := do
  let pattern := patternOf part
  let hidden := part.head?.any (·.1 = '.')
  match ← namesIn (if directory = "" then "." else directory) with
  | .error _ => return []
  | .ok names =>
    let names := if hidden then "." :: ".." :: names else names
    return names.filter fun n => (hidden || !n.startsWith ".") && pattern.accepts n.toList

/-- The paths that begin with `front` and go on as the parts say. -/
def paths (front : String) : List (List Marked) → Action m (List String)
  | [] => return []
  | [part] => do
    if isPatterned part then return (← matching front part).map (front ++ ·)
    else
      let path := front ++ plainText part
      return if ← fileExists path then [path] else []
  | part :: parts => do
    let mut found := []
    let names ← if isPatterned part then matching front part else pure [plainText part]
    for n in names do
      found := found ++ (← paths (front ++ n ++ "/") parts)
    return found

/-- The names of the files that a field stands for; without any, the field stands for itself. -/
def globbed (field : List Marked) : Action m (List String) := do
  if (← process).options.contains 'f' || !isPatterned field then return [plainText field]
  match ← paths "" (pathParts field) with
  | [] => return [plainText field]
  | found => return found.mergeSort fun a b => a ≤ b

/-- How the output of a script is taken. -/
abbrev Capture (m : Type → Type) := List Char → Bool → Action m String

/-- Whether a word holds all arguments, each as a field of its own. -/
def holdsArguments (w : Word) : Bool :=
  w.any fun
    | .parameter "@" .value _ true => true
    | _ => false

def expand (capture : Capture m) (w : Word) : Action m (List String) := do
  let p ← process
  let w := p.withHome false w
  let items ← partsItems capture false false w
  let items := if p.arguments.isEmpty && holdsArguments w then items.filter (· ≠ .keep) else items
  let fields := fieldsOf (← process).separators items
  return (← fields.mapM globbed).flatten

def expandAll (capture : Capture m) (ws : List Word) : Action m (List String) := do
  return (← ws.mapM (expand capture)).flatten

def expandText (capture : Capture m) (w : Word) : Action m String := do
  let p ← process
  return textOf (← partsItems capture true false (p.withHome false w))

def expandValue (capture : Capture m) (w : Word) : Action m String := do
  let p ← process
  return textOf (← partsItems capture true false (p.withHomes (w.length + 1) w))

def expandPattern (capture : Capture m) (w : Word) : Action m Pattern := do
  let p ← process
  return patternFrom (← partsItems capture true false (p.withHome false w))

def takesAssignments (name : String) : Bool := ["export", "readonly", "local"].contains name

def commandFields (capture : Capture m) : List String → List Word → Action m (List String)
  | fields, [] => return fields
  | fields, w :: ws => do
    let name := (fields.find? (· ≠ "command")).getD ""
    let new ← match if takesAssignments name then w.assignment? else none with
      | some (n, value) => pure [n ++ "=" ++ (← expandValue capture value)]
      | none => expand capture w
    commandFields capture (fields ++ new) ws

end DumpWorkbench.Shell
