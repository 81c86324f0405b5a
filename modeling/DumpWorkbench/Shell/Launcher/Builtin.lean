import DumpWorkbench.Shell.Launcher.Condition
import DumpWorkbench.Shell.Launcher.Format
import DumpWorkbench.Shell.Launcher.Process
import DumpWorkbench.Shell.Pattern
import DumpWorkbench.Shell.Script

namespace DumpWorkbench.Shell.Builtin

variable {m : Type → Type} [Monad m] [Files m]

def put (text : String) (status : Nat) : Action m Nat := do
  if text = "" then return status
  match ← say text with
  | .ok _ => return status
  | .error _ =>
    let command := (← process).command.getD ""
    warn s!"{command}: I/O error"
    return 1

def count (s : String) : Action m Nat := do
  match s.toNat?, s.toList.all Char.isDigit with
  | some n, true => return n
  | _, _ => fail s!"Illegal number: {s}"

def quoted (s : String) : String := Id.run do
  let pieces := s.splitOn "'"
  let mut text := ""
  for (piece, i) in pieces.zipIdx do
    text := text ++ (if i = 0 then "" else "\"'\"")
      ++ (if piece = "" ∧ 1 < pieces.length then "" else "'" ++ piece ++ "'")
  return text

/-- A name with its value, if the argument has one. -/
def splitAssignment (s : String) : String × Option String :=
  let cs := s.toList
  let name := cs.takeWhile (· ≠ '=')
  (String.ofList name,
    if name.length < cs.length then some (String.ofList (cs.drop (name.length + 1))) else none)

def listing (front : String) (p : Process) (test : Variable → Bool) : String :=
  let shown := (p.bindings.filter (test ·.2)).mergeSort fun a b => a.1 ≤ b.1
  String.join (shown.map fun (name, x) =>
    front ++ name ++ (match x.value with
      | some v => "=" ++ quoted v
      | none => "") ++ "\n")

def mark (isMarked : Variable → Bool) (word : String) (f : Variable → Variable)
    (args : List String) : Action m Nat := do
  if args.isEmpty || args.head? = some "-p" then
    put (listing (word ++ " ") (← process) isMarked) 0
  else
    for a in args do
      let (name, value) := splitAssignment a
      if !isName name then fail s!"{a}: bad variable name"
      match value with
      | some v => setVariable name v false
      | none => pure ()
      change fun p => p.setVariable name (f ((p.bindings.lookup name).getD {}))
    return 0

def unset (args : List String) : Action m Nat := do
  let options := args.takeWhile fun a => a = "-f" || a = "-v"
  for name in args.drop options.length do
    if options.contains "-f" then
      change fun p => { p with functions := p.functions.filter (·.1 ≠ name) }
    else if isName name then unsetVariable name
    else fail s!"{name}: bad variable name"
  return 0

def locally (args : List String) : Action m Nat := do
  if (← process).hidden.isEmpty then fail "not in a function"
  for a in args do
    let (name, value) := splitAssignment a
    if a ≠ "-" then
      if !isName name then fail s!"{a}: bad variable name"
      hide name
      match value with
      | some v => setVariable name v false
      | none => pure ()
  return 0

def optionNames : List (String × Char) :=
  [("errexit", 'e'), ("noglob", 'f'), ("ignoreeof", 'I'), ("interactive", 'i'), ("monitor", 'm'),
    ("noexec", 'n'), ("stdin", 's'), ("xtrace", 'x'), ("verbose", 'v'), ("vi", 'V'),
    ("emacs", 'E'), ("noclobber", 'C'), ("allexport", 'a'), ("notify", 'b'), ("nounset", 'u')]

def setOption (letter : Char) (on : Bool) : Action m Unit :=
  change fun p => { p with options :=
    (optionNames.map (·.2)).filter fun c => if c = letter then on else p.options.contains c }

/-- Reads the options in front of arguments: the arguments behind them, and whether two dashes ended
the options. -/
def readOptions : List String → Action m (List String × Bool)
  | [] => return ([], false)
  | "--" :: r => return (r, true)
  | a :: r => do
    match a.toList with
    | sign :: cs =>
      if (sign = '-' ∨ sign = '+') ∧ !cs.isEmpty then
        if cs = ['o'] then
          match r with
          | [] => return ([], false)
          | name :: rest =>
            match optionNames.lookup name with
            | some c => setOption c (sign = '-')
            | none => fail s!"Illegal option {sign}o {name}"
            readOptions rest
        else
          for c in cs do
            if optionNames.any (·.2 = c) then setOption c (sign = '-')
            else fail s!"Illegal option {sign}{c}"
          readOptions r
      else return (a :: r, false)
    | [] => return (a :: r, false)

def set (args : List String) : Action m Nat := do
  match args with
  | [] => put (listing "" (← process) fun x => x.value.isSome) 0
  | ["-o"] =>
    let p ← process
    put ("Current option settings\n" ++ String.join (optionNames.map fun (name, c) =>
      name ++ String.ofList (List.replicate (16 - name.length) ' ')
        ++ (if p.options.contains c then "on\n" else "off\n"))) 0
  | ["+o"] =>
    let p ← process
    put (String.join (optionNames.map fun (name, c) =>
      (if p.options.contains c then "set -o " else "set +o ") ++ name ++ "\n")) 0
  | _ =>
    let (rest, dashes) ← readOptions args
    if dashes || !rest.isEmpty then change ({ · with arguments := rest })
    return 0

def leave (args : List String) : Action m Nat := do
  let p ← process
  match args with
  | [] => throw (.exit (p.leaving.getD p.status))
  | a :: _ => throw (.exit ((← count a) % 256))

def giveBack (args : List String) : Action m Nat := do
  match args with
  | [] => throw (.returned (← process).status)
  | a :: _ => throw (.returned (← count a))

def leaveLoops (f : Nat → Leaving) (args : List String) : Action m Nat := do
  let n ← match args with
    | [] => pure 1
    | a :: _ => count a
  if n = 0 then fail "Illegal number: 0"
  let loops := (← process).loops
  if loops = 0 then return 0
  throw (f (min n loops))

def shift (args : List String) : Action m Nat := do
  let n ← match args with
    | [] => pure 1
    | a :: _ => count a
  if (← process).arguments.length < n then fail "can't shift that many"
  change fun p => { p with arguments := p.arguments.drop n }
  return 0

def eval (e : Engine m) (mode : Mode) (args : List String) : Action m Nat := do
  if args.isEmpty then return 0
  change ({ · with status := 0 })
  e.script { tested := mode.tested } (" ".intercalate args).toList
  return (← process).status

def source (e : Engine m) (mode : Mode) (args : List String) : Action m Nat := do
  match args with
  | [] => return 0
  | name :: _ =>
    let path ←
      if name.toList.contains '/' then pure name
      else
        let p ← process
        let places := p.searchPath.map fun d => (if d = "" then "." else d) ++ "/" ++ name
        match ← places.filterM isFile with
        | [] => fail s!"{name}: not found"
        | path :: _ => pure path
    match ← readFile path with
    | .error f =>
      let reason :=
        if f = .noEntry ∨ f = .notDirectory then "No such file" else faultText f
      fail s!"cannot open {path}: {reason}"
    | .ok text =>
      change ({ · with status := 0 })
      tryCatch (e.script { tested := mode.tested } text.toList) fun
        | .returned n => setStatus n
        | l => throw l
      return (← process).status

def trapList (p : Process) : String :=
  String.join ((p.traps.mergeSort fun a b => a.1 ≤ b.1).map fun (n, text) =>
    s!"trap -- {quoted text} {signalName n}\n")

def trap (args : List String) : Action m Nat := do
  let args := if args.head? = some "--" then args.drop 1 else args
  match args with
  | [] => put (trapList (← process)) 0
  | a :: r =>
    let (action, signals) : Option String × List String :=
      if r.isEmpty ∨ a.toNat?.isSome then (none, a :: r)
      else (if a = "-" then none else some a, r)
    for name in signals do
      match signalNumber? name with
      | none =>
        complain s!"trap: {name}: bad trap"
        return 1
      | some n =>
        change fun p => { p with traps :=
          (action.map (n, ·)).toList ++ p.traps.filter (·.1 ≠ n) }
    return 0

def killUsage : String :=
  "Usage: kill [-s sigspec | -signum | -sigspec] [pid | job]... or\nkill -l [exitstatus]"

def send (signal : Nat) (target : String) : Action m Nat := do
  let p ← process
  match signed? true target with
  | none => fail s!"Illegal number: {target}"
  | some n =>
    if n = p.number then
      arrive signal
      return 0
    else if n = p.shell ∨ n = p.parent then
      if isHarmless signal then return 0
      throw (.killed n.toNat signal)
    else if 0 < n ∧ p.background.any (·.1 = n.toNat) then return 0
    else
      warn "No such process\n"
      return 1

def kill (args : List String) : Action m Nat := do
  let badOption (a : String) : Action m (Nat × List String) :=
    fail ("Illegal option " ++ String.ofList (a.toList.take 2))
  let (signal, targets) ← match args with
    | "-s" :: name :: r =>
      match signalNumber? name with
      | some n => pure (n, r)
      | none => fail s!"invalid signal number or name: {name}"
    | "--" :: r => pure (15, r)
    | a :: r =>
      if a = "-l" then pure (0, args)
      else if a.startsWith "-" then
        match signalNumber? (String.ofList (a.toList.drop 1)) with
        | some n => pure (n, if r.head? = some "--" then r.drop 1 else r)
        | none => badOption a
      else pure (15, args)
    | [] => fail killUsage
  match targets with
  | [] => fail killUsage
  | "-l" :: rest =>
    match rest with
    | [] => put (String.join ("0\n" :: signalNames.map (·.1 ++ "\n"))) 0
    | a :: _ =>
      let n ← count a
      put (signalName (if 128 < n then n - 128 else n) ++ "\n") 0
  | _ =>
    let mut status := 0
    for t in targets do
      let r ← send signal t
      if r ≠ 0 then status := r
    return status

def wait (args : List String) : Action m Nat := do
  let mut status := 0
  for a in args do
    let n ← count a
    status := ((← process).background.lookup n).getD 127
  return status

def simplified (path : String) : String := Id.run do
  let mut kept : List String := []
  for s in path.splitOn "/" do
    if s = ".." then kept := kept.drop 1
    else if s ≠ "" ∧ s ≠ "." then kept := s :: kept
  return "/" ++ "/".intercalate kept.reverse

def changeDirectory (args : List String) : Action m Nat := do
  let args := args.dropWhile fun a => a = "-L" || a = "-P" || a = "--"
  let p ← process
  let (target, shows) := match args with
    | [] => (p.value "HOME", false)
    | "-" :: _ => (p.value "OLDPWD", true)
    | a :: _ => (a, false)
  if target = "" then return 0
  let isFree := !(target.startsWith "/" || target.startsWith "./" || target.startsWith "../"
    || target = "." || target = "..")
  let bases := if isFree then (((p.value? "CDPATH").getD "").splitOn ":").filter (· ≠ "") else []
  let (target, shows) ← match ← (bases.map fun b => b ++ "/" ++ target).filterM isDirectory with
    | found :: _ => pure (found, true)
    | [] => pure (target, shows)
  let path := simplified (if target.startsWith "/" then target else p.directory ++ "/" ++ target)
  if !(← isDirectory target) then fail s!"can't cd to {target}"
  setVariable "OLDPWD" p.directory false
  setVariable "PWD" path false
  change ({ · with directory := path })
  if shows then put (path ++ "\n") 0 else return 0

/-- Characters of a line, those behind a backslash as quoted ones, whether a line end came, and the
text behind it. -/
def lineOf (raw : Bool) : List Char → List Marked × Bool × List Char
  | [] => ([], false, [])
  | '\n' :: r => ([], true, r)
  | [c] => if c = '\\' && !raw then ([], false, []) else ([(c, false)], false, [])
  | c :: d :: r =>
    if c = '\\' && !raw then
      let (cs, ended, rest) := lineOf raw r
      (if d = '\n' then cs else (d, true) :: cs, ended, rest)
    else
      let (cs, ended, rest) := lineOf raw (d :: r)
      ((c, false) :: cs, ended, rest)

/-- Cuts a line into values for so many names; the last one takes all that is left. -/
def cutLine (separators : List Char) : Nat → List Marked → List String
  | 0, _ => []
  | names + 1, cs =>
    let separates (c : Marked) : Bool := !c.2 && separators.contains c.1
    let isSpace (c : Marked) : Bool := separates c && (c.1 = ' ' || c.1 = '\t' || c.1 = '\n')
    let cs := cs.dropWhile isSpace
    let first := cs.takeWhile (!separates ·)
    let rest := (cs.drop first.length).dropWhile isSpace
    let rest := match rest with
      | c :: r => if separates c then r.dropWhile isSpace else rest
      | [] => []
    let text (cs : List Marked) : String := String.ofList (cs.map (·.1))
    if names = 0 then
      [if rest.isEmpty then text first else text (cs.reverse.dropWhile isSpace).reverse]
    else text first :: cutLine separators names rest

def read (args : List String) : Action m Nat := do
  let raw := args.head? = some "-r"
  let args := if raw then args.drop 1 else args
  let names := if args.head? = some "-p" then args.drop 2 else args
  let raw := raw || names.head? = some "-r"
  let names := names.filter (· ≠ "-r")
  if names.isEmpty then fail "arg count"
  let text := match ← readAll 0 with
    | .ok s => s
    | .error _ => ""
  let (cs, ended, rest) := lineOf raw text.toList
  unread 0 (String.ofList rest)
  let separators := (((← process).value? "IFS").getD " \t\n").toList
  for (name, value) in names.zip (cutLine separators names.length cs) do
    if !isName name then fail s!"{name}: bad variable name"
    setVariable name value false
  return if ended then 0 else 1

def getopts (args : List String) : Action m Nat := do
  match args with
  | letters :: name :: given =>
    let p ← process
    let words := if given.isEmpty then p.arguments else given
    let index := max 1 ((p.value "OPTIND").toNat?.getD 1)
    let inside := p.optionPlace
    let quiet := letters.startsWith ":"
    let word := words.getD (index - 1) ""
    let finish (option : String) (argument : Option String) (index inside status : Nat) :
        Action m Nat := do
      match argument with
      | some a => setVariable "OPTARG" a false
      | none => unsetVariable "OPTARG"
      setVariable "OPTIND" (toString index) false
      change ({ · with optionPlace := inside })
      setVariable name option false
      return status
    let cs := word.toList
    if inside = 0 ∧ (cs.head? ≠ some '-' ∨ cs.length < 2) then finish "?" none index 0 1
    else if inside = 0 ∧ word = "--" then finish "?" none (index + 1) 0 1
    else
      let place := if inside = 0 then 1 else inside
      let c := cs.getD place ' '
      let behind := cs.drop (place + 1)
      let (nextIndex, nextInside) := if behind.isEmpty then (index + 1, 0) else (index, place + 1)
      let spec := letters.toList.dropWhile fun d => d ≠ c || d = ':'
      if spec.isEmpty then
        if quiet then finish "?" (some (String.singleton c)) nextIndex nextInside 0
        else
          let _ ← say s!"Illegal option -{c}\n"
          finish "?" none nextIndex nextInside 0
      else if (spec.drop 1).head? = some ':' then
        if !behind.isEmpty then
          finish (String.singleton c) (some (String.ofList behind)) (index + 1) 0 0
        else match words[index]? with
          | some a => finish (String.singleton c) (some a) (index + 2) 0 0
          | none =>
            if quiet then finish ":" (some (String.singleton c)) (index + 1) 0 0
            else
              let _ ← say s!"No arg for -{c} option\n"
              finish "?" none (index + 1) 0 0
      else finish (String.singleton c) (some "") nextIndex nextInside 0
  | _ => fail "Usage: getopts optstring var [arg...]"

def echo (args : List String) : Action m Nat := put (echoText .builtin args) 0

def print (args : List String) : Action m Nat := do
  let args ← match args with
    | "--" :: r => pure r
    | a :: _ =>
      if a.startsWith "-" && a ≠ "-" then
        fail ("Illegal option " ++ String.ofList (a.toList.take 2))
      else pure args
    | [] => pure []
  match args with
  | [] => fail "usage: printf format [arg ...]"
  | format :: r =>
    let p := printed .builtin format r
    for c in p.complaints.reverse do warn c
    match p.failure with
    | some f =>
      warn f
      put p.output 2
    | none => put p.output (if p.complaints.isEmpty then 0 else 1)

def test (bracket : Bool) (args : List String) : Action m Nat := do
  let args ←
    if bracket then
      if args.getLast?.any (·.startsWith "]") then pure args.dropLast else fail "missing ]"
    else pure args
  match Condition.read false args with
  | .error e => fail e
  | .ok c =>
    match ← c.holds false with
    | .error e => fail e
    | .ok b => return if b then 0 else 1

/-- The commands of the shell that are not special ones. -/
def regular : List String :=
  ["[", "alias", "bg", "cd", "chdir", "command", "echo", "false", "fg", "getopts", "hash", "jobs",
    "kill", "printf", "pwd", "read", "test", "true", "type", "ulimit", "umask", "unalias",
    "wait"]

def isSpecial (name : String) : Bool := specialCommands.contains name

def umask (args : List String) : Action m Nat := do
  match args with
  | [] =>
    put ((← process).mask ++ "\n") 0
  | a :: _ =>
    let digits := a.toList.dropWhile (· = '0')
    let text := String.ofList (List.replicate (4 - digits.length) '0' ++ digits)
    change ({ · with mask := text })
    return 0

end DumpWorkbench.Shell.Builtin
