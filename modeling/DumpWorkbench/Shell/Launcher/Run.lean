import DumpWorkbench.Shell.Expansion
import DumpWorkbench.Shell.Launcher.Builtin

namespace DumpWorkbench.Shell

variable {m : Type → Type} [Monad m] [Files m]

def always (action : Action m α) (after : Action m Unit) : Action m α := do
  let outcome ← tryCatch (Except.ok <$> action) fun l => return .error l
  after
  match outcome with
  | .ok a => return a
  | .error l => throw l

def collected (n : Nat) : Action m String := do
  match (← get).streams[n]? with
  | some (.sink ts) => return String.join ts.reverse
  | _ => return ""

/-- Text that is taken as a value: without zero bytes, and without the line ends at its end. -/
def asValue (s : String) : String :=
  String.ofList (((s.toList.filter (· ≠ '\x00')).reverse.dropWhile (· = '\n')).reverse)

def capture (e : Engine m) : Capture m := fun script recounts => do
  let line := (← process).line
  let n ← addStream (.sink [])
  let text := if recounts then script else List.replicate (line - 1) '\n' ++ script
  let status ← apart do
    connect 1 n
    e.whole (e.script { final := true } text)
  change ({ · with captured := status })
  return asValue (← collected n)

/-- A redirection whose target is known. -/
inductive Joint where
  | file (descriptor : Nat) (kind : Redirection) (name : String)
  | copy (descriptor source : Nat)
  | close (descriptor : Nat)
  | text (descriptor : Nat) (body : String)

def joint (e : Engine m) : Redirect → Action m Joint
  | .document d body => do return .text d (textOf (← partsItems (capture e) true false body))
  | .stream d kind w => do
    let target ← expandText (capture e) w
    match kind with
    | .copyIn | .copyOut =>
      if target = "-" then return .close d
      match target.toList with
      | [c] =>
        if c.isDigit then return .copy d (c.toNat - 48) else fail "Syntax error: Bad fd number"
      | _ => fail "Syntax error: Bad fd number"
    | _ => return .file d kind target

def openFailure (kind : Redirection) (name : String) (f : IoFault) : String :=
  if kind = .read then
    let reason := if f = .noEntry ∨ f = .notDirectory then "No such file" else faultText f
    s!"cannot open {name}: {reason}"
  else
    let reason :=
      if f = .noEntry ∨ f = .notDirectory then "Directory nonexistent" else faultText f
    s!"cannot create {name}: {reason}"

/-- Carries out a redirection; false if that fails. -/
def connectJoint : Joint → Action m Bool
  | .close d => do
    disconnect d
    return true
  | .copy d source => do
    match (← process).descriptors.lookup source with
    | some n =>
      connect d n
      return true
    | none =>
      warn s!"{source}: Bad file descriptor"
      return false
  | .text d body => do
    connect d (← addStream (.source body))
    return true
  | .file d kind name => do
    let outcome ←
      if kind = .write && (← process).options.contains 'C' && (← isFile name) then
        pure (.error .fileExists)
      else openFor kind name
    match outcome with
    | .ok n =>
      connect d n
      return true
    | .error f =>
      warn (openFailure kind name f)
      return false

/-- Carries out redirections up to the first that fails. -/
def connectAll : List Joint → Action m Bool
  | [] => return true
  | j :: r => do if ← connectJoint j then connectAll r else return false

def redirected (e : Engine m) (rs : List Redirect) (action : Action m Unit) : Action m Unit := do
  let joints ← rs.mapM (joint e)
  let before := (← process).descriptors
  always (do if ← connectAll joints then action else setStatus 2)
    (change ({ · with descriptors := before }))

/-- What a command's name stands for. -/
inductive Meaning where
  | nothing
  | special
  | function (body : Command)
  | regular
  | program

def Process.meaning (p : Process) (name : String) : Meaning :=
  if Builtin.isSpecial name then .special
  else match p.functions.lookup name with
    | some body => .function body
    | none => if Builtin.regular.contains name then .regular else .program

def behindCommand : List String → List String
  | "-p" :: r => behindCommand r
  | "--" :: r => r
  | args => args

/-- A command without the words that keep functions out, and whether there were any. -/
def withoutCommand : Nat → List String → List String × Bool
  | 0, fields => (fields, false)
  | fuel + 1, fields =>
    match fields with
    | "command" :: r =>
      match behindCommand r with
      | [] => (fields, false)
      | a :: args =>
        if a.startsWith "-" then (fields, false) else ((withoutCommand fuel (a :: args)).1, true)
    | _ => (fields, false)

def trace (assignments fields : List String) : Action m Unit := do
  let p ← process
  if p.options.contains 'x' then
    complain (((p.value? "PS4").getD "+ ") ++ " ".intercalate (assignments ++ fields))

def execFailure (f : IoFault) : String × Nat :=
  if f = .noEntry ∨ f = .notDirectory then ("not found", 127)
  else (faultText f, if f = .nameTooLong ∨ f = .system 40 then 127 else 126)

/-- Goes on as a program, and tells why if that fails. -/
def execOrWarn (e : Engine m) (words : List String) : Action m Nat := do
  match ← e.exec words with
  | .ok status => return status
  | .error f =>
    let (reason, status) := execFailure f
    let name := words.headD ""
    warn s!"{name}: {reason}"
    return status

def describe (long : Bool) (name : String) : Action m (Option String) := do
  let p ← process
  if reserved.contains name then
    return some (if long then s!"{name} is a shell keyword" else name)
  match p.meaning name with
  | .special => return some (if long then s!"{name} is a special shell builtin" else name)
  | .function _ => return some (if long then s!"{name} is a shell function" else name)
  | .regular => return some (if long then s!"{name} is a shell builtin" else name)
  | .nothing | .program =>
    let path ←
      if name.toList.contains '/' then
        pure (if (systemProgram? name).isSome || (← fileExists name) then some name else none)
      else
        pure (← findProgram name).toOption
    return path.map fun path => if long then s!"{name} is {path}" else path

def describeAll (long : Bool) (names : List String) : Action m Nat := do
  let mut text := ""
  let mut status := 0
  for name in names do
    match ← describe long name with
    | some s => text := text ++ s ++ "\n"
    | none =>
      if long then text := text ++ name ++ ": not found\n"
      status := 127
  Builtin.put text status

def runBuiltin (e : Engine m) (mode : Mode) (name : String) (args : List String) :
    Action m Nat := do
  match name with
  | ":" | "true" | "hash" | "alias" | "unalias" | "jobs" | "fg" | "bg" => return 0
  | "false" => return 1
  | "." => Builtin.source e mode args
  | "break" => Builtin.leaveLoops .broken args
  | "continue" => Builtin.leaveLoops .continued args
  | "eval" => Builtin.eval e mode args
  | "exec" =>
    if args.isEmpty then return 0
    throw (.exit (← execOrWarn e args))
  | "exit" => Builtin.leave args
  | "export" =>
    Builtin.mark (·.exported) name (fun x => { x with exported := true }) args
  | "readonly" =>
    Builtin.mark (·.fixed) name (fun x => { x with fixed := true }) args
  | "return" => Builtin.giveBack args
  | "set" => Builtin.set args
  | "shift" => Builtin.shift args
  | "times" => Builtin.put "0m0.000000s 0m0.000000s\n0m0.000000s 0m0.000000s\n" 0
  | "trap" => Builtin.trap args
  | "unset" => Builtin.unset args
  | "cd" | "chdir" => Builtin.changeDirectory args
  | "command" =>
    match args with
    | "-v" :: name :: _ => describeAll false [name]
    | "-V" :: name :: _ => describeAll true [name]
    | _ => return 0
  | "type" => describeAll true args
  | "echo" => Builtin.echo args
  | "printf" => Builtin.print args
  | "getopts" => Builtin.getopts args
  | "kill" => Builtin.kill args
  | "local" => Builtin.locally args
  | "pwd" =>
    let directory := (← process).directory
    Builtin.put (directory ++ "\n") 0
  | "read" => Builtin.read args
  | "test" => Builtin.test false args
  | "[" => Builtin.test true args
  | "ulimit" => Builtin.put "unlimited\n" 0
  | "umask" => Builtin.umask args
  | "wait" => Builtin.wait args
  | _ => return 127

/-- Carries out a command of the shell; an error of one that is not special ends only itself. -/
def callBuiltin (e : Engine m) (mode : Mode) (special : Bool) (name : String)
    (args : List String) : Action m Unit := do
  let before := (← process).command
  change ({ · with command := some name })
  let run : Action m Unit := do setStatus (← runBuiltin e mode name args)
  always (tryCatch run fun
    | .fault n => if special then throw (.fault n) else setStatus n
    | l => throw l) (change ({ · with command := before }))

def callFunction (e : Engine m) (mode : Mode) (body : Command) (args : List String) :
    Action m Unit := do
  let before ← process
  change fun p => { p with arguments := args, loops := 0, calls := p.calls + 1 }
  always (tryCatch (e.run { tested := mode.tested } body) fun
    | .returned n => setStatus n
    | l => throw l)
    (change fun p => { p with
      arguments := before.arguments, loops := before.loops, calls := before.calls })

def callProgram (e : Engine m) (mode : Mode) (words : List String) : Action m Unit := do
  if mode.final && (← process).traps.isEmpty then throw (.exit (← execOrWarn e words))
  setStatus (← apart (execOrWarn e words))

/-- Sets variables; those of a command are hidden again when it is done. -/
def assignAll (e : Engine m) (locally : Bool) (exports : Bool) :
    List (String × Word) → Action m (List String)
  | [] => return []
  | (name, w) :: r => do
    let value ← expandValue (capture e) w
    if locally then hide name
    setVariable name value (locally || exports)
    return (name ++ "=" ++ value) :: (← assignAll e locally exports r)

/-- Runs a simple command: its words are expanded, then redirections and assignments are made. -/
def runSimple (e : Engine m) (mode : Mode) (assignments : List (String × Word))
    (words : List Word) (redirects : List Redirect) : Action m Unit := do
  change ({ · with captured := 0 })
  let all ← commandFields (capture e) [] words
  let (fields, plain) := withoutCommand all.length all
  let name := fields.headD ""
  let args := fields.drop 1
  let p ← process
  let meaning := if fields.isEmpty then Meaning.nothing
    else match p.meaning name with
      | .function body =>
        if !plain then .function body
        else if Builtin.regular.contains name then .regular else .program
      | x => x
  let special := match meaning with
    | .special => !plain
    | _ => false
  let lasts := match meaning with
    | .nothing => true
    | _ => special
  let joints ← redirects.mapM (joint e)
  let before := p.descriptors
  let connected ← connectAll joints
  if !connected then
    change ({ · with descriptors := before })
    setStatus 2
    if special then throw (.fault 2)
  else
    if !lasts then change fun p => { p with hidden := [] :: p.hidden }
    let body : Action m Unit := do
      let shown ← assignAll e (!lasts) (name = "exec" && !args.isEmpty) assignments
      let output := (← process).descriptors
      change ({ · with descriptors := before })
      trace shown all
      change ({ · with descriptors := output })
      match meaning with
      | .nothing => setStatus (← process).captured
      | .special | .regular => callBuiltin e mode special name args
      | .function body => callFunction e mode body args
      | .program => callProgram e mode fields
    always body do
      if !lasts then change (·.reveal)
      change fun p => { p with
        descriptors := if name = "exec" && args.isEmpty && special then p.descriptors else before }

def maxRounds : Nat := 100000

/-- Runs the body of a loop once: whether the loop goes on. -/
def round (body : Action m Unit) : Action m Bool :=
  tryCatch (do
    body
    return true) fun
    | .broken n => do
      setStatus 0
      if 1 < n then throw (.broken (n - 1)) else return false
    | .continued n => do
      setStatus 0
      if 1 < n then throw (.continued (n - 1)) else return true
    | l => throw l

def looped (action : Action m Unit) : Action m Unit := do
  change fun p => { p with loops := p.loops + 1 }
  always action (change fun p => { p with loops := p.loops - 1 })

/-- Runs the body as long as the condition has the right outcome. The status is that of the last
round. -/
def runRounds (goOn : Bool) (condition body : Action m Unit) : Nat → Nat → Action m Unit
  | 0, _ => throw .exhausted
  | n + 1, last => do
    let holds ← round condition
    if !holds then return
    if ((← process).status = 0) ≠ goOn then setStatus last
    else if ← round body then runRounds goOn condition body n (← process).status

def runEach (e : Engine m) (mode : Mode) (name : String) (body : Command) :
    List String → Action m Unit
  | [] => return
  | v :: vs => do
    setVariable name v false
    if ← round (e.run { tested := mode.tested } body) then runEach e mode name body vs

def chooseArm (e : Engine m) (text : String) :
    List (List Word × Option Command) → Action m (Option Command)
  | [] => return none
  | (ws, body) :: r => do
    let fits ← ws.anyM fun w => do
      return (← expandPattern (capture e) w).accepts text.toList
    if fits then return body else chooseArm e text r

/-- Runs the stages of a pipeline; each reads what the one before wrote. -/
def runStages (e : Engine m) (mode : Mode) : Option Nat → List Command → Action m Unit
  | _, [] => return
  | input, c :: cs => do
    let output ← addStream (.sink [])
    let stage : Action m Nat := do
      match input with
      | some n => connect 0 n
      | none => pure ()
      if !cs.isEmpty then connect 1 output
      e.whole (e.run { tested := mode.tested, final := true } c)
    let status ← tryCatch (apart stage) fun
      | .exhausted => if cs.isEmpty then throw .exhausted else return 141
      | l => throw l
    setStatus status
    runStages e mode (some (← addStream (.source (← collected output)))) cs

/-- Leaves the shell if the option for it is set and a command failed that was not tested. -/
def checkFailure (mode : Mode) : Action m Unit := do
  let p ← process
  if !mode.tested && p.options.contains 'e' && p.status ≠ 0 then throw (.exit p.status)

def setLine (line : Nat) : Action m Unit := change ({ · with line := line })

/-- Runs a command in a process of its own that goes on by itself. -/
def runBackground (e : Engine m) (c : Command) : Action m Unit := do
  let number := (← get).unused
  let input ← addStream .null
  let status ← apart do
    connect 0 input
    e.whole (e.run { final := true } c)
  change fun p => { p with background := (number, status) :: p.background }
  setStatus 0

def runCommand (e : Engine m) (mode : Mode) (c : Command) : Action m Unit := do
  e.answer
  match c with
  | .simple assignments words redirects line =>
    setLine line
    runSimple e mode assignments words redirects
    e.answer
    checkFailure mode
  | .pipeline cs =>
    runStages e mode none cs
    e.answer
    checkFailure mode
  | .inverse c =>
    e.run { tested := true } c
    change fun p => { p with status := if p.status = 0 then 1 else 0 }
  | .both c d =>
    e.run { tested := true } c
    if (← process).status = 0 then runCommand e mode d
  | .either c d =>
    e.run { tested := true } c
    if (← process).status ≠ 0 then runCommand e mode d
  | .sequence c d =>
    runCommand e { tested := mode.tested } c
    runCommand e mode d
  | .background c => runBackground e c
  | .redirected c redirects line =>
    setLine line
    redirected e redirects (e.run { tested := mode.tested } c)
  | .subshell c redirects line =>
    setLine line
    let body : Action m Unit := redirected e redirects (e.run { mode with final := true } c)
    setStatus (← apart (e.whole body))
    e.answer
    checkFailure mode
  | .choice condition body otherwise =>
    e.run { tested := true } condition
    if (← process).status = 0 then runCommand e mode body
    else match otherwise with
      | some c => e.run mode c
      | none => setStatus 0
  | .each name words body line =>
    setLine line
    let values ← expandAll (capture e) words
    setStatus 0
    looped (runEach e mode name body values)
  | .loop goOn condition body =>
    looped (runRounds goOn (e.run { tested := true } condition)
      (e.run { tested := mode.tested } body) maxRounds 0)
  | .cases subject arms line =>
    setLine line
    let text ← expandText (capture e) subject
    match ← chooseArm e text arms with
    | some c => e.run mode c
    | none => setStatus 0
  | .define name body _ =>
    change fun p => { p with functions := (name, body) :: p.functions.filter (·.1 ≠ name) }
    setStatus 0

/-- Runs the lines of a script; a script without commands succeeds. -/
def runLines (e : Engine m) (mode : Mode) : Nat → Bool → Lexemes → Action m Unit
  | 0, _, _ => return
  | fuel + 1, ran, ts => do
    match commandLine? ts with
    | .error f =>
      setLine f.line
      fail s!"Syntax error: {f.message}"
    | .ok (c, rest) =>
      let last := isFinished rest
      match c with
      | some c => e.run { mode with final := mode.final && last } c
      | none => pure ()
      let ran := ran || c.isSome
      if !last then runLines e mode fuel ran rest
      else if !ran then setStatus 0

def runScript (e : Engine m) (mode : Mode) (text : List Char) : Action m Unit :=
  let ts := tokens text
  runLines e mode (ts.length + 1) false ts

end DumpWorkbench.Shell
