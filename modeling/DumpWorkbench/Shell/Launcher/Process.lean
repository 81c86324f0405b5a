import DumpWorkbench.Shell.State

namespace DumpWorkbench.Shell

variable {m : Type → Type} [Monad m] [Files m]

/-- How a command is run: in a tested one no failure ends the shell, and behind a final one nothing
is left to do. -/
structure Mode where
  tested : Bool := false
  final : Bool := false

/-- What commands and programs need of the shell that runs them. `exec` goes on as another program
and gives its status. -/
structure Engine (m : Type → Type) where
  run : Mode → Command → Action m Unit
  script : Mode → List Char → Action m Unit
  exec : List String → Action m (Except IoFault Nat)

def signalNames : List (String × Nat) :=
  [("HUP", 1), ("INT", 2), ("QUIT", 3), ("ILL", 4), ("TRAP", 5), ("ABRT", 6), ("BUS", 7),
    ("FPE", 8), ("KILL", 9), ("USR1", 10), ("SEGV", 11), ("USR2", 12), ("PIPE", 13), ("ALRM", 14),
    ("TERM", 15), ("STKFLT", 16), ("CHLD", 17), ("CONT", 18), ("STOP", 19), ("TSTP", 20),
    ("TTIN", 21), ("TTOU", 22), ("URG", 23), ("XCPU", 24), ("XFSZ", 25), ("VTALRM", 26),
    ("PROF", 27), ("WINCH", 28), ("IO", 29), ("PWR", 30), ("SYS", 31)]

def signalNumber? (name : String) : Option Nat :=
  match name.toNat? with
  | some n => if n ≤ 64 then some n else none
  | none =>
    let upper := String.ofList (name.toList.map Char.toUpper)
    let short := if upper.startsWith "SIG" then String.ofList (upper.toList.drop 3) else upper
    if short = "EXIT" then some 0 else signalNames.lookup short

def signalName (n : Nat) : String :=
  if n = 0 then "EXIT" else ((signalNames.find? (·.2 = n)).map (·.1)).getD (toString n)

/-- Signals that end no process that does not wait for them. -/
def isHarmless (signal : Nat) : Bool := [0, 17, 18, 19, 20, 21, 22, 23, 28].contains signal

def epitaph : Nat → String
  | 1 => "Hangup"
  | 2 => ""
  | 3 => "Quit"
  | 4 => "Illegal instruction"
  | 5 => "Trace/breakpoint trap"
  | 6 => "Aborted"
  | 7 => "Bus error"
  | 8 => "Floating point exception"
  | 9 => "Killed"
  | 10 => "User defined signal 1"
  | 11 => "Segmentation fault"
  | 12 => "User defined signal 2"
  | 13 => ""
  | 14 => "Alarm clock"
  | 15 => "Terminated"
  | 16 => "Stack fault"
  | 24 => "CPU time limit exceeded"
  | 25 => "File size limit exceeded"
  | 26 => "Virtual timer expired"
  | 27 => "Profiling timer expired"
  | 29 => "I/O possible"
  | 30 => "Power failure"
  | 31 => "Bad system call"
  | n => s!"Unknown signal {n}"

def arrive (signal : Nat) : Action m Unit := do
  let p ← process
  match (if signal = 9 then none else p.traps.lookup signal) with
  | some "" => return
  | some _ => change fun p => { p with pending := p.pending ++ [signal] }
  | none => if !isHarmless signal then throw (.killed p.number signal)

def systemDirectories : List String := ["/bin/", "/usr/bin/"]

def systemPrograms : List String :=
  ["[", "base64", "basename", "cat", "chmod", "cmp", "comm", "cp", "cut", "dd", "diff", "dirname",
    "echo", "egrep", "env", "expr", "false", "fgrep", "find", "fold", "grep", "head", "id", "kill",
    "ls", "mkdir", "mv", "nice", "nl", "nohup", "od", "paste", "printenv", "printf", "pwd",
    "readlink", "realpath", "rev", "rm", "rmdir", "sed", "seq", "sleep", "sort", "stat", "sync",
    "tac", "tail", "tee", "test", "timeout", "touch", "tr", "true", "truncate", "tty", "uname",
    "uniq", "wc", "which", "whoami", "xargs", "yes"]

def isShellName (name : String) : Bool := ["sh", "dash", "bash"].contains name

def systemProgram? (path : String) : Option String :=
  systemDirectories.findSome? fun d =>
    if path.startsWith d then
      let name := String.ofList (path.toList.drop d.length)
      if systemPrograms.contains name || isShellName name then some name else none
    else none

def Process.searchPath (p : Process) : List String :=
  ((p.value? "PATH").getD
    "/usr/local/sbin:/usr/local/bin:/usr/sbin:/usr/bin:/sbin:/bin").splitOn ":"

def findProgram (name : String) : Action m (Except IoFault String) := do
  if name.toList.contains '/' then return .ok name
  if name = "" then return .error .noEntry
  let mut failure := IoFault.noEntry
  for d in (← process).searchPath do
    let path := (if d = "" then "." else d) ++ "/" ++ name
    if (systemProgram? path).isSome then return .ok path
    if ← isFile path then
      let p ← resolve path
      if ← (Files.isExecutable p : m Bool) then return .ok path
      failure := .denied
  return .error failure

/-- What a shell in a process of its own keeps of the scripts for signals: that some are ignored. -/
def ignored (traps : List (Nat × String)) : List (Nat × String) := traps.filter (·.2 = "")

/-- Runs a body in a process of its own and gives its status. What it does to its variables and
descriptors is forgotten afterwards. -/
def apart (body : Action m Nat) : Action m Nat := do
  let s ← get
  let before := s.process
  let n := s.unused
  set { s with
    unused := n + 1
    process := { before with
      number := n, parent := before.number, traps := ignored before.traps, pending := [] } }
  let outcome ← tryCatch (Except.ok <$> body) fun l => return .error l
  modify fun s => { s with process := before }
  match outcome with
  | .ok status => return status
  | .error (.exit status) | .error (.fault status) | .error (.returned status) => return status
  | .error (.broken _) | .error (.continued _) => return 0
  | .error (.killed k signal) =>
    if k = n then
      if epitaph signal ≠ "" then complain (epitaph signal)
      return 128 + signal
    else if k = before.number then
      arrive signal
      return 0
    else throw (.killed k signal)
  | .error .exhausted => throw .exhausted

/-- Goes on as another program, which keeps the environment, the directory and the descriptors. -/
def become (name : String) (arguments : List String) : Action m Unit :=
  change fun p => {
    name := name
    arguments := arguments
    directory := p.directory
    bindings := p.bindings.filter (·.2.exported)
    traps := ignored p.traps
    number := p.number
    shell := p.number
    parent := p.parent
    descriptors := p.descriptors }

/-- The status with which an action ends the shell, or with which it comes to its end. -/
def ended (action : Action m Unit) : Action m Nat :=
  tryCatch (do
    action
    return (← process).status) fun
    | .exit status | .fault status | .returned status => return status
    | .broken _ | .continued _ => return (← process).status
    | l => throw l

/-- Runs an action as all that a shell does, and the script for its end behind it. -/
def Engine.whole (e : Engine m) (action : Action m Unit) : Action m Nat := do
  let status ← ended action
  match (← process).traps.lookup 0 with
  | none | some "" => return status
  | some text =>
    change fun p => { p with
      traps := p.traps.filter (·.1 ≠ 0), status := status, leaving := some status }
    tryCatch (do
      e.script {} text.toList
      return status) fun
      | .exit n | .fault n => return n
      | .returned _ | .broken _ | .continued _ => return status
      | l => throw l

/-- Runs the scripts for the signals that came. They leave the status as it was. -/
def Engine.answer (e : Engine m) : Action m Unit := do
  let p ← process
  if p.pending.isEmpty then return
  change ({ · with pending := [], leaving := some p.status })
  for signal in p.pending do
    match p.traps.lookup signal with
    | some text => e.script {} text.toList
    | none => pure ()
  change ({ · with status := p.status, leaving := p.leaving })

end DumpWorkbench.Shell
