import DumpWorkbench.Host
import DumpWorkbench.Shell.Script

namespace DumpWorkbench.Shell

structure Variable where
  value : Option String := none
  exported : Bool := false
  fixed : Bool := false
deriving DecidableEq, Repr

/-- What a descriptor stands for: a file with a place in it, a text that is left to read, a text
that grows, or a device. -/
inductive Stream where
  | file (path : Path) (place : Nat) (appends reads writes : Bool)
  | source (rest : String)
  | sink (written : List String)
  | null
  | zeros
  | full
deriving DecidableEq, Repr

structure Process where
  /-- The name that complaints begin with. -/
  name : String
  arguments : List String
  /-- The working directory, an absolute path. -/
  directory : String
  /-- The variables with their names. -/
  bindings : List (String × Variable)
  functions : List (String × Command) := []
  /-- The variables that the calls of functions hide, the innermost call first. -/
  hidden : List (List (String × Option Variable)) := []
  options : List Char := []
  /-- The scripts for signals; 0 is the end of the shell. -/
  traps : List (Nat × String) := []
  /-- Signals that came and whose script is still to run. -/
  pending : List Nat := []
  status : Nat := 0
  /-- The status that was there when the script for a signal began to run. -/
  leaving : Option Nat := none
  /-- The status of the last script whose output was taken. -/
  captured : Nat := 0
  line : Nat := 1
  /-- The command that runs, for its complaints. -/
  command : Option String := none
  loops : Nat := 0
  /-- The place inside a word of options that is read one by one. -/
  optionPlace : Nat := 0
  mask : String := "0022"
  calls : Nat := 0
  /-- The numbers of the process, of the shell that it belongs to, and of its parent. -/
  number : Nat
  shell : Nat
  parent : Nat
  /-- The processes that were started in the background with their statuses, the last one first. -/
  background : List (Nat × Nat) := []
  descriptors : List (Nat × Nat)

structure Machine where
  streams : Array Stream
  /-- The number of the next process. -/
  unused : Nat
  process : Process

/-- What ends a command before its time. -/
inductive Leaving where
  | exit (status : Nat)
  | fault (status : Nat)
  | killed (process signal : Nat)
  | broken (loops : Nat)
  | continued (loops : Nat)
  | returned (status : Nat)
  | exhausted
deriving DecidableEq, Repr

abbrev Action (m : Type → Type) := ExceptT Leaving (StateT Machine m)

variable {m : Type → Type} [Monad m] [Files m]

def process : Action m Process := do return (← get).process

def change (f : Process → Process) : Action m Unit :=
  modify fun s => { s with process := f s.process }

def setStatus (n : Nat) : Action m Unit := change ({ · with status := n })

def resolve (name : String) : Action m Path := do
  let p ← process
  return toPath (if name = "" ∨ name.startsWith "/" then name
    else (if p.directory = "/" then "/" else p.directory ++ "/") ++ name)

def faultText : IoFault → String
  | .system code => systemErrorText code
  | e => e.message

def fileExists (name : String) : Action m Bool := do
  let p ← resolve name
  (Files.isPresent p : m Bool)

def isDirectory (name : String) : Action m Bool := do
  let p ← resolve name
  (Files.isDirectory p : m Bool)

def isFile (name : String) : Action m Bool := do
  return (← fileExists name) && !(← isDirectory name)

def readFile (name : String) : Action m (Except IoFault String) := do
  let p ← resolve name
  return (← (Files.readFile p : m _)).map ofBytes

def namesIn (name : String) : Action m (Except IoFault (List String)) := do
  let p ← resolve name
  return (← (Files.list p : m _)).map fun ns => (ns.map packed).mergeSort fun a b => a ≤ b

def badDescriptor : IoFault := .system 9

def noSpace : IoFault := .system 28

def stream? (descriptor : Nat) : Action m (Option (Nat × Stream)) := do
  let s ← get
  match s.process.descriptors.lookup descriptor with
  | none => return none
  | some n => return (s.streams[n]?).map (n, ·)

def setStream (n : Nat) (x : Stream) : Action m Unit :=
  modify fun s => { s with streams := s.streams.setIfInBounds n x }

def addStream (x : Stream) : Action m Nat := do
  let n := (← get).streams.size
  modify fun s => { s with streams := s.streams.push x }
  return n

/-- Puts a text into a file from a place on. A file that was removed takes nothing. -/
def writeAt (path : Path) (place : Nat) (text : String) : Action m (Except IoFault Unit) := do
  if !(← (Files.isPresent path : m Bool)) then return .ok ()
  match ← (Files.readFile path : m _) with
  | .error e => return .error e
  | .ok old =>
    let new := toBytes text
    if place = old.length then (Files.appendFile path new : m _)
    else
      let gap := List.replicate (place - old.length) 0
      (Files.writeFile path (old.take place ++ gap ++ new ++ old.drop (place + new.length)) : m _)

def write (descriptor : Nat) (text : String) : Action m (Except IoFault Unit) := do
  match ← stream? descriptor with
  | none => return .error badDescriptor
  | some (n, x) =>
    match x with
    | .sink ts =>
      setStream n (.sink (text :: ts))
      return .ok ()
    | .file path place appends reads true =>
      if appends then
        if !(← (Files.isPresent path : m Bool)) then return .ok ()
        (Files.appendFile path (toBytes text) : m _)
      else
        setStream n (.file path (place + text.length) false reads true)
        writeAt path place text
    | .null | .zeros => return .ok ()
    | .full => return if text = "" then .ok () else .error noSpace
    | _ => return .error badDescriptor

def readAll (descriptor : Nat) : Action m (Except IoFault String) := do
  match ← stream? descriptor with
  | none => return .error badDescriptor
  | some (n, x) =>
    match x with
    | .source rest =>
      setStream n (.source "")
      return .ok rest
    | .file path place appends true writes =>
      match ← (Files.readFile path : m _) with
      | .error e => return .error e
      | .ok b =>
        setStream n (.file path (max place b.length) appends true writes)
        return .ok (ofBytes (b.drop place))
    | .null | .zeros | .full => return .ok ""
    | _ => return .error badDescriptor

def unread (descriptor : Nat) (text : String) : Action m Unit := do
  match ← stream? descriptor with
  | some (n, .source rest) => setStream n (.source (text ++ rest))
  | some (n, .file path place appends reads writes) =>
    setStream n (.file path (place - text.length) appends reads writes)
  | _ => return

def say (text : String) : Action m (Except IoFault Unit) := write 1 text

def complain (text : String) : Action m Unit := do
  let _ ← write 2 (text ++ "\n")

def warn (text : String) : Action m Unit := do
  let p ← process
  let start := s!"{p.name}: {p.line}: "
  complain (match p.command with
    | some c => start ++ c ++ ": " ++ text
    | none => start ++ text)

def fail (text : String) : Action m α := do
  warn text
  throw (.fault 2)

def connect (descriptor n : Nat) : Action m Unit :=
  change fun p => { p with
    descriptors := (descriptor, n) :: p.descriptors.filter (·.1 ≠ descriptor) }

def disconnect (descriptor : Nat) : Action m Unit :=
  change fun p => { p with descriptors := p.descriptors.filter (·.1 ≠ descriptor) }

/-- The device or descriptor that a path stands for. -/
inductive Device where
  | stream (x : Stream)
  | descriptor (n : Nat)
deriving DecidableEq, Repr

def device? (path : String) : Option Device :=
  match path with
  | "/dev/null" => some (.stream .null)
  | "/dev/zero" => some (.stream .zeros)
  | "/dev/full" => some (.stream .full)
  | "/dev/stdin" => some (.descriptor 0)
  | "/dev/stdout" => some (.descriptor 1)
  | "/dev/stderr" => some (.descriptor 2)
  | _ =>
    if path.startsWith "/dev/fd/" then
      (String.ofList (path.toList.drop 8)).toNat?.map Device.descriptor
    else none

/-- Opens a file for a redirection and gives the number of its stream. -/
def openFor (kind : Redirection) (name : String) : Action m (Except IoFault Nat) := do
  match device? name with
  | some (.stream x) => return .ok (← addStream x)
  | some (.descriptor d) =>
    match ← stream? d with
    | some (n, _) => return .ok n
    | none => return .error .noEntry
  | none =>
    let path ← resolve name
    let opened (result : Except IoFault Unit) (appends reads writes : Bool) :
        Action m (Except IoFault Nat) := do
      match result with
      | .ok _ => return .ok (← addStream (.file path 0 appends reads writes))
      | .error e => return .error e
    match kind with
    | .write | .overwrite => opened (← (Files.writeFile path [] : m _)) false false true
    | .append => opened (← (Files.appendFile path [] : m _)) true false true
    | .both => opened (← (Files.appendFile path [] : m _)) false true true
    | _ =>
      match ← (Files.readFile path : m _) with
      | .ok _ => opened (.ok ()) false true false
      | .error e => if e = .isDirectory then opened (.ok ()) false true false else return .error e

def Process.setVariable (p : Process) (name : String) (x : Variable) : Process :=
  { p with bindings := (name, x) :: p.bindings.filter (·.1 ≠ name) }

def Process.value? (p : Process) (name : String) : Option String :=
  (p.bindings.lookup name).bind (·.value)

def Process.value (p : Process) (name : String) : String := (p.value? name).getD ""

def setVariable (name value : String) (exported : Bool) : Action m Unit := do
  let p ← process
  let old := (p.bindings.lookup name).getD {}
  if old.fixed then fail s!"{name}: is read only"
  let exported := old.exported || exported || p.options.contains 'a'
  change (·.setVariable name { old with value := some value, exported := exported })

def unsetVariable (name : String) : Action m Unit := do
  let p ← process
  match p.bindings.lookup name with
  | none => return
  | some old =>
    if old.fixed then fail s!"{name}: is read only"
    change fun p => { p with bindings := p.bindings.filter (·.1 ≠ name) }

def hide (name : String) : Action m Unit :=
  change fun p =>
    match p.hidden with
    | [] => p
    | frame :: outer =>
      if frame.any (·.1 = name) then p
      else { p with hidden := ((name, p.bindings.lookup name) :: frame) :: outer }

def Process.reveal (p : Process) : Process :=
  match p.hidden with
  | [] => p
  | frame :: outer =>
    let p := frame.foldl (fun p (name, x) =>
      match x with
      | some x => p.setVariable name x
      | none => { p with bindings := p.bindings.filter (·.1 ≠ name) }) p
    { p with hidden := outer }

def Process.environment (p : Process) : List (String × String) :=
  p.bindings.filterMap fun (name, x) =>
    if x.exported then x.value.map (name, ·) else none

end DumpWorkbench.Shell
