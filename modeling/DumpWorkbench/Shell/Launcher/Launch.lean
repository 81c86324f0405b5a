import DumpWorkbench.Shell.Launcher.Run
import DumpWorkbench.Shell.Launcher.Utility.Programs

namespace DumpWorkbench.Shell

variable {m : Type → Type} [Monad m] [Files m]

/-- What a file is as a program. -/
inductive Image where
  | shell
  | utility (name : String)
  | script (interpreter : String) (argument : Option String)
deriving DecidableEq, Repr

/-- How much of a file is looked at to find out its interpreter. -/
def headSize : Nat := 255

def trimBlanks (cs : List Char) : List Char :=
  ((cs.dropWhile isBlank).reverse.dropWhile isBlank).reverse

/-- The interpreter that the first line of a script names, with one argument at most. -/
def interpreter? (content : String) : Option Image :=
  match content.toList with
  | '#' :: '!' :: r =>
    let head := r.take headSize
    let line := head.takeWhile fun c => c ≠ '\n' && c ≠ '\x00'
    let text := trimBlanks line
    let name := text.takeWhile (!isBlank ·)
    let rest := trimBlanks (text.drop name.length)
    let isCut := line.length = headSize && rest.isEmpty
    if name.isEmpty || isCut then none
    else some (.script (String.ofList name)
      (if rest.isEmpty then none else some (String.ofList rest)))
  | _ => none

def imageAt (path : String) : Action m (Except IoFault Image) := do
  match systemProgram? path with
  | some name => return .ok (if isShellName name then .shell else .utility name)
  | none =>
    if path = "" then return .error .noEntry
    let p ← resolve path
    if ← (Files.isDirectory p : m Bool) then return .error .denied
    match ← (Files.readFile p : m _) with
    | .error f => return .error f
    | .ok content =>
      if !(← (Files.isExecutable p : m Bool)) then return .error .denied
      match interpreter? (ofBytes content) with
      | some image => return .ok image
      | none => return .error .badProgram

/-- How a shell is called: where its script comes from, and the arguments. -/
structure Call where
  command : Bool := false
  input : Bool := false
  rest : List String

def shellOptions : List String → Bool → Bool → Action m Call
  | [], command, input => return ⟨command, input, []⟩
  | a :: r, command, input =>
    match a.toList with
    | ['-'] | ['-', '-'] => return ⟨command, input, r⟩
    | sign :: c :: cs => do
      if sign ≠ '-' && sign ≠ '+' then return ⟨command, input, a :: r⟩
      let letters := c :: cs
      for l in letters do
        if l ≠ 'c' && l ≠ 'l' && l ≠ 'o' then
          if Builtin.optionNames.any (·.2 = l) then Builtin.setOption l (sign = '-')
          else fail s!"Illegal option {sign}{l}"
      let command := command || letters.contains 'c'
      let input := input || letters.contains 's'
      if letters.contains 'o' then
        match r with
        | name :: rest =>
          match Builtin.optionNames.lookup name with
          | some l => Builtin.setOption l (sign = '-')
          | none => fail s!"Illegal option {sign}o {name}"
          shellOptions rest command input
        | [] => return ⟨command, input, []⟩
      else shellOptions r command input
    | _ => return ⟨command, input, a :: r⟩

def runNamed (e : Engine m) (mode : Mode) (name : String) (arguments : List String)
    (text : String) : Action m Nat := do
  change fun p => { p with name := name, arguments := arguments, line := 1 }
  e.whole (e.script mode text.toList)

def runShell (e : Engine m) : Action m Nat := do
  let p ← process
  setLine 0
  change (·.setVariable "PWD" { value := some p.directory, exported := true })
  change (·.setVariable "OPTIND" { value := some "1" })
  change (·.setVariable "PPID" { value := some (toString p.parent) })
  tryCatch (do
    let call ← shellOptions p.arguments false false
    if call.command then
      match call.rest with
      | [] => fail "-c requires an argument"
      | text :: rest => runNamed e { final := true } (rest.headD p.name) (rest.drop 1) text
    else match (if call.input then [] else call.rest) with
      | file :: rest =>
        match ← readFile file with
        | .ok text => runNamed e {} file rest text
        | .error f =>
          if f = .isDirectory then return 0
          let reason := if f = .noEntry ∨ f = .notDirectory then "No such file" else faultText f
          fail s!"cannot open {file}: {reason}"
      | [] =>
        let text := match ← readAll 0 with
          | .ok s => s
          | .error _ => ""
        runNamed e {} p.name call.rest text) fun
    | .fault n => return n
    | l => throw l

/-- How many interpreters may stand behind each other. -/
def maxInterpreters : Nat := 6

def execAt (e : Engine m) : Nat → String → List String → Action m (Except IoFault Nat)
  | 0, _, _ => return .error (.system 40)
  | fuel + 1, path, words => do
    match ← imageAt path with
    | .error f => return .error f
    | .ok .shell =>
      become (words.headD path) (words.drop 1)
      return .ok (← runShell e)
    | .ok (.utility name) =>
      become (words.headD path) (words.drop 1)
      match Utility.run? e name with
      | some run => return .ok (← run (words.drop 1))
      | none => return .error .noEntry
    | .ok (.script interpreter argument) =>
      execAt e fuel interpreter (interpreter :: argument.toList ++ path :: words.drop 1)

/-- Goes on as a program that is looked for. A file that the system takes for no program is taken
for a script. -/
def exec (e : Engine m) (words : List String) : Action m (Except IoFault Nat) := do
  match ← findProgram (words.headD "") with
  | .error f => return .error f
  | .ok path =>
    match ← execAt e maxInterpreters path words with
    | .error f =>
      if f = .badProgram then
        become "/bin/sh" (path :: words.drop 1)
        return .ok (← runShell e)
      else return .error f
    | .ok status => return .ok status

def engine : Nat → Engine m
  | 0 => ⟨fun _ _ => throw .exhausted, fun _ _ => throw .exhausted, fun _ => throw .exhausted⟩
  | n + 1 =>
    let e := engine n
    ⟨runCommand e, runScript e, exec e⟩

/-- How deep commands may nest. -/
def maxDepth : Nat := 1000

def maxArgument : Nat := 131072

def commonEnvironment : List (String × String) :=
  [("PATH", "/usr/local/sbin:/usr/local/bin:/usr/sbin:/usr/bin:/sbin:/bin"), ("HOME", "/root")]

def variablesOf (environment : List (String × String)) : List (String × Variable) :=
  let inherited := commonEnvironment.filter fun x => (environment.lookup x.1).isNone
  (environment ++ inherited).map fun (name, value) =>
    (packed name, { value := some (packed value), exported := true })

/-- A machine with one process, which reads nothing and whose output is kept. -/
def Machine.start (environment : List (String × String)) (name : String) (arguments : List String)
    (directory : String) : Machine where
  streams := #[.null, .sink [], .sink []]
  unused := 4243
  process := {
    name := name
    arguments := arguments
    directory := directory
    bindings := variablesOf environment
    number := 4242
    shell := 4242
    parent := 4241
    descriptors := [(0, 0), (1, 1), (2, 2)] }

def Machine.exit (s : Machine) (outcome : Except Leaving Nat) : Exit :=
  let output (n : Nat) : Bytes := match s.streams[n]? with
    | some (.sink ts) => toBytes (String.join ts.reverse)
    | _ => []
  let code : Option Int := match outcome with
    | .ok status => some status
    | .error (.exit status) | .error (.fault status) | .error (.returned status) => some status
    | .error (.broken _) | .error (.continued _) => some 0
    | .error (.killed _ _) | .error .exhausted => none
  ⟨output 1, output 2, code⟩

def launch (environment : List (String × String)) (words : List String) :
    m (Except IoFault Exit) := do
  match words with
  | [] => return .error .noEntry
  | program :: _ =>
    if words.any (·.toList.contains '\x00') then return .error .zeroByteInCommand
    let packedWords := words.map packed
    if packedWords.any (maxArgument ≤ ·.length) then return .error (.system 7)
    if !program.toList.contains '/' then
      if 255 < (packed program).length then return .error .nameTooLong
      if program = "." ∨ program = ".." then return .error .denied
    let e : Engine m := engine maxDepth
    let run : Action m (Except IoFault Nat) := do
      match ← findProgram (packed program) with
      | .error f => return .error f
      | .ok path => execAt e maxInterpreters path packedWords
    let directory := packed (← (Files.workingDirectory : m _)).text
    let (outcome, s) ← run.run (.start environment (packed program) (packedWords.drop 1) directory)
    match outcome with
    | .ok (.error f) => return .error f
    | .ok (.ok status) => return .ok (s.exit (.ok status))
    | .error l => return .ok (s.exit (.error l))

end DumpWorkbench.Shell
