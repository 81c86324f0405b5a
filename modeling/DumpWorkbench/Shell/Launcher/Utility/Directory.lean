import DumpWorkbench.Shell.Launcher.Utility.Excerpt

namespace DumpWorkbench.Shell.Utility

variable {m : Type → Type} [Monad m] [Files m]

def joined (directory name : String) : String :=
  if directory.endsWith "/" then directory ++ name else directory ++ "/" ++ name

def withoutSlashes (path : String) : String :=
  let cs := (path.toList.reverse.dropWhile (· = '/')).reverse
  if cs.isEmpty && path ≠ "" then "/" else String.ofList cs

def parentOf (path : String) : String :=
  let cs := (withoutSlashes path).toList
  let front := (cs.reverse.dropWhile (· ≠ '/')).reverse
  if front.isEmpty then "." else withoutSlashes (String.ofList front)

def absence (path : String) : Action m IoFault := do
  match ← readFile path with
  | .error f => return if f = .isDirectory then .noEntry else f
  | .ok _ => return .noEntry

def makeOne (name : String) : Action m (Except IoFault Unit) := do
  if ← fileExists name then return .error .fileExists
  let parent := parentOf name
  if ← isDirectory parent then
    let p ← resolve name
    (Files.makeDirectories p : m _)
  else if ← fileExists parent then return .error .notDirectory
  else return .error (← absence parent)

def ancestors (path : String) : List String :=
  let parts := (withoutSlashes path).splitOn "/"
  (List.range parts.length).filterMap fun n =>
    let p := "/".intercalate (parts.take (n + 1))
    if p = "" then none else some p

def mkdir (args : List String) : Action m Nat :=
  withOptions [⟨'p', ["parents"], .nothing⟩, ⟨'m', ["mode"], .something⟩,
    ⟨'v', ["verbose"], .nothing⟩] args fun g => do
    if g.operands.isEmpty then withoutOperand 1
    else
      let mut status := 0
      let mut text := ""
      for name in g.operands do
        let mut failed := false
        for path in (if g.has 'p' then ancestors name else [name]) do
          if !failed && !(g.has 'p' && (← isDirectory path)) then
            match ← makeOne path with
            | .ok _ =>
              if g.has 'v' then text := text ++ s!"mkdir: created directory {quoted path}\n"
            | .error f =>
              let reason := if g.has 'p' ∧ f = .fileExists then IoFault.notDirectory else f
              let reason := if path = name then f else reason
              tell s!"cannot create directory {curly path}: {faultText reason}"
              failed := true
              status := 1
      put text status

def removePath (name : String) : Action m (Except IoFault Unit) := do
  let p ← resolve name
  (Files.remove p : m _)

def removeEmpty (name : String) : Action m (Except IoFault Unit) := do
  match ← namesIn name with
  | .error f => return .error f
  | .ok [] => removePath name
  | .ok _ => return .error .directoryNotEmpty

def rmdir (args : List String) : Action m Nat :=
  withOptions [⟨'p', ["parents"], .nothing⟩, ⟨'v', ["verbose"], .nothing⟩,
    ⟨'\x01', ["ignore-fail-on-non-empty"], .nothing⟩] args fun g => do
    if g.operands.isEmpty then withoutOperand 1
    else
      let mut status := 0
      for name in g.operands do
        let mut failed := false
        for path in (if g.has 'p' then (ancestors name).reverse else [name]) do
          if !failed then
            match ← removeEmpty path with
            | .ok _ => pure ()
            | .error f =>
              failed := true
              if !(g.has '\x01' && f = .directoryNotEmpty) then
                tell s!"failed to remove {quoted path}: {faultText f}"
                status := 1
      return status

/-- What `rm` says that it removed, the inner files first. -/
def removedNames : Nat → String → Action m (List String)
  | 0, _ => return []
  | fuel + 1, name => do
    if ← isDirectory name then
      let mut lines := []
      match ← namesIn name with
      | .ok names => for n in names do lines := lines ++ (← removedNames fuel (joined name n))
      | .error _ => pure ()
      return lines ++ [s!"removed directory {quoted name}\n"]
    else return [s!"removed {quoted name}\n"]

def rm (args : List String) : Action m Nat :=
  withOptions [⟨'r', ["recursive"], .nothing⟩, ⟨'R', [], .nothing⟩, ⟨'f', ["force"], .nothing⟩,
    ⟨'d', ["dir"], .nothing⟩, ⟨'v', ["verbose"], .nothing⟩, ⟨'i', [], .nothing⟩,
    ⟨'I', [], .nothing⟩] args fun g => do
    if g.operands.isEmpty then
      if g.has 'f' then return 0 else withoutOperand 1
    else
      let recursive := g.has 'r' || g.has 'R'
      let mut status := 0
      let mut text := ""
      for name in g.operands do
        let problem ←
          if recursive && ["", ".", ".."].contains (lastPart name) && name ≠ "" then
            tell ("refusing to remove \x27.\x27 or \x27..\x27 directory: skipping " ++ quoted name)
            status := 1
            pure (some none)
          else if !(← fileExists name) then
            let f ← absence name
            if g.has 'f' && (f = .noEntry || f = .notDirectory) then pure (some none)
            else pure (some (some f))
          else if (← isDirectory name) && !recursive then
            if g.has 'd' then
              match ← removeEmpty name with
              | .ok _ => pure (some none)
              | .error f => pure (some (some f))
            else pure (some (some .isDirectory))
          else pure none
        match problem with
        | some (some f) =>
          tell s!"cannot remove {quoted name}: {faultText f}"
          status := 1
        | some none => pure ()
        | none =>
          if g.has 'v' then text := text ++ String.join (← removedNames 64 name)
          match ← removePath name with
          | .ok _ => pure ()
          | .error f =>
            tell s!"cannot remove {quoted name}: {faultText f}"
            status := 1
      put text status

def touch (args : List String) : Action m Nat :=
  withOptions [⟨'c', ["no-create"], .nothing⟩, ⟨'a', [], .nothing⟩, ⟨'m', [], .nothing⟩,
    ⟨'d', ["date"], .something⟩, ⟨'t', [], .something⟩, ⟨'r', ["reference"], .something⟩] args
    fun g => do
    if g.operands.isEmpty then misused 1 "missing file operand"
    else
      let mut status := 0
      for name in g.operands do
        if !(← isDirectory name) && !(g.has 'c' && !(← fileExists name)) then
          let p ← resolve name
          match ← (Files.appendFile p [] : m _) with
          | .ok _ => pure ()
          | .error f =>
            tell s!"cannot touch {quoted name}: {faultText f}"
            status := 1
      return status

/-- What a mode does to the right to run a file: some give it, some take it, some leave it. -/
def executes? (mode : String) : Option (Option Bool) :=
  let cs := mode.toList
  if !cs.isEmpty && cs.all (fun c => '0' ≤ c && c ≤ '7') then
    some (some ((cs.map fun c => (c.toNat - 48) % 2).any (· = 1)))
  else (mode.splitOn ",").foldlM (fun before clause =>
    let cs := clause.toList.dropWhile ['u', 'g', 'o', 'a'].contains
    match cs with
    | sign :: letters =>
      if ['+', '-', '='].contains sign && letters.all ['r', 'w', 'x', 'X', 's', 't'].contains then
        let runs := letters.contains 'x'
        if sign = '=' then some (some runs)
        else if runs then some (some (sign = '+')) else some before
      else none
    | [] => none) none

def chmod (args : List String) : Action m Nat :=
  let flags := args.takeWhile fun a => ["-R", "-v", "-f", "-c"].contains a
  let rest := args.drop flags.length
  match rest with
  | [] => withoutOperand 1
  | [mode] => misused 1 s!"missing operand after {curly mode}"
  | mode :: names => do
    match executes? mode with
    | none => misused 1 s!"invalid mode: {curly mode}"
    | some change =>
      let mut status := 0
      for name in names do
        if !(← fileExists name) then
          tell s!"cannot access {quoted name}: {faultText (← absence name)}"
          status := 1
        else match change with
          | none => pure ()
          | some runs =>
            if !(← isDirectory name) then
              let p ← resolve name
              match ← (Files.setExecutable p runs : m _) with
              | .ok _ => pure ()
              | .error f =>
                tell s!"changing permissions of {quoted name}: {faultText f}"
                status := 1
      return status

def placeIn (directory name : String) : String := joined directory (lastPart name)

def sameFile (a b : String) : Action m Bool := do
  let p ← resolve a
  let q ← resolve b
  return p.normalize = q.normalize && (← fileExists a)

def liesIn (directory path : String) : Action m Bool := do
  let d ← resolve directory
  let p ← resolve path
  return (p.normalize.text ++ "/").startsWith (d.normalize.text ++ "/")

def copyFile (source target : String) : Action m Nat := do
  match ← readFile source with
  | .error f =>
    tell s!"cannot open {quoted source} for reading: {faultText f}"
    return 1
  | .ok text =>
    let origin ← resolve source
    let p ← resolve target
    let isNew := !(← fileExists target)
    if isNew && target.endsWith "/" then
      tell s!"cannot create regular file {quoted target}: Not a directory"
      return 1
    match ← (Files.writeFile p (toBytes text) : m _) with
    | .ok _ =>
      if isNew && (← (Files.isExecutable origin : m Bool)) then
        let _ ← (Files.setExecutable p true : m _)
      return 0
    | .error f =>
      tell s!"cannot create regular file {quoted target}: {faultText f}"
      return 1

def copyTree : Nat → String → String → Action m Nat
  | 0, _, _ => return 1
  | fuel + 1, source, target => do
    if !(← isDirectory source) then copyFile source target
    else
      let made ← if ← isDirectory target then pure (.ok ()) else makeOne target
      match made with
      | .error f =>
        tell s!"cannot create directory {quoted target}: {faultText f}"
        return 1
      | .ok _ =>
        let mut status := 0
        match ← namesIn source with
        | .ok names =>
          for n in names do
            status := max status (← copyTree fuel (joined source n) (joined target n))
        | .error _ => pure ()
        return status

def copyOne (g : Given) (source target : String) : Action m Nat := do
  let recursive := g.has 'r' || g.has 'R' || g.has 'a'
  if !(← fileExists source) && (device? source).isNone then
    tell s!"cannot stat {quoted source}: {faultText (← absence source)}"
    return 1
  else if (← isDirectory source) && !recursive then
    tell s!"-r not specified; omitting directory {quoted source}"
    return 1
  else if ← sameFile source target then
    tell s!"{quoted source} and {quoted target} are the same file"
    return 1
  else if (← isDirectory source) && (← liesIn source target) then
    tell s!"cannot copy a directory, {quoted source}, into itself, {quoted target}"
    return 1
  else if (← isFile source) && (← isDirectory target) then
    tell s!"cannot overwrite directory {quoted target} with non-directory"
    return 1
  else if (← isDirectory source) && (← isFile target) then
    tell s!"cannot overwrite non-directory {quoted target} with directory {quoted source}"
    return 1
  else if (device? source).isSome then
    match ← contentOf source with
    | .ok s =>
      let p ← resolve target
      match ← (Files.writeFile p (toBytes s) : m _) with
      | .ok _ => return 0
      | .error f =>
        tell s!"cannot create regular file {quoted target}: {faultText f}"
        return 1
    | .error _ => return 1
  else if g.has 'n' && (← fileExists target) then return 0
  else copyTree 64 source target

def moveOne (g : Given) (source target : String) : Action m Nat := do
  if !(← fileExists source) then
    tell s!"cannot stat {quoted source}: {faultText (← absence source)}"
    return 1
  else if ← sameFile source target then
    tell s!"{quoted source} and {quoted target} are the same file"
    return 1
  else if (← isDirectory source) && (← liesIn source target) then
    tell s!"cannot move {quoted source} to a subdirectory of itself, {quoted target}"
    return 1
  else if (← isDirectory source) && (← isFile target) then
    tell s!"cannot overwrite non-directory {quoted target} with directory {quoted source}"
    return 1
  else if (← isFile source) && (← isDirectory target) then
    tell s!"cannot overwrite directory {quoted target} with non-directory"
    return 1
  else if g.has 'n' && (← fileExists target) then return 0
  else
    let p ← resolve source
    let q ← resolve target
    match ← (Files.rename p q : m _) with
    | .ok _ => return 0
    | .error f =>
      tell s!"cannot move {quoted source} to {quoted target}: {faultText f}"
      return 1

/-- Brings operands to the last of them, or into the directory that is named. -/
def transfer (one : Given → String → String → Action m Nat) (args : List String) : Action m Nat :=
  withOptions [⟨'r', ["recursive"], .nothing⟩, ⟨'R', [], .nothing⟩, ⟨'a', ["archive"], .nothing⟩,
    ⟨'f', ["force"], .nothing⟩, ⟨'i', ["interactive"], .nothing⟩, ⟨'n', ["no-clobber"], .nothing⟩,
    ⟨'p', [], .nothing⟩, ⟨'u', ["update"], .nothing⟩, ⟨'v', ["verbose"], .nothing⟩,
    ⟨'t', ["target-directory"], .something⟩, ⟨'T', ["no-target-directory"], .nothing⟩,
    ⟨'d', [], .nothing⟩, ⟨'L', [], .nothing⟩, ⟨'P', [], .nothing⟩] args fun g => do
    let (sources, target) := match g.value? 't' with
      | some d => (g.operands, d)
      | none => (g.operands.dropLast, g.operands.getLastD "")
    if g.operands.isEmpty then misused 1 "missing file operand"
    else if sources.isEmpty then
      misused 1 s!"missing destination file operand after {quoted target}"
    else
      let inside := !g.has 'T' && (← isDirectory target)
      if !inside && (1 < sources.length || g.has 't') then
        let f ← if ← fileExists target then pure .notDirectory else absence target
        tell s!"target {quoted target}: {faultText f}"
        return 1
      let mut status := 0
      for s in sources do
        status := max status (← one g s (if inside then placeIn target s else target))
      return status

def cp (args : List String) : Action m Nat := transfer copyOne args

def mv (args : List String) : Action m Nat := transfer moveOne args

def entryLabel (g : Given) (path name : String) : Action m String := do
  let directory ← isDirectory path
  let suffix ←
    if directory && (g.has 'p' || g.has 'F') then pure "/"
    else if g.has 'F' then
      let p ← resolve path
      pure (if ← (Files.isExecutable p : m Bool) then "*" else "")
    else pure ""
  return name ++ suffix

def laidOut (g : Given) (names : List String) : String :=
  let names := if g.has 'r' then names.reverse else names
  if names.isEmpty then ""
  else if g.last? ['1', 'm', 'x', 'C'] = some 'm' then ", ".intercalate names ++ "\n"
  else if g.last? ['1', 'm', 'x', 'C'] = some 'x' then "  ".intercalate names ++ "\n"
  else String.join (names.map (· ++ "\n"))

def listDirectory (g : Given) : Nat → Bool → String → Action m (String × Nat)
  | 0, _, _ => return ("", 1)
  | fuel + 1, header, path => do
    match ← namesIn path with
    | .error f =>
      tell s!"cannot open directory {quoted path}: {faultText f}"
      return ("", 2)
    | .ok all =>
      let all := if g.has 'a' then "." :: ".." :: all else all
      let shown := all.filter fun n => g.has 'a' || g.has 'A' || !n.startsWith "."
      let labels ← shown.mapM fun n => entryLabel g (joined path n) n
      let mut text := (if header then named path ++ ":\n" else "") ++ laidOut g labels
      let mut status := 0
      if g.has 'R' then
        for n in shown do
          if n ≠ "." && n ≠ ".." && (← isDirectory (joined path n)) then
            let (t, s) ← listDirectory g fuel true (joined path n)
            text := text ++ "\n" ++ t
            status := max status s
      return (text, status)

def ls (args : List String) : Action m Nat :=
  let named : List OptionRule := [⟨'a', ["all"], .nothing⟩, ⟨'A', ["almost-all"], .nothing⟩,
    ⟨'d', ["directory"], .nothing⟩, ⟨'R', ["recursive"], .nothing⟩, ⟨'r', ["reverse"], .nothing⟩]
  let bare : List OptionRule := ['p', 'F', '1', 'm', 'x', 'C', 't', 'S', 'U', 'f', 'q', 'N', 'b',
    'Q', 'h', 'i', 's'].map fun c => ⟨c, [], .nothing⟩
  withOptions (named ++ bare) args (fun g => do
      let names := if g.operands.isEmpty then ["."] else g.operands
      let names := names.mergeSort fun a b => a ≤ b
      let mut status := 0
      let mut files := []
      let mut directories := []
      for name in names do
        if g.has 'd' || (← isFile name) || (device? name).isSome then
          if (← fileExists name) || (device? name).isSome then
            files := files ++ [← entryLabel g name name]
          else
            tell s!"cannot access {quoted name}: {faultText (← absence name)}"
            status := 2
        else if ← isDirectory name then directories := directories ++ [name]
        else
          tell s!"cannot access {quoted name}: {faultText (← absence name)}"
          status := 2
      let headers := 1 < names.length || g.has 'R'
      if g.has 'r' then directories := directories.reverse
      let mut text := laidOut g files
      for d in directories do
        let (t, s) ← listDirectory g 64 headers d
        text := text ++ (if text = "" then "" else "\n") ++ t
        status := max status s
      put text status 2) 2

end DumpWorkbench.Shell.Utility
