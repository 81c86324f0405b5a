import DumpWorkbench.Shell.Launcher.Builtin
import DumpWorkbench.Shell.Launcher.Utility.Editing
import DumpWorkbench.Shell.Launcher.Utility.Order
import DumpWorkbench.Shell.Launcher.Utility.Search
import DumpWorkbench.Shell.Launcher.Utility.Words

namespace DumpWorkbench.Shell.Utility

variable {m : Type → Type} [Monad m] [Files m]

/-- Goes on as another program; if that fails, it is told in the words of the utility. -/
def execOr (e : Engine m) (front : String) (words : List String) : Action m Nat := do
  let self := (← process).name
  match ← e.exec words with
  | .ok status => return status
  | .error f =>
    let name := words.headD ""
    complain s!"{self}: {front}{curly name}: {faultText f}"
    return if f = .noEntry ∨ f = .notDirectory then 127 else 126

def setExported (name value : String) : Action m Unit :=
  change (·.setVariable name { value := some value, exported := true })

def environmentText : Action m String := do
  let p ← process
  return String.join (p.environment.reverse.map fun (name, value) => name ++ "=" ++ value ++ "\n")

def env (e : Engine m) (args : List String) : Action m Nat :=
  let args := match args with
    | "-" :: r => "-i" :: r
    | _ => args
  withOptions [⟨'i', ["ignore-environment"], .nothing⟩, ⟨'u', ["unset"], .something⟩,
    ⟨'C', ["chdir"], .something⟩, ⟨'0', ["null"], .nothing⟩, ⟨'S', ["split-string"], .something⟩,
    ⟨'v', ["debug"], .nothing⟩] args (fun g => do
    if g.has 'i' then change ({ · with bindings := [] })
    for (c, name) in g.options do
      if c = 'u' then
        change fun p => { p with bindings := p.bindings.filter (·.1 ≠ name) }
    let assignments := g.operands.takeWhile (·.toList.contains '=')
    for a in assignments do
      let (name, value) := Builtin.splitAssignment a
      setExported name (value.getD "")
    match g.value? 'C' with
    | some d =>
      if !(← isDirectory d) then
        tell s!"cannot change directory to {curly d}: {faultText (← absence d)}"
        return 125
      let p ← process
      let path := Builtin.simplified (if d.startsWith "/" then d else p.directory ++ "/" ++ d)
      change ({ · with directory := path })
    | none => pure ()
    let split := ((g.value? 'S').map fun s => (s.splitOn " ").filter (· ≠ "")).getD []
    match split ++ g.operands.drop assignments.length with
    | [] => put (← environmentText) 0
    | words => execOr e "" words) 125 true

def printenv (args : List String) : Action m Nat :=
  withOptions [⟨'0', ["null"], .nothing⟩] args (fun g => do
    let p ← process
    if g.operands.isEmpty then put (← environmentText) 0
    else
      let values := g.operands.map fun name => p.environment.lookup name
      let text := String.join (values.filterMap fun v => v.map (· ++ "\n"))
      put text (if values.all Option.isSome then 0 else 1)) 2

/-- The words of a text as `xargs` takes them: quotes and backslashes protect blanks. -/
def inputWords : Nat → Option (List Char) → List Char → Except String (List String)
  | 0, _, _ => .ok []
  | fuel + 1, word, cs =>
    let grow (more rest : List Char) : Except String (List String) :=
      inputWords fuel (some (word.getD [] ++ more)) rest
    match cs with
    | [] => .ok (word.map String.ofList).toList
    | c :: r =>
      if isSpaceChar c then do
        let rest ← inputWords fuel none r
        return (word.map String.ofList).toList ++ rest
      else if c = '\\' then grow (r.take 1) (r.drop 1)
      else if c = '\'' ∨ c = '"' then
        let inside := r.takeWhile fun d => d ≠ c && d ≠ '\n'
        match r.drop inside.length with
        | d :: rest =>
          if d = c then grow inside rest
          else .error (if c = '"' then "double" else "single")
        | [] => .error (if c = '"' then "double" else "single")
      else grow [c] r

def grouped (n : Nat) : Nat → List α → List (List α)
  | 0, _ => []
  | fuel + 1, xs =>
    if xs.isEmpty then []
    else if n = 0 then [xs] else xs.take n :: grouped n fuel (xs.drop n)

def xargsStatus (before status : Nat) : Nat :=
  if status = 0 then before
  else if status = 126 ∨ status = 127 then status
  else if status = 255 then 124
  else if 128 < status then 125 else 123

def xargs (e : Engine m) (args : List String) : Action m Nat :=
  withOptions [⟨'n', ["max-args"], .something⟩, ⟨'I', [], .something⟩, ⟨'0', ["null"], .nothing⟩,
    ⟨'d', ["delimiter"], .something⟩, ⟨'r', ["no-run-if-empty"], .nothing⟩,
    ⟨'t', ["verbose"], .nothing⟩, ⟨'L', ["max-lines"], .something⟩,
    ⟨'P', ["max-procs"], .something⟩, ⟨'a', ["arg-file"], .something⟩] args (fun g => do
    let text := match ← contentOf ((g.value? 'a').getD "-") with
      | .ok s => s
      | .error _ => ""
    let split (mark : String) : List String :=
      let pieces := text.splitOn mark
      if pieces.getLast? = some "" then pieces.dropLast else pieces
    let words : Except String (List String) :=
      if g.has '0' then .ok (split "\x00")
      else match g.value? 'd' with
        | some d => .ok (split (String.ofList (unescaped .program (d.length + 1) d.toList).1))
        | none =>
          if g.has 'I' then
            .ok ((bareLines text).filterMap fun l =>
              let l := String.ofList (skipSpace l.toList)
              if l = "" then none else some l)
          else inputWords (text.length + 1) none text.toList
    match words with
    | .error kind =>
      tell (s!"unmatched {kind} quote; by default quotes are special to xargs unless you use "
        ++ "the -0 option")
      return 1
    | .ok words =>
      let command := if g.operands.isEmpty then ["echo"] else g.operands
      let number (c : Char) : Nat := ((g.value? c).bind (·.toNat?)).getD 0
      let runs : List (List String) := match g.value? 'I' with
        | some mark => words.map fun w => command.map fun c => w.intercalate (c.splitOn mark)
        | none =>
          if words.isEmpty then (if g.has 'r' then [] else [command])
          else
            let size := if g.has 'n' then number 'n' else number 'L'
            (grouped size (words.length + 1) words).map (command ++ ·)
      let input ← addStream .null
      let mut status := 0
      for words in runs do
        if status ≠ 124 && status ≠ 126 && status ≠ 127 then
          if g.has 't' then complain (" ".intercalate words)
          let self := (← process).name
          let s ← apart do
            connect 0 input
            match ← e.exec words with
            | .ok status => return status
            | .error f =>
              let name := words.headD ""
              complain s!"{self}: {name}: {faultText f}"
              return if f = .noEntry ∨ f = .notDirectory then 127 else 126
          status := xargsStatus status s
      return status) 1 true

def timeout (e : Engine m) (args : List String) : Action m Nat :=
  withOptions [⟨'s', ["signal"], .something⟩, ⟨'k', ["kill-after"], .something⟩,
    ⟨'v', ["verbose"], .nothing⟩, ⟨'f', ["foreground"], .nothing⟩,
    ⟨'p', ["preserve-status"], .nothing⟩] args (fun g => do
    match g.operands with
    | _ :: word :: words => execOr e "failed to run command " (word :: words)
    | _ =>
      let name := (← process).name
      complain s!"Try '{name} --help' for more information."
      return 125) 125 true

def nohup (e : Engine m) (args : List String) : Action m Nat := do
  let args := if args.head? = some "--" then args.drop 1 else args
  if args.isEmpty then withoutOperand 125
  else execOr e "failed to run command " args

def nice (e : Engine m) (args : List String) : Action m Nat :=
  withOptions [⟨'n', ["adjustment"], .something⟩] args (fun g => do
    if g.operands.isEmpty then put "0\n" 0
    else execOr e "" g.operands) 125 true

/-- What `find` asks of a file, or does with it. -/
inductive Quest where
  | name (p : Pattern) (folds : Bool)
  | path (p : Pattern)
  | kind (c : Char)
  | isEmpty
  | print (ending : String)
  | delete
  | exec (words : List String)
  | inverse (q : Quest)
  | both (p q : Quest)
  | either (p q : Quest)

def plainPattern (folds : Bool) (s : String) : Pattern :=
  patternOf (s.toList.map fun c => (if folds then c.toLower else c, false))

mutual

def questAlternatives : Nat → List String → Except String (Quest × List String)
  | 0, _ => .error "too many predicates"
  | fuel + 1, ws => do
    let (q, rest) ← questSequence fuel ws
    match rest with
    | "-o" :: r | "-or" :: r =>
      let (p, rest) ← questAlternatives fuel r
      return (.either q p, rest)
    | _ => return (q, rest)

def questSequence : Nat → List String → Except String (Quest × List String)
  | 0, _ => .error "too many predicates"
  | fuel + 1, ws => do
    let (q, rest) ← questSingle fuel ws
    match rest with
    | [] => return (q, [])
    | w :: r =>
      if w = "-o" ∨ w = "-or" ∨ w = ")" then return (q, rest)
      else
        let (p, rest) ← questSequence fuel (if w = "-a" ∨ w = "-and" then r else rest)
        return (.both q p, rest)

def questSingle : Nat → List String → Except String (Quest × List String)
  | 0, _ => .error "too many predicates"
  | fuel + 1, ws =>
    match ws with
    | "!" :: r | "-not" :: r => do
      let (q, rest) ← questSingle fuel r
      return (.inverse q, rest)
    | "(" :: r => do
      let (q, rest) ← questAlternatives fuel r
      match rest with
      | ")" :: rest => return (q, rest)
      | _ => .error ("invalid expression; I was expecting to find a \x27)\x27 somewhere "
        ++ "but did not see one.")
    | "-print" :: r => .ok (.print "\n", r)
    | "-print0" :: r => .ok (.print "\x00", r)
    | "-delete" :: r => .ok (.delete, r)
    | "-empty" :: r => .ok (.isEmpty, r)
    | "-exec" :: r =>
      let words := r.takeWhile fun w => w ≠ ";" && w ≠ "+"
      if words.length = r.length then .error "missing argument to `-exec\x27"
      else .ok (.exec words, r.drop (words.length + 1))
    | o :: v :: r =>
      match o with
      | "-name" => .ok (.name (plainPattern false v) false, r)
      | "-iname" => .ok (.name (plainPattern true v) true, r)
      | "-path" => .ok (.path (plainPattern false v), r)
      | "-type" => .ok (.kind (v.toList.headD ' '), r)
      | _ => .error s!"unknown predicate `{o}'"
    | [o] =>
      if ["-name", "-iname", "-path", "-type"].contains o then
        .error s!"missing argument to `{o}'"
      else .error s!"unknown predicate `{o}'"
    | [] => .error "expected an expression"

end

def Quest.acts : Quest → Bool
  | .print _ | .delete | .exec _ => true
  | .inverse q => q.acts
  | .both p q | .either p q => p.acts || q.acts
  | _ => false

def Quest.deletes : Quest → Bool
  | .delete => true
  | .inverse q => q.deletes
  | .both p q | .either p q => p.deletes || q.deletes
  | _ => false

/-- Asks or does what a quest says for one path. -/
def Quest.try (e : Engine m) (path : String) : Quest → Action m Bool
  | .name p folds => do
    let n := lastPart path
    return p.accepts (if folds then n.toList.map Char.toLower else n.toList)
  | .path p => return p.accepts path.toList
  | .kind 'd' => isDirectory path
  | .kind 'f' => isFile path
  | .kind _ => return false
  | .isEmpty => do
    if ← isDirectory path then
      match ← namesIn path with
      | .ok names => return names.isEmpty
      | .error _ => return false
    else match ← readFile path with
      | .ok s => return s = ""
      | .error _ => return false
  | .print ending => do
    let _ ← say (path ++ ending)
    return true
  | .delete => do
    match ← removePath path with
    | .ok _ => return true
    | .error f =>
      tell s!"cannot delete {curly path}: {faultText f}"
      return false
  | .exec words => do
    let self := (← process).name
    let words := words.map fun w => path.intercalate (w.splitOn "\x7b\x7d")
    let status ← apart do
      match ← e.exec words with
      | .ok status => return status
      | .error f =>
        complain (self ++ ": " ++ curly (words.headD "") ++ ": " ++ faultText f)
        return 127
    return status = 0
  | .inverse q => do return !(← q.try e path)
  | .both p q => do if ← p.try e path then q.try e path else return false
  | .either p q => do if ← p.try e path then return true else q.try e path

def walk (e : Engine m) (q : Quest) (least most : Nat) : Nat → Nat → String → Action m Unit
  | 0, _, _ => return
  | fuel + 1, depth, path => do
    let ask : Action m Unit := do
      if least ≤ depth then
        let _ ← q.try e path
    if !q.deletes then ask
    if depth < most && (← isDirectory path) then
      match ← namesIn path with
      | .ok names => for n in names do walk e q least most fuel (depth + 1) (joined path n)
      | .error _ => pure ()
    if q.deletes then ask

def find (e : Engine m) (args : List String) : Action m Nat := do
  let starts := args.takeWhile fun a => !(a.startsWith "-" || a = "(" || a = "!")
  let rec depths (least most : Nat) (fuel : Nat) (ws kept : List String) :
      Nat × Nat × List String :=
    match fuel, ws with
    | fuel + 1, "-maxdepth" :: n :: r => depths least (n.toNat?.getD 64) fuel r kept
    | fuel + 1, "-mindepth" :: n :: r => depths (n.toNat?.getD 0) most fuel r kept
    | fuel + 1, w :: r => depths least most fuel r (kept ++ [w])
    | _, _ => (least, most, kept)
  let (least, most, words) := depths 0 64 (args.length + 1) (args.drop starts.length) []
  let read := if words.isEmpty then .ok (Quest.print "\n", [])
    else questAlternatives (4 * words.length + 8) words
  match read with
  | .error message =>
    tell message
    return 1
  | .ok (_, w :: _) =>
    tell s!"paths must precede expression: `{w}'"
    return 1
  | .ok (q, []) =>
    let q := if q.acts then q else .both q (.print "\n")
    let mut status := 0
    for start in (if starts.isEmpty then ["."] else starts) do
      if ← fileExists start then walk e q least most 64 0 start
      else
        tell s!"{curly start}: {faultText (← absence start)}"
        status := 1
    return status

def firstDifference : Nat → Nat → List Char → List Char → Option (Nat × Nat)
  | place, line, a :: as, b :: bs =>
    if a = b then firstDifference (place + 1) (if a = '\n' then line + 1 else line) as bs
    else some (place, line)
  | _, _, _, _ => none

def cmp (args : List String) : Action m Nat :=
  withOptions [⟨'s', ["quiet", "silent"], .nothing⟩, ⟨'l', ["verbose"], .nothing⟩,
    ⟨'b', ["print-bytes"], .nothing⟩] args (fun g => do
    match g.operands with
    | [] => misused 2 "missing operand after \x27cmp\x27"
    | a :: r =>
      let b := r.headD "-"
      let one ← contentOf a
      let other ← contentOf b
      match one, other with
      | .error f, _ =>
        if !g.has 's' then tell s!"{a}: {faultText f}"
        return 2
      | _, .error f =>
        if !g.has 's' then tell s!"{b}: {faultText f}"
        return 2
      | .ok s, .ok t =>
        if s = t then return 0
        if g.has 's' then return 1
        match firstDifference 1 1 s.toList t.toList with
        | some (place, line) => put s!"{a} {b} differ: byte {place}, line {line}\n" 1 2
        | none =>
          let (short, text) := if s.length < t.length then (a, s) else (b, t)
          let lines := text.toList.count '\n'
          if text = "" then tell s!"EOF on {short} which is empty"
          else if text.endsWith "\n" then
            tell s!"EOF on {short} after byte {text.length}, line {lines}"
          else tell s!"EOF on {short} after byte {text.length}, in line {lines + 1}"
          return 1) 2

def diff (args : List String) : Action m Nat :=
  withOptions [⟨'q', ["brief"], .nothing⟩, ⟨'s', ["report-identical-files"], .nothing⟩,
    ⟨'u', [], .nothing⟩, ⟨'r', ["recursive"], .nothing⟩, ⟨'b', [], .nothing⟩,
    ⟨'w', [], .nothing⟩, ⟨'i', [], .nothing⟩] args (fun g => do
    match g.operands with
    | [a, b] =>
      let one ← contentOf a
      let other ← contentOf b
      match one, other with
      | .error f, _ =>
        tell s!"{a}: {faultText f}"
        return 2
      | _, .error f =>
        tell s!"{b}: {faultText f}"
        return 2
      | .ok s, .ok t =>
        if s = t then
          if g.has 's' then put s!"Files {a} and {b} are identical\n" 0 2 else return 0
        else put s!"Files {a} and {b} differ\n" 1 2
    | _ => misused 2 "missing operand after \x27diff\x27") 2

/-- A length of time, in which nothing happens here. -/
def isDuration (s : String) : Bool :=
  let cs := s.toList
  let cs := if cs.getLast?.any ['s', 'm', 'h', 'd'].contains then cs.dropLast else cs
  let whole := cs.takeWhile Char.isDigit
  let rest := cs.drop whole.length
  match rest with
  | [] => !whole.isEmpty
  | '.' :: r => r.all Char.isDigit && !(whole.isEmpty && r.isEmpty)
  | _ => s = "infinity" || s = "inf"

def sleep (args : List String) : Action m Nat :=
  withOptions [] args fun g => do
    if g.operands.isEmpty then withoutOperand 1
    else
      let bad := g.operands.filter (!isDuration ·)
      for b in bad do tell s!"invalid time interval {curly b}"
      if bad.isEmpty then return 0
      let name := (← process).name
      complain s!"Try '{name} --help' for more information."
      return 1

/-- How often `yes` says so before nobody listens any more. -/
def maxRepeats : Nat := 50000

def yes (args : List String) : Action m Nat :=
  withOptions [] args fun g => do
    let line := (if g.operands.isEmpty then "y" else " ".intercalate g.operands) ++ "\n"
    let _ ← say (String.join (List.replicate maxRepeats line))
    throw .exhausted

def which (args : List String) : Action m Nat := do
  let mut text := ""
  let mut status := 0
  for name in args.filter (· ≠ "-a") do
    match ← findProgram name with
    | .ok path =>
      if (systemProgram? path).isSome || (← isFile path) then text := text ++ path ++ "\n"
      else status := 1
    | .error _ => status := 1
  put text status

def stat (args : List String) : Action m Nat :=
  withOptions [⟨'c', ["format"], .something⟩, ⟨'L', ["dereference"], .nothing⟩,
    ⟨'t', ["terse"], .nothing⟩] args fun g => do
    if g.operands.isEmpty then withoutOperand 1
    else
      let mut status := 0
      let mut text := ""
      for name in g.operands do
        if !(← fileExists name) then
          tell s!"cannot statx {quoted name}: {faultText (← absence name)}"
          status := 1
        else
          let directory ← isDirectory name
          let size := match ← readFile name with
            | .ok s => s.length
            | .error _ => 4096
          let kind := if directory then "directory" else if size = 0 then "regular empty file"
            else "regular file"
          let format := (g.value? 'c').getD "%n"
          text := text ++ filledFormat name size kind format.toList ++ "\n"
      put text status
where
  filledFormat (name : String) (size : Nat) (kind : String) : List Char → String
    | '%' :: 's' :: r => toString size ++ filledFormat name size kind r
    | '%' :: 'n' :: r => name ++ filledFormat name size kind r
    | '%' :: 'F' :: r => kind ++ filledFormat name size kind r
    | '%' :: '%' :: r => "%" ++ filledFormat name size kind r
    | c :: r => String.singleton c ++ filledFormat name size kind r
    | [] => ""

def truncate (args : List String) : Action m Nat :=
  withOptions [⟨'s', ["size"], .something⟩, ⟨'c', ["no-create"], .nothing⟩] args fun g => do
    match (g.value? 's').bind unitCount? with
    | none => misused 1 "you must specify either \x27--size\x27 or \x27--reference\x27"
    | some size =>
      if g.operands.isEmpty then misused 1 "missing file operand"
      else
        let mut status := 0
        for name in g.operands do
          let old := match ← readFile name with
            | .ok s => s.toList
            | .error _ => []
          let new := old.take size ++ List.replicate (size - old.length) '\x00'
          let p ← resolve name
          match ← (Files.writeFile p (toBytes (String.ofList new)) : m _) with
          | .ok _ => pure ()
          | .error f =>
            tell s!"cannot open {quoted name} for writing: {faultText f}"
            status := 1
        return status

def realpath (args : List String) : Action m Nat :=
  withOptions [⟨'m', ["canonicalize-missing"], .nothing⟩, ⟨'e', [], .nothing⟩, ⟨'f', [], .nothing⟩,
    ⟨'q', ["quiet"], .nothing⟩, ⟨'s', [], .nothing⟩] args fun g => do
    if g.operands.isEmpty then withoutOperand 1
    else
      let p ← process
      let mut text := ""
      let mut status := 0
      for name in g.operands do
        let path := Builtin.simplified
          (if name.startsWith "/" then name else p.directory ++ "/" ++ name)
        if g.has 'm' || (← isDirectory (parentOf path)) then text := text ++ path ++ "\n"
        else
          tell s!"{named name}: No such file or directory"
          status := 1
      put text status

/-- Sends a signal to processes. The first target that is no number ends it. -/
def signalTargets (signal : Nat) : List String → Action m Nat
  | [] => return 0
  | target :: targets => do
    match signed? true target with
    | none =>
      tell s!"failed to parse argument: '{target}'"
      return 1
    | some n =>
      let p ← process
      let known := n = p.number ∨ n = p.shell ∨ n = p.parent ∨ p.background.any (·.1 = n.toNat)
      if known then
        let _ ← Builtin.send signal target
      else tell s!"({n}): No such process"
      let status ← signalTargets signal targets
      return if known then status else 1

def kill (args : List String) : Action m Nat := do
  match args with
  | [] | ["-l"] => Builtin.kill args
  | "--" :: r => signalTargets 15 r
  | "-s" :: name :: r => signalTargets ((signalNumber? name).getD 0) r
  | a :: r =>
    match (if a.startsWith "-" then signalNumber? (String.ofList (a.toList.drop 1)) else none) with
    | some n => signalTargets n r
    | none => if a.startsWith "-" then Builtin.kill args else signalTargets 15 args

/-- A copy of bytes in blocks, without the report about it. -/
def dd (args : List String) : Action m Nat := do
  let value? (key : String) : Option String :=
    (args.find? (·.startsWith (key ++ "="))).map fun a =>
      String.ofList (a.toList.drop (key.length + 1))
  let number (key : String) (usual : Nat) : Nat := ((value? key).bind unitCount?).getD usual
  let size := number "bs" (number "ibs" 512)
  let name := (value? "if").getD "-"
  let source ←
    if name = "/dev/zero" then
      pure (.ok (String.ofList (List.replicate (size * number "count" 0) '\x00')))
    else contentOf name
  match source with
  | .error f =>
    tell s!"failed to open {quoted name}: {faultText f}"
    return 1
  | .ok s =>
    let cs := s.toList.drop (size * number "skip" 0)
    let cs := match (value? "count").bind unitCount? with
      | some n => cs.take (n * size)
      | none => cs
    let status ← match value? "of" with
      | none => put (String.ofList cs) 0
      | some target =>
        match ← openFor .write target with
        | .ok n =>
          connect 1 n
          put (String.ofList cs) 0
        | .error f =>
          tell s!"failed to open {quoted target}: {faultText f}"
          pure 1
    if value? "status" ≠ some "none" && status = 0 then
      let whole := cs.length / max 1 size
      let part := if cs.length % max 1 size = 0 then 0 else 1
      complain s!"{whole}+{part} records in"
      complain s!"{whole}+{part} records out"
    return status

def run? (e : Engine m) (name : String) : Option (List String → Action m Nat) :=
  match name with
  | "true" | "sync" => some fun _ => return 0
  | "false" => some fun _ => return 1
  | "cat" => some cat
  | "head" => some head
  | "tail" => some tail
  | "tac" => some tac
  | "rev" => some rev
  | "tee" => some tee
  | "wc" => some wc
  | "sort" => some sort
  | "uniq" => some uniq
  | "comm" => some comm
  | "cut" => some cut
  | "paste" => some paste
  | "nl" => some nl
  | "fold" => some fold
  | "tr" => some tr
  | "od" => some od
  | "base64" => some base64
  | "grep" => some (grep none)
  | "egrep" => some (grep (some 'E'))
  | "fgrep" => some (grep (some 'F'))
  | "sed" => some sed
  | "mkdir" => some mkdir
  | "rmdir" => some rmdir
  | "rm" => some rm
  | "touch" => some touch
  | "chmod" => some chmod
  | "cp" => some cp
  | "mv" => some mv
  | "ls" => some ls
  | "basename" => some basename
  | "dirname" => some dirname
  | "echo" => some fun args => put (echoText .program args) 0
  | "printf" => some printfProgram
  | "test" => some (testProgram false)
  | "[" => some (testProgram true)
  | "expr" => some expr
  | "seq" => some seq
  | "env" => some (env e)
  | "printenv" => some printenv
  | "xargs" => some (xargs e)
  | "timeout" => some (timeout e)
  | "nohup" => some (nohup e)
  | "nice" => some (nice e)
  | "find" => some (find e)
  | "cmp" => some cmp
  | "diff" => some diff
  | "sleep" => some sleep
  | "yes" => some yes
  | "which" => some which
  | "stat" => some stat
  | "truncate" => some truncate
  | "realpath" => some realpath
  | "readlink" => some fun args =>
      if args.any fun a => a = "-f" || a = "-m" || a = "-e" then realpath args else return 1
  | "kill" => some kill
  | "dd" => some dd
  | "pwd" => some fun args =>
      withOptions [⟨'L', ["logical"], .nothing⟩, ⟨'P', ["physical"], .nothing⟩] args fun g => do
        if !g.operands.isEmpty then tell "ignoring non-option arguments"
        put ((← process).directory ++ "\n") 0
  | "id" => some fun args => do
      if args.contains "-un" ∨ args.contains "-gn" then put "root\n" 0
      else if args.contains "-u" ∨ args.contains "-g" then put "0\n" 0
      else put "uid=0(root) gid=0(root) groups=0(root)\n" 0
  | "whoami" => some fun _ => put "root\n" 0
  | "uname" => some fun args => put (if args.contains "-m" then "x86_64\n" else "Linux\n") 0
  | "tty" => some fun _ => put "not a tty\n" 1
  | _ => none

end DumpWorkbench.Shell.Utility
