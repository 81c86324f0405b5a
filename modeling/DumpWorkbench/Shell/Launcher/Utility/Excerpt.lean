import DumpWorkbench.Shell.Calculation
import DumpWorkbench.Shell.Launcher.Utility.Options

namespace DumpWorkbench.Shell.Utility

variable {m : Type → Type} [Monad m] [Files m]

def visible (c : Char) : String :=
  let n := c.toNat
  let low (n : Nat) : String :=
    if n < 32 then "^" ++ String.singleton (Char.ofNat (n + 64))
    else if n = 127 then "^?" else String.singleton (Char.ofNat n)
  if c = '\n' ∨ c = '\t' then String.singleton c
  else if n < 128 then low n
  else "M-" ++ low (n - 128)

def numberField (width n : Nat) : String :=
  let digits := toString n
  String.ofList (List.replicate (width - digits.length) ' ') ++ digits

def numberLines (sparing : Bool) : Nat → List String → List String
  | _, [] => []
  | n, l :: ls =>
    if sparing && l = "\n" then l :: numberLines sparing n ls
    else (numberField 6 n ++ "\t" ++ l) :: numberLines sparing (n + 1) ls

def squeezed : Bool → List String → List String
  | _, [] => []
  | after, l :: ls =>
    if after && l = "\n" then squeezed true ls else l :: squeezed (l = "\n") ls

def decorated (g : Given) (s : String) : String :=
  let decorates := ['A', 'b', 'e', 'E', 'n', 's', 't', 'T', 'v'].any g.has
  if !decorates then s
  else
    let lines := linesOf s
    let lines := if g.has 's' then squeezed false lines else lines
    let shown := g.has 'A' || g.has 'v' || g.has 'e' || g.has 't'
    let lines := lines.map fun l => String.join (l.toList.map fun c =>
      if c = '\n' ∧ (g.has 'A' || g.has 'E' || g.has 'e') then "$\n"
      else if c = '\t' ∧ (g.has 'A' || g.has 'T' || g.has 't') then "^I"
      else if shown then visible c else String.singleton c)
    let ends := g.has 'A' || g.has 'E' || g.has 'e'
    let isEmpty (l : String) : Bool := l = "\n" || (ends && l = "$\n")
    if g.has 'b' then String.join (numberNonEmpty isEmpty 1 lines)
    else if g.has 'n' then String.join (numberLines false 1 lines)
    else String.join lines
where
  numberNonEmpty (isEmpty : String → Bool) : Nat → List String → List String
    | _, [] => []
    | n, l :: ls =>
      if isEmpty l then l :: numberNonEmpty isEmpty n ls
      else (numberField 6 n ++ "\t" ++ l) :: numberNonEmpty isEmpty (n + 1) ls

def cat (args : List String) : Action m Nat :=
  withOptions [⟨'A', ["show-all"], .nothing⟩, ⟨'b', ["number-nonblank"], .nothing⟩,
    ⟨'e', [], .nothing⟩, ⟨'E', ["show-ends"], .nothing⟩, ⟨'n', ["number"], .nothing⟩,
    ⟨'s', ["squeeze-blank"], .nothing⟩, ⟨'t', [], .nothing⟩, ⟨'T', ["show-tabs"], .nothing⟩,
    ⟨'u', [], .nothing⟩, ⟨'v', ["show-nonprinting"], .nothing⟩] args fun g => do
    let mut status := 0
    let mut text := ""
    for name in (if g.operands.isEmpty then ["-"] else g.operands) do
      match ← contentOf name with
      | .ok s => text := text ++ s
      | .error f =>
        tell s!"{named name}: {faultText f}"
        status := 1
    put (decorated g text) status

def unitCount? (s : String) : Option Nat :=
  let digits := s.toList.takeWhile Char.isDigit
  let unit := String.ofList (s.toList.drop digits.length)
  let size := [("", 1), ("b", 512), ("k", 1024), ("K", 1024), ("kB", 1000), ("KB", 1000),
    ("M", 1048576), ("MB", 1000000), ("G", 1073741824), ("KiB", 1024), ("MiB", 1048576)].lookup unit
  if digits.isEmpty then none else size.map (· * valueOf 10 digits)

/-- Which part is shown: how many bytes or lines, from the front or back, or all but those. -/
structure Portion where
  bytes : Bool := false
  count : Nat := 10
  /-- Whether the count is that of what is left out. -/
  skips : Bool := false

def bareCount (args : List String) : Option Nat × List String :=
  match args with
  | a :: r =>
    match a.toList with
    | '-' :: cs => if cs ≠ [] ∧ cs.all Char.isDigit then (some (valueOf 10 cs), r) else (none, args)
    | _ => (none, args)
  | [] => (none, args)

/-- Reads the portion from the options. `sign` is the character before a count of what is left
out. -/
def portion (sign : Char) (bare : Option Nat) (g : Given) : Except String Portion :=
  match g.last? ['n', 'c'] with
  | none => .ok { count := bare.getD 10 }
  | some letter =>
    let value := (g.value? letter).getD ""
    let (skips, text) := match value.toList with
      | c :: cs =>
        if c = sign then (true, String.ofList cs)
        else if c = '-' ∨ c = '+' then (false, String.ofList cs) else (false, value)
      | [] => (false, value)
    match unitCount? text with
    | some n => .ok ⟨letter = 'c', n, skips⟩
    | none =>
      let kind := if letter = 'c' then "bytes" else "lines"
      .error s!"invalid number of {kind}: {curly value}"

def dropLast (n : Nat) (xs : List α) : List α := xs.take (xs.length - n)

def takeLast (n : Nat) (xs : List α) : List α := xs.drop (xs.length - n)

def Portion.front (p : Portion) (s : String) : String :=
  if p.bytes then
    String.ofList (if p.skips then dropLast p.count s.toList else s.toList.take p.count)
  else
    let lines := linesOf s
    String.join (if p.skips then dropLast p.count lines else lines.take p.count)

def Portion.back (p : Portion) (s : String) : String :=
  if p.bytes then
    String.ofList (if p.skips then s.toList.drop (p.count - 1) else takeLast p.count s.toList)
  else
    let lines := linesOf s
    String.join (if p.skips then lines.drop (p.count - 1) else takeLast p.count lines)

/-- Gives back what `head` did not need of its input, if that is a file. -/
def giveBack (p : Portion) (s : String) : Action m Unit := do
  match ← stream? 0 with
  | some (_, .file ..) =>
    if !p.skips then unread 0 (String.ofList (s.toList.drop (p.front s).length))
  | _ => return

/-- Shows parts of files, with the names of the files if there are several. -/
def excerpt (part : Portion → String → String) (p : Portion) (g : Given) (isHead : Bool) :
    Action m Nat := do
  let names := if g.operands.isEmpty then ["-"] else g.operands
  let headers := match g.last? ['q', 'v'] with
    | some 'v' => true
    | some _ => false
    | none => 1 < names.length
  let mut status := 0
  let mut first := true
  for name in names do
    let outcome ←
      if isHead && p.bytes && !p.skips && name = "/dev/zero" then
        pure (.ok (String.ofList (List.replicate p.count '\x00')))
      else contentOf name
    let shown := if name = "-" then "standard input" else name
    let header := (if first then "" else "\n") ++ s!"==> {shown} <==\n"
    match outcome with
    | .error f =>
      if f = .isDirectory then
        if headers then let _ ← put header 0
        tell s!"error reading {quoted shown}: Is a directory"
        first := false
      else tell s!"cannot open {quoted shown} for reading: {faultText f}"
      status := 1
    | .ok s =>
      if isHead && name = "-" then giveBack p s
      status := max status (← put ((if headers then header else "") ++ part p s) 0)
      first := false
  return status

def excerptRules : List OptionRule :=
  [⟨'c', ["bytes"], .something⟩, ⟨'n', ["lines"], .something⟩, ⟨'q', ["quiet", "silent"], .nothing⟩,
    ⟨'v', ["verbose"], .nothing⟩, ⟨'z', ["zero-terminated"], .nothing⟩]

def head (args : List String) : Action m Nat :=
  let (bare, args) := bareCount args
  withOptions excerptRules args fun g => do
    match portion '-' bare g with
    | .error e =>
      tell e
      return 1
    | .ok p => excerpt Portion.front p g true

/-- Whether `tail` takes a portion without a letter before such arguments: before one file at
most. -/
def allowsBare : List String → Bool
  | [] => true
  | "--" :: r => r.length ≤ 1
  | [a] => a = "-" || !a.startsWith "-"
  | _ => false

def tail (args : List String) : Action m Nat := do
  let (bare, rest) := bareCount args
  if bare.isSome && !allowsBare rest then
    let digit := (args.headD "").toList.drop 1 |>.take 1
    tell ("option used in invalid context -- " ++ String.ofList digit)
    return 1
  withOptions (excerptRules ++ [⟨'f', ["follow"], .perhaps⟩]) rest fun g => do
    match portion '+' bare g with
    | .error e =>
      tell e
      return 1
    | .ok p => excerpt Portion.back p g false

def tac (args : List String) : Action m Nat :=
  withOptions [] args fun g => do
    let mut status := 0
    let mut text := ""
    for name in (if g.operands.isEmpty then ["-"] else g.operands) do
      match ← contentOf name with
      | .ok s => text := text ++ String.join (linesOf s).reverse
      | .error f =>
        if f = .isDirectory then tell s!"{named name}: read error: Is a directory"
        else tell s!"failed to open {quoted name} for reading: {faultText f}"
        status := 1
    put text status

def rev (args : List String) : Action m Nat :=
  withOptions [] args fun g => do
    let mut status := 0
    let mut text := ""
    for name in (if g.operands.isEmpty then ["-"] else g.operands) do
      match ← contentOf name with
      | .ok s =>
        text := text ++ String.join ((linesOf s).map fun l =>
          let reversed := (unpacked (withoutNewline l)).toList.reverse
          packed (String.ofList reversed) ++ if l.endsWith "\n" then "\n" else "")
      | .error f =>
        tell s!"cannot open {name}: {faultText f}"
        status := 1
    put text status

def tee (args : List String) : Action m Nat :=
  withOptions [⟨'a', ["append"], .nothing⟩, ⟨'i', ["ignore-interrupts"], .nothing⟩] args fun g => do
    let text := match ← contentOf "-" with
      | .ok s => s
      | .error _ => ""
    let mut status := 0
    for name in g.operands do
      match ← openFor (if g.has 'a' then .append else .write) name with
      | .ok n =>
        let before := (← process).descriptors
        connect 9 n
        match ← write 9 text with
        | .ok _ => pure ()
        | .error f =>
          tell s!"{named name}: {faultText f}"
          status := 1
        change ({ · with descriptors := before })
      | .error f =>
        tell s!"{named name}: {faultText f}"
        status := 1
    put text status

def isTailByte (c : Char) : Bool := 128 ≤ c.toNat && c.toNat < 192

def counts (s : String) : List Nat :=
  let cs := s.toList
  let step (x : Nat × Bool) (c : Char) : Nat × Bool :=
    if isSpaceChar c then (x.1, false) else (if x.2 then x.1 else x.1 + 1, true)
  let longest := (bareLines s).foldl (fun n l => max n (unpacked l).length) 0
  [cs.count '\n', (cs.foldl step (0, false)).1, (cs.filter (!isTailByte ·)).length, cs.length,
    longest]

def chosenCounts (g : Given) (ns : List Nat) : List Nat :=
  let wanted := ['l', 'w', 'm', 'c', 'L'].map g.has
  let wanted := if wanted.any id then wanted else [true, true, false, true, false]
  (ns.zip wanted).filterMap fun (n, w) => if w then some n else none

def fileSize? (name : String) : Action m (Option Nat) := do
  let path? ←
    if name = "-" then
      match ← stream? 0 with
      | some (_, .file path ..) => pure (some path)
      | _ => pure none
    else
      if (device? name).isSome then pure none else pure (some (← resolve name))
  match path? with
  | none => return none
  | some p =>
    match ← (Files.readFile p : m _) with
    | .ok b => return some b.length
    | .error _ => return none

def wc (args : List String) : Action m Nat :=
  withOptions [⟨'l', ["lines"], .nothing⟩, ⟨'w', ["words"], .nothing⟩, ⟨'m', ["chars"], .nothing⟩,
    ⟨'c', ["bytes"], .nothing⟩, ⟨'L', ["max-line-length"], .nothing⟩] args fun g => do
    let names := if g.operands.isEmpty then ["-"] else g.operands
    let single := names.length = 1 && (chosenCounts g [0, 0, 0, 0, 0]).length = 1
    let mut size := 0
    let mut least := 1
    for name in names do
      match ← fileSize? name with
      | some n => size := size + n
      | none =>
        let absent := name ≠ "-" && !(← fileExists name) && (device? name).isNone
        if !absent then least := 7
    let width := if single then 1 else max least (toString size).length
    let row (ns : List Nat) (name : String) : String :=
      " ".intercalate ((chosenCounts g ns).map (numberField width)) ++ name ++ "\n"
    let mut status := 0
    let mut text := ""
    let mut total := [0, 0, 0, 0, 0]
    for name in names do
      let label := if g.operands.isEmpty then "" else " " ++ named name
      match ← contentOf name with
      | .ok s =>
        let ns := counts s
        let longest := max (total.getD 4 0) (ns.getD 4 0)
        total := ((total.zip ns).map fun (a, b) => a + b).take 4 ++ [longest]
        text := text ++ row ns label
      | .error f =>
        tell s!"{named name}: {faultText f}"
        status := 1
        if f = .isDirectory then text := text ++ row [0, 0, 0, 0, 0] label
    if 1 < names.length then text := text ++ row total " total"
    put text status

end DumpWorkbench.Shell.Utility
