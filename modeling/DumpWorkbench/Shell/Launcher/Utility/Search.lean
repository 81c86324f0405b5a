import DumpWorkbench.Shell.Launcher.Regex
import DumpWorkbench.Shell.Launcher.Utility.Excerpt

namespace DumpWorkbench.Shell.Utility

variable {m : Type → Type} [Monad m] [Files m]

/-- What is searched for: fixed texts, or expressions. -/
structure Wanted where
  patterns : List Regex
  folds : Bool := false
  words : Bool := false
  lines : Bool := false

def literalRegex (s : String) : Regex := Regex.joined (s.toList.map Regex.char)

def isWord (f : Regex.Found) : Bool :=
  !(f.before.getLast?.any Regex.isWordChar) && !(f.after.head?.any Regex.isWordChar)

def Wanted.matches (w : Wanted) (line : List Char) : List Regex.Found :=
  let found := w.patterns.flatMap fun r =>
    let r :=
      if w.lines then .sequence (.edge .start) (.sequence (.group 0 r) (.edge .finish)) else r
    r.allMatches w.folds line
  let found := if w.words then found.filter isWord else found
  found.mergeSort fun a b =>
    a.before.length < b.before.length
      || (a.before.length = b.before.length && b.text.length ≤ a.text.length)

def apartFrom : Nat → List Regex.Found → List Regex.Found
  | _, [] => []
  | place, f :: fs =>
    if f.before.length < place then apartFrom place fs
    else f :: apartFrom (f.before.length + f.text.length) fs

def Wanted.selects (w : Wanted) (line : List Char) : Bool :=
  if w.words || w.lines then !(w.matches line).isEmpty
  else w.patterns.any fun r => (r.find? w.folds line).isSome

/-- How lines are shown. -/
structure Showing where
  names : Bool
  numbers : Bool
  offsets : Bool
  only : Bool
  before : Nat
  after : Nat

def Showing.label (s : Showing) (name : String) (mark : String) (number offset : Nat) : String :=
  (if s.names then name ++ mark else "")
    ++ (if s.numbers then toString number ++ mark else "")
    ++ (if s.offsets then toString offset ++ mark else "")

structure Row where
  text : String
  number : Nat
  offset : Nat
  chosen : Bool

def rowsOf (select : String → Bool) : Nat → Nat → List String → List Row
  | _, _, [] => []
  | number, offset, l :: ls =>
    ⟨l, number, offset, select l⟩ :: rowsOf select (number + 1) (offset + l.length + 1) ls

def limited : Nat → List Row → List Row
  | _, [] => []
  | 0, _ => []
  | n + 1, r :: rs => if r.chosen then r :: limited n rs else r :: limited (n + 1) rs

/-- The rows that are shown with those around them; a gap is shown as a mark. -/
def withContext (s : Showing) (name : String) (rows : List Row) : List String :=
  let near (r : Row) : Bool := rows.any fun c =>
    c.chosen && c.number ≤ r.number + s.before && r.number ≤ c.number + s.after
  let shown := rows.filter near
  let line (r : Row) : String :=
    s.label name (if r.chosen then ":" else "-") r.number r.offset ++ r.text ++ "\n"
  let gaps := shown.foldl (fun (x : List String × Nat) r =>
    let gap := if 0 < x.2 ∧ x.2 + 1 < r.number ∧ 0 < s.before + s.after then ["--\n"] else []
    (x.1 ++ gap ++ [line r], r.number)) ([], 0)
  gaps.1

def grepRules : List OptionRule :=
  [⟨'E', ["extended-regexp"], .nothing⟩, ⟨'F', ["fixed-strings"], .nothing⟩,
    ⟨'G', ["basic-regexp"], .nothing⟩, ⟨'P', ["perl-regexp"], .nothing⟩,
    ⟨'i', ["ignore-case"], .nothing⟩, ⟨'y', [], .nothing⟩, ⟨'v', ["invert-match"], .nothing⟩,
    ⟨'w', ["word-regexp"], .nothing⟩, ⟨'x', ["line-regexp"], .nothing⟩,
    ⟨'c', ["count"], .nothing⟩, ⟨'l', ["files-with-matches"], .nothing⟩,
    ⟨'L', ["files-without-match"], .nothing⟩, ⟨'q', ["quiet", "silent"], .nothing⟩,
    ⟨'s', ["no-messages"], .nothing⟩, ⟨'n', ["line-number"], .nothing⟩,
    ⟨'b', ["byte-offset"], .nothing⟩, ⟨'H', ["with-filename"], .nothing⟩,
    ⟨'h', ["no-filename"], .nothing⟩, ⟨'o', ["only-matching"], .nothing⟩,
    ⟨'m', ["max-count"], .something⟩, ⟨'e', ["regexp"], .something⟩, ⟨'f', ["file"], .something⟩,
    ⟨'A', ["after-context"], .something⟩, ⟨'B', ["before-context"], .something⟩,
    ⟨'C', ["context"], .something⟩, ⟨'a', ["text"], .nothing⟩, ⟨'r', ["recursive"], .nothing⟩,
    ⟨'R', [], .nothing⟩, ⟨'I', [], .nothing⟩, ⟨'\x01', ["color", "colour"], .perhaps⟩]

def expressionFault : Regex.Fault → String
  | .openBracket => "Invalid regular expression"
  | f => f.message

def filesBelow : Nat → String → Action m (List String)
  | 0, _ => return []
  | fuel + 1, name => do
    if ← isDirectory name then
      match ← namesIn name with
      | .ok names =>
        let mut found := []
        for n in names do
          found := found ++ (← filesBelow fuel (if name = "." then n else name ++ "/" ++ n))
        return found
      | .error _ => return []
    else return [name]

def isBinary (s : String) : Bool :=
  s.toList.contains '\x00' || (Utf8.decode? (toBytes s)).isNone

def searchOne (g : Given) (w : Wanted) (s : Showing) (name text : String) : String × Bool :=
  let select (l : String) : Bool := w.selects l.toList != g.has 'v'
  let rows := rowsOf select 1 0 (bareLines text)
  let rows := match (g.value? 'm').bind (·.toNat?) with
    | some n => limited n rows
    | none => rows
  let count := (rows.filter (·.chosen)).length
  let found := count != 0
  if g.has 'q' then ("", found)
  else if g.has 'l' then (if found then name ++ "\n" else "", found)
  else if g.has 'L' then (if found then "" else name ++ "\n", !found)
  else if g.has 'c' then ((if s.names then name ++ ":" else "") ++ toString count ++ "\n", found)
  else if found && !g.has 'a' && isBinary text then
    (if g.has 'I' then "" else s!"grep: {name}: binary file matches\n", found)
  else if s.only then
    let texts := (rows.filter (·.chosen)).flatMap fun r =>
      if g.has 'v' then []
      else ((apartFrom 0 (w.matches r.text.toList)).filter (!·.text.isEmpty)).map fun f =>
        s.label name ":" r.number (r.offset + f.before.length) ++ String.ofList f.text ++ "\n"
    (String.join texts, found)
  else (String.join (withContext s name rows), found)

def misusedGrep (message : Option String) : Action m Nat := do
  match message with
  | some t => tell t
  | none => pure ()
  let name := (← process).name
  complain s!"Usage: {name} [OPTION]... PATTERNS [FILE]..."
  complain s!"Try '{name} --help' for more information."
  return 2

/-- Searches files. `form` is the option that the name of the program stands for. -/
def grep (form : Option Char) (args : List String) : Action m Nat := do
  match readOptions grepRules false (args.length + 1) {} args with
  | .error message => misusedGrep message
  | .ok g =>
    let form := (g.last? ['E', 'F', 'G', 'P']).or form
    let given := (g.options.filter (·.1 = 'e')).map (·.2)
    let mut texts := given
    for (_, file) in g.options.filter (·.1 = 'f') do
      match ← contentOf file with
      | .ok s => texts := texts ++ bareLines s
      | .error f =>
        tell s!"{file}: {faultText f}"
        return 2
    let explicit := g.has 'e' || g.has 'f'
    if !explicit && g.operands.isEmpty then misusedGrep none
    else
      let files := if explicit then g.operands else g.operands.drop 1
      if !explicit then texts := [g.operands.headD ""]
      let patterns := texts.flatMap (·.splitOn "\n")
      let lone := form = some 'E' || form = some 'P'
      let readOne (p : String) : Except Regex.Fault Regex :=
        if form = some 'F' then .ok (literalRegex p) else Regex.read lone p.toList
      match patterns.mapM readOne with
      | .error f =>
        tell (expressionFault f)
        return 2
      | .ok rs =>
        let number (c : Char) : Nat := ((g.value? c).bind (·.toNat?)).getD 0
        for c in ['A', 'B', 'C'] do
          match g.value? c with
          | some v =>
            if v.toNat?.isNone then
              tell s!"{v}: invalid context length argument"
              return 2
          | none => pure ()
        let w : Wanted := ⟨rs, g.has 'i' || g.has 'y', g.has 'w', g.has 'x'⟩
        let recursive := g.has 'r' || g.has 'R'
        let mut names := []
        if recursive then
          for f in (if files.isEmpty then ["."] else files) do
            if ← isDirectory f then names := names ++ (← filesBelow 64 f)
            else names := names ++ [f]
        else names := if files.isEmpty then ["-"] else files
        let several := match g.last? ['H', 'h'] with
          | some c => c = 'H'
          | none => 1 < files.length || recursive
        let s : Showing := {
          names := several
          numbers := g.has 'n'
          offsets := g.has 'b'
          only := g.has 'o'
          before := max (number 'B') (number 'C')
          after := max (number 'A') (number 'C') }
        let mut failed := false
        let mut any := false
        let mut output := ""
        for name in names do
          if !(any && g.has 'q') then
            match ← contentOf name with
            | .error f =>
              failed := true
              if !g.has 's' then tell s!"{name}: {faultText f}"
            | .ok text =>
              let shown := if name = "-" then "(standard input)" else name
              let (t, found) := searchOne g w s shown text
              let gap := if 0 < s.before + s.after && output ≠ "" && t ≠ "" then "--\n" else ""
              output := output ++ gap ++ t
              any := any || found
        let status := if any && (!failed || g.has 'q') then 0 else if failed then 2 else 1
        put output status 2

end DumpWorkbench.Shell.Utility
