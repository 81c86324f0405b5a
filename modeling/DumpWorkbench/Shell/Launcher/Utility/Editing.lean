import DumpWorkbench.Shell.Launcher.Regex
import DumpWorkbench.Shell.Launcher.Utility.Excerpt

namespace DumpWorkbench.Shell.Utility

variable {m : Type → Type} [Monad m] [Files m]

namespace Edit

inductive Address where
  | line (n : Nat)
  | step (first size : Nat)
  | last
  | fits (r : Regex) (folds : Bool)
  | onward (lines : Nat)
  | multiple (n : Nat)
  | before

inductive Case where
  | upper
  | lower
  | none
deriving DecidableEq, Repr

/-- A piece of what is put in: characters, what a group matched, or a change of case, for all that
follows or for one character. -/
inductive Piece where
  | char (c : Char)
  | group (n : Nat)
  | turn (c : Case) (once : Bool)

structure Substitution where
  pattern : Regex
  pieces : List Piece
  folds : Bool := false
  all : Bool := false
  nth : Nat := 1
  prints : Bool := false
  file : Option String := none

inductive Action where
  | block (stop : Nat)
  | finish
  | substitute (s : Substitution)
  | exchange (source target : List Char)
  | append (text : String)
  | insert (text : String)
  | change (text : String)
  | jump (onlyIf : Option Bool) (label : String)
  | label (name : String)
  | readFile (name : String)
  | writeFile (name : String)
  | quit (prints : Bool) (status : Nat)
  | simple (c : Char)

structure Instruction where
  first : Option Address := none
  last : Option Address := none
  inverse : Bool := false
  action : Action

abbrev Reader := Except (List Char × String)

def wrong (rest : List Char) (message : String) : Reader α := .error (rest, message)

def delimited (mark : Char) (pattern : Bool) :
    Nat → Bool → List Char → Option (List Char × List Char)
  | 0, _, _ => none
  | _, _, [] => none
  | fuel + 1, inside, c :: r =>
    let more (cs : List Char) (inside : Bool) (rest : List Char) :=
      (delimited mark pattern fuel inside rest).map fun (s, t) => (cs ++ s, t)
    if c = '\\' && !inside then
      match r with
      | [] => none
      | d :: t =>
        if d = mark then more (if pattern || d ≠ '&' then [d] else ['\\', d]) inside t
        else if d = 'n' && pattern then more ['\n'] inside t
        else more ['\\', d] inside t
    else if c = mark && !inside then some ([], r)
    else if c = '\n' && pattern && !inside then none
    else if pattern && c = '[' && !inside then
      let head := if r.head? = some '^' then 1 else 0
      let head := if (r.drop head).head? = some ']' then head + 1 else head
      more (c :: r.take head) true (r.drop head)
    else if inside && c = '[' && (r.head? = some ':' || r.head? = some '.') then
      let body := r.takeWhile (· ≠ ']')
      more (c :: body ++ [']']) true (r.drop (body.length + 1))
    else more [c] (inside && c ≠ ']') r

def regexOf (extended : Bool) (text rest : List Char) : Reader Regex :=
  match Regex.read extended text with
  | .ok r => .ok r
  | .error f => wrong rest f.message

/-- One address. An empty expression stands for the one that was used last. -/
def address (extended : Bool) (second : Bool) (cs : List Char) :
    Reader (Option Address × List Char) := do
  let number (cs : List Char) : Nat × List Char :=
    let ds := cs.takeWhile Char.isDigit
    (valueOf 10 ds, cs.drop ds.length)
  let expression (mark : Char) (r : List Char) : Reader (Option Address × List Char) := do
    match delimited mark true (r.length + 1) false r with
    | none => wrong [] "unterminated address regex"
    | some (text, rest) =>
      let folds := rest.head? = some 'I'
      let rest := rest.dropWhile fun c => c = 'I' || c = 'M'
      return (some (.fits (← regexOf extended text rest) folds), rest)
  match cs with
  | [] => return (none, [])
  | c :: r =>
    if c.isDigit then
      let (n, rest) := number cs
      match rest with
      | '~' :: t =>
        let (k, rest) := number t
        return (some (.step n k), rest)
      | _ => return (some (if n = 0 then .before else .line n), rest)
    else if c = '$' then return (some .last, r)
    else if c = '/' then expression '/' r
    else if c = '\\' then
      match r with
      | d :: t => expression d t
      | [] => wrong [] "unexpected `,'"
    else if second && c = '+' then
      let (n, rest) := number r
      return (some (.onward n), rest)
    else if second && c = '~' then
      let (n, rest) := number r
      return (some (.multiple n), rest)
    else return (none, cs)

def skipBlanks (cs : List Char) : List Char := cs.dropWhile fun c => c = ' ' || c = '\t'

def piecesOf : Nat → List Char → List Piece
  | 0, _ => []
  | _, [] => []
  | fuel + 1, '\\' :: c :: r =>
    let p : Piece :=
      if c.isDigit then .group (c.toNat - 48)
      else match c with
        | 'n' => .char '\n'
        | 't' => .char '\t'
        | 'r' => .char '\r'
        | 'U' => .turn .upper false
        | 'L' => .turn .lower false
        | 'E' => .turn .none false
        | 'u' => .turn .upper true
        | 'l' => .turn .lower true
        | c => .char c
    p :: piecesOf fuel r
  | fuel + 1, '&' :: r => .group 0 :: piecesOf fuel r
  | fuel + 1, c :: r => .char c :: piecesOf fuel r

def groupCount : Regex → Nat
  | .group n r => max n (groupCount r)
  | .sequence r s | .either r s => max (groupCount r) (groupCount s)
  | .many r _ _ => groupCount r
  | _ => 0

def isEnd (cs : List Char) : Bool :=
  match cs with
  | [] => true
  | c :: _ => c = '\n' || c = ';' || c = '\x7d' || c = '#'

def flags : Nat → Substitution → List Char → Reader (Substitution × List Char)
  | 0, s, cs => .ok (s, cs)
  | fuel + 1, s, cs =>
    match cs with
    | 'g' :: r => flags fuel { s with all := true } r
    | 'p' :: r => flags fuel { s with prints := true } r
    | 'i' :: r | 'I' :: r => flags fuel { s with folds := true } r
    | 'm' :: r | 'M' :: r => flags fuel s r
    | 'w' :: r =>
      let name := (skipBlanks r).takeWhile (· ≠ '\n')
      .ok ({ s with file := some (String.ofList name) }, (skipBlanks r).drop name.length)
    | c :: r =>
      if c.isDigit then
        let ds := cs.takeWhile Char.isDigit
        if valueOf 10 ds = 0 then
          wrong (cs.drop ds.length) "number option to `s' command may not be zero"
        else flags fuel { s with nth := valueOf 10 ds } (cs.drop ds.length)
      else
        let rest := skipBlanks cs
        if isEnd rest then .ok (s, rest) else wrong r "unknown option to `s'"
    | [] => .ok (s, [])

def substitution (extended : Bool) (cs : List Char) : Reader (Action × List Char) :=
  let unterminated : Reader (Action × List Char) := wrong [] "unterminated `s' command"
  match cs with
  | [] => unterminated
  | mark :: r =>
    match delimited mark true (r.length + 1) false r with
    | none => unterminated
    | some (text, rest) =>
      match delimited mark false (rest.length + 1) false rest with
      | none => unterminated
      | some (target, rest) => do
        let s : Substitution := {
          pattern := .nothing
          pieces := piecesOf (target.length + 1) target }
        let (s, rest) ← flags (rest.length + 1) s rest
        let pattern ← regexOf extended text rest
        let most := s.pieces.foldl (fun n p => match p with
          | .group k => max n k
          | _ => n) 0
        if groupCount pattern < most then
          wrong rest ("invalid reference \\" ++ toString most ++ " on `s' command's RHS")
        return (.substitute { s with pattern := pattern }, rest)

def plainChars : List Char → List Char
  | '\\' :: 'n' :: r => '\n' :: plainChars r
  | '\\' :: '\\' :: r => '\\' :: plainChars r
  | c :: r => c :: plainChars r
  | [] => []

def exchange (cs : List Char) : Reader (Action × List Char) :=
  match cs with
  | [] => wrong [] "unterminated `y' command"
  | mark :: r =>
    match delimited mark false (r.length + 1) false r with
    | none => wrong [] "unterminated `y' command"
    | some (one, rest) =>
      match delimited mark false (rest.length + 1) false rest with
      | none => wrong [] "unterminated `y' command"
      | some (other, rest) =>
        let a := plainChars one
        let b := plainChars other
        if a.length ≠ b.length then
          wrong rest "strings for `y' command are different lengths"
        else .ok (.exchange a b, rest)

/-- Text up to a line end that no backslash protects. -/
def textLine : List Char → List Char × List Char
  | [] => ([], [])
  | '\n' :: r => ([], r)
  | '\\' :: c :: r =>
    let (s, t) := textLine r
    (c :: s, t)
  | c :: r =>
    let (s, t) := textLine r
    (c :: s, t)

def addedText (cs : List Char) : Reader (String × List Char) :=
  let cs := skipBlanks cs
  let cs := match cs with
    | '\\' :: r =>
      match skipBlanks r with
      | '\n' :: t => t
      | t => t
    | _ => cs
  if cs.isEmpty then wrong [] "expected \\ after `a', `c' or `i'"
  else
    let (text, rest) := textLine cs
    .ok (String.ofList text ++ "\n", rest)

def labelText (cs : List Char) : String × List Char :=
  let cs := skipBlanks cs
  let name := cs.takeWhile fun c => c ≠ '\n' && c ≠ ';'
  ((String.ofList name).trimAscii.toString, cs.drop name.length)

def action (extended : Bool) (cs : List Char) : Reader (Action × List Char) := do
  match cs with
  | [] => wrong [] "missing command"
  | c :: r =>
    let closed (a : Action) (rest : List Char) : Reader (Action × List Char) :=
      let rest := skipBlanks rest
      if isEnd rest then .ok (a, rest) else wrong (rest.drop 1) "extra characters after command"
    match c with
    | '\x7b' => return (.block 0, r)
    | '\x7d' => closed .finish r
    | 's' => substitution extended r
    | 'y' => do
      let (a, rest) ← exchange r
      closed a rest
    | 'a' | 'i' | 'c' => do
      let (text, rest) ← addedText r
      let edit := if c = 'a' then .append text else if c = 'i' then .insert text else .change text
      return (edit, rest)
    | ':' =>
      let cs := skipBlanks r
      let name := cs.takeWhile fun c => c ≠ '\n' && c ≠ ';'
      if name.isEmpty then wrong cs "\":\" lacks a label"
      return (.label ((String.ofList name).trimAscii.toString), cs.drop name.length)
    | 'b' | 't' | 'T' =>
      let (name, rest) := labelText r
      let short := (name.splitOn "\x7d").headD ""
      let rest := if short = name then rest else "\x7d".toList ++ rest
      return (.jump (if c = 'b' then none else some (c = 't')) short.trimAscii.toString, rest)
    | 'r' | 'w' =>
      let cs := skipBlanks r
      let name := cs.takeWhile (· ≠ '\n')
      if name.isEmpty then wrong cs "missing filename in r/R/w/W commands"
      let text := String.ofList name
      return (if c = 'r' then .readFile text else .writeFile text, cs.drop name.length)
    | 'q' | 'Q' =>
      let cs := skipBlanks r
      let ds := cs.takeWhile Char.isDigit
      closed (.quit (c = 'q') (valueOf 10 ds)) (cs.drop ds.length)
    | _ =>
      if ['=', 'd', 'D', 'g', 'G', 'h', 'H', 'x', 'n', 'N', 'p', 'P', 'z', 'l'].contains c then
        closed (.simple c) r
      else wrong r ("unknown command: `" ++ String.singleton c ++ "'")

def instructions (extended : Bool) : Nat → List Char → Reader (List Instruction)
  | 0, _ => .ok []
  | fuel + 1, cs => do
    let cs := cs.dropWhile fun c => isSpaceChar c || c = ';'
    match cs with
    | [] => return []
    | '#' :: r => instructions extended fuel (r.dropWhile (· ≠ '\n'))
    | _ =>
      let (first, rest) ← address extended false cs
      let rest := skipBlanks rest
      let (last, rest) ← match first, rest with
        | some _, ',' :: r => do
          let (a, rest) ← address extended true (skipBlanks r)
          if a.isNone then wrong rest "unexpected `,'"
          pure (a, rest)
        | _, _ => pure (none, rest)
      let rest := skipBlanks rest
      let inverse := rest.head? = some '!'
      let rest := rest.dropWhile fun c => c = '!' || c = ' '
      let (a, rest) ← action extended rest
      return ⟨first, last, inverse, a⟩ :: (← instructions extended fuel rest)

def blockEnd : Nat → Nat → List Instruction → Option Nat
  | _, _, [] => none
  | place, depth, x :: r =>
    match x.action with
    | .block _ => blockEnd (place + 1) (depth + 1) r
    | .finish => if depth = 0 then some (place + 1) else blockEnd (place + 1) (depth - 1) r
    | _ => blockEnd (place + 1) depth r

def linked : Nat → List Instruction → Option (List Instruction)
  | _, [] => some []
  | place, x :: r => do
    let rest ← linked (place + 1) r
    match x.action with
    | .block _ => return { x with action := .block (← blockEnd (place + 1) 0 r) } :: rest
    | _ => return x :: rest

/-- What a line has waiting behind it: a text, or a file. -/
inductive Waiting where
  | text (s : String)
  | file (name : String)

structure State where
  input : List String
  number : Nat := 0
  space : String := ""
  /-- Whether the line that was read last had a line end. -/
  ended : Bool := true
  hold : String := ""
  waiting : List Waiting := []
  /-- What was written, the last text first. -/
  output : List String := []
  /-- Whether the output lacks a line end. -/
  lacking : Bool := false
  /-- Instructions whose range has begun, with its last line if that is known. -/
  active : List (Nat × Option Nat) := []
  replaced : Bool := false
  written : List (String × String) := []
  status : Nat := 0

/-- How the work on a line ends. -/
inductive Outcome where
  | next (prints : Bool)
  | again
  | stop (prints : Bool)

def State.put (s : State) (text : String) (ended : Bool) : State :=
  { s with
    output := (if ended then text ++ "\n" else text)
      :: (if s.lacking then ["\n"] else []) ++ s.output
    lacking := !ended }

def State.show (s : State) (text : String) : State := s.put text (s.ended || !s.input.isEmpty)

def State.isLast (s : State) : Bool := s.input.isEmpty

/-- Writes what waits behind the line. `files` gives the texts of files. -/
def State.flush (files : String → Option String) (s : State) : State :=
  let step (s : State) (w : Waiting) : State :=
    match w with
    | .text t => s.put (withoutNewline t) true
    | .file name =>
      match files name with
      | some "" | none => s
      | some t => s.put (withoutNewline t) (t.endsWith "\n")
  { s.waiting.foldl step s with waiting := [] }

def State.read? (files : String → Option String) (s : State) : Option (String × State) :=
  let s := s.flush files
  match s.input with
  | [] => none
  | l :: r =>
    some (withoutNewline l,
      { s with input := r, number := s.number + 1, ended := l.endsWith "\n" })

def Address.fitsLine (a : Address) (s : State) : Bool :=
  match a with
  | .line n => s.number = n
  | .step n k => if k = 0 then s.number = n else n ≤ s.number && (s.number - n) % k = 0
  | .last => s.isLast
  | .fits r folds => (r.find? folds s.space.toList).isSome
  | _ => false

/-- Whether an instruction is meant for the line, and the ranges that have begun. -/
def selected (place : Nat) (x : Instruction) (s : State) : Bool × State :=
  let without := s.active.filter (·.1 ≠ place)
  match x.first, x.last with
  | none, _ => (true, s)
  | some a, none => (a.fitsLine s, s)
  | some a, some b =>
    let running : Option (Option Nat) :=
      match s.active.lookup place with
      | some e => some e
      | none =>
        match a with
        | .before => if s.number = 1 then some none else none
        | _ => none
    match running with
    | some stop =>
      match b with
      | .fits r folds =>
        let ends := (r.find? folds s.space.toList).isSome
        (true, { s with active := if ends then without else (place, none) :: without })
      | .last => (true, { s with active := if s.isLast then without else (place, none) :: without })
      | _ =>
        let n := stop.getD 0
        (s.number ≤ n, { s with active := if n ≤ s.number then without else s.active })
    | none =>
      if !a.fitsLine s then (false, s)
      else
        let begun (stop : Option Nat) : State := { s with active := (place, stop) :: without }
        match b with
        | .line n => (true, if n ≤ s.number then s else begun (some n))
        | .onward n => (true, if n = 0 then s else begun (some (s.number + n)))
        | .multiple n =>
          let stop := if n = 0 then s.number else ((s.number + n - 1) / n) * n
          (true, if stop ≤ s.number then s else begun (some stop))
        | .last => (true, if s.isLast then s else begun none)
        | _ => (true, begun none)

def filledIn (f : Regex.Found) : Case → Option Case → List Piece → List Char
  | _, _, [] => []
  | all, once, p :: ps =>
    let turned (c : Case) (x : Char) : Char :=
      match c with
      | .upper => x.toUpper
      | .lower => x.toLower
      | .none => x
    match p with
    | .turn c true => filledIn f all (some c) ps
    | .turn c false => filledIn f c none ps
    | .char x => turned (once.getD all) x :: filledIn f all none ps
    | .group n =>
      let text := if n = 0 then f.text else (f.groups.lookup n).getD []
      match text with
      | [] => filledIn f all once ps
      | x :: xs => turned (once.getD all) x :: xs.map (turned all) ++ filledIn f all none ps

/-- A text with its matches replaced, and whether there were any. -/
def substituted (s : Substitution) (text : List Char) : Option (List Char) :=
  let found := (s.pattern.allMatches s.folds text).drop (s.nth - 1)
  let found := if s.all then found else found.take 1
  if found.isEmpty then none
  else
    let step (x : List Char × Nat) (f : Regex.Found) : List Char × Nat :=
      (x.1 ++ (text.take f.before.length).drop x.2 ++ filledIn f .none none s.pieces,
        f.before.length + f.text.length)
    let (front, place) := found.foldl step ([], 0)
    some (front ++ text.drop place)

def visibleText (s : String) : String :=
  let one (c : Char) : String :=
    if c = '\\' then "\\\\" else if isUnprintable c ∨ 127 < c.toNat then unprintable c
    else String.singleton c
  wrapped 200 [] (s.toList.map one) ++ "$"
where
  wrapped : Nat → List String → List String → String
    | 0, line, rest => String.join (line ++ rest)
    | fuel + 1, line, rest =>
      match rest with
      | [] => String.join line
      | x :: r =>
        if 69 < (String.join line).length + x.length then
          String.join line ++ "\\\n" ++ wrapped fuel [] (x :: r)
        else wrapped (fuel + 1) (line ++ [x]) r
  termination_by fuel _ rest => (fuel, rest.length)

def State.keep (s : State) (name text : String) : State :=
  if name = "/dev/stdout" then s.put (withoutNewline text) true
  else
    let old := (s.written.lookup name).getD ""
    { s with written := (name, old ++ text) :: s.written.filter (·.1 ≠ name) }

def run (script : Array Instruction) (silent : Bool) (files : String → Option String) :
    Nat → Nat → State → State × Outcome
  | 0, _, s => (s, .stop false)
  | fuel + 1, place, s =>
    match script[place]? with
    | none => (s, .next true)
    | some x =>
      let (fits, s) := selected place x s
      let go (s : State) : State × Outcome := run script silent files fuel (place + 1) s
      let jump (name : String) (s : State) : State × Outcome :=
        if name = "" then (s, .next true)
        else
          let target := script.findIdx? fun y => match y.action with
            | .label n => n = name
            | _ => false
          match target with
          | some n => run script silent files fuel n s
          | none => (s, .next true)
      if fits = x.inverse then
        match x.action with
        | .block stop => run script silent files fuel stop s
        | _ => go s
      else match x.action with
        | .block _ | .finish | .label _ => go s
        | .substitute t =>
          match substituted t s.space.toList with
          | none => go s
          | some text =>
            let s := { s with space := String.ofList text, replaced := true }
            let s := if t.prints then s.show s.space else s
            go (match t.file with
              | some name => s.keep name (s.space ++ "\n")
              | none => s)
        | .exchange a b =>
          let turned (c : Char) : Char := (a.idxOf? c).elim c fun i => b.getD i c
          go { s with space := String.ofList (s.space.toList.map turned) }
        | .append t => go { s with waiting := s.waiting ++ [.text t] }
        | .readFile name => go { s with waiting := s.waiting ++ [.file name] }
        | .insert t => go (s.put (withoutNewline t) true)
        | .change t =>
          let isOpen := s.active.any (·.1 = place)
          ((if x.last.isSome && !x.inverse && isOpen then s else s.put (withoutNewline t) true),
            .next false)
        | .jump none name => jump name s
        | .jump (some wanted) name =>
          let holds := s.replaced = wanted
          let s := { s with replaced := false }
          if holds then jump name s else go s
        | .writeFile name => go (s.keep name (s.space ++ "\n"))
        | .quit prints status => ({ s with status := status }, .stop prints)
        | .simple '=' => go (s.put (toString s.number) true)
        | .simple 'd' => (s, .next false)
        | .simple 'D' =>
          let line := s.space.toList.takeWhile (· ≠ '\n')
          if line.length = s.space.length then (s, .next false)
          else ({ s with space := String.ofList (s.space.toList.drop (line.length + 1)) }, .again)
        | .simple 'g' => go { s with space := s.hold }
        | .simple 'G' => go { s with space := s.space ++ "\n" ++ s.hold }
        | .simple 'h' => go { s with hold := s.space }
        | .simple 'H' => go { s with hold := s.hold ++ "\n" ++ s.space }
        | .simple 'x' => go { s with space := s.hold, hold := s.space }
        | .simple 'p' => go (s.show s.space)
        | .simple 'P' => go (s.put ((s.space.splitOn "\n").headD "") true)
        | .simple 'z' => go { s with space := "" }
        | .simple 'l' => go (s.put (visibleText s.space) true)
        | .simple 'n' =>
          if s.isLast then (s, .stop true)
          else
            let s := if silent then s else s.show s.space
            match s.read? files with
            | some (line, s) => go { s with space := line }
            | none => (s, .stop false)
        | .simple 'N' =>
          if s.isLast then (s, .stop true)
          else match s.read? files with
            | some (line, s) => go { s with space := s.space ++ "\n" ++ line }
            | none => (s, .stop true)
        | .simple _ => go s

def maxSteps : Nat := 200000

def cycles (script : Array Instruction) (silent : Bool) (files : String → Option String) :
    Nat → Bool → State → State
  | 0, _, s => s
  | fuel + 1, keeps, s =>
    let ready := if keeps then some s else
      (s.read? files).map fun (line, s) => { s with space := line }
    match ready with
    | none => s.flush files
    | some s =>
      let (s, outcome) := run script silent files maxSteps 0 { s with replaced := false }
      match outcome with
      | .next prints =>
        let s := if prints && !silent then s.show s.space else s
        cycles script silent files fuel false s
      | .again => cycles script silent files fuel true (s.flush files)
      | .stop prints => (if prints && !silent then s.show s.space else s).flush files

def filesRead (script : List Instruction) : List String :=
  script.filterMap fun x => match x.action with
    | .readFile name => some name
    | _ => none

def filesWritten (script : List Instruction) : List String :=
  script.filterMap fun x => match x.action with
    | .writeFile name => some name
    | .substitute s => s.file
    | _ => none

def missingLabel? (script : List Instruction) : Option String :=
  let labels := script.filterMap fun x => match x.action with
    | .label n => some n
    | _ => none
  script.findSome? fun x => match x.action with
    | .jump _ name => if name = "" ∨ labels.contains name then none else some name
    | _ => none

end Edit

def sedRules : List OptionRule :=
  [⟨'n', ["quiet", "silent"], .nothing⟩, ⟨'e', ["expression"], .something⟩,
    ⟨'f', ["file"], .something⟩, ⟨'E', ["regexp-extended"], .nothing⟩, ⟨'r', [], .nothing⟩,
    ⟨'i', ["in-place"], .perhaps⟩, ⟨'s', ["separate"], .nothing⟩, ⟨'u', ["unbuffered"], .nothing⟩,
    ⟨'z', ["null-data"], .nothing⟩, ⟨'l', ["line-length"], .something⟩]

/-- Reads and links a script; an error is told at its place in the text. -/
def readScript (extended : Bool) (text : String) : Except String (List Edit.Instruction) :=
  let cs := text.toList
  match Edit.instructions extended (cs.length + 1) cs with
  | .error (rest, message) =>
    .error s!"-e expression #1, char {cs.length - rest.length}: {message}"
  | .ok is =>
    match is.zipIdx.find? fun (x, i) => match x.action with
      | .finish => Edit.blockEnd 0 0 (is.take (i + 1)) = some (i + 1)
      | _ => false with
    | some _ => .error s!"-e expression #1, char {cs.length}: unexpected `\x7d'"
    | none =>
      match Edit.linked 0 is with
      | some is => .ok is
      | none => .error "-e expression #1, char 0: unmatched `\x7b'"

def writeOut (name text : String) : Action m Unit := do
  match ← openFor .write name with
  | .ok n =>
    let before := (← process).descriptors
    connect 9 n
    let _ ← write 9 text
    change ({ · with descriptors := before })
  | .error f => tell s!"couldn't open file {name}: {faultText f}"

def sed (args : List String) : Action m Nat := do
  match readOptions sedRules false (args.length + 1) {} args with
  | .error message =>
    tell message
    return 1
  | .ok g =>
    let given := g.has 'e' || g.has 'f'
    let mut texts := []
    for (c, v) in g.options do
      if c = 'e' then texts := texts ++ [v]
      else if c = 'f' then
        match ← contentOf v with
        | .ok s => texts := texts ++ [withoutNewline s]
        | .error f =>
          tell s!"couldn't open file {v}: {faultText f}"
          return 1
    if !given then texts := [g.operands.headD ""]
    if !given && g.operands.isEmpty then
      let name := (← process).name
      complain s!"Usage: {name} [OPTION]... \x7bscript-only-if-no-other-script\x7d [input-file]..."
      return 1
    let names := if given then g.operands else g.operands.drop 1
    match readScript (g.has 'E' || g.has 'r') ("\n".intercalate texts) with
    | .error e =>
      tell e
      return 1
    | .ok script =>
      match Edit.missingLabel? script with
      | some label =>
        tell s!"can't find label for jump to `{label}'"
        return 4
      | none =>
        let silent := g.has 'n' || (texts.headD "").startsWith "#n\n"
        let mut known : List (String × String) := []
        for name in Edit.filesRead script do
          match ← contentOf name with
          | .ok s => known := (name, s) :: known
          | .error _ => pure ()
        let mut status := 0
        let mut inputs : List (String × String) := []
        for name in (if names.isEmpty then ["-"] else names) do
          match ← contentOf name with
          | .ok s => inputs := inputs ++ [(name, s)]
          | .error f =>
            if f = .isDirectory then
              if g.has 'i' then tell s!"couldn't edit {name}: not a regular file"
              else tell s!"read error on {name}: Is a directory"
              status := 4
            else
              tell s!"can't read {name}: {faultText f}"
              status := 2
        let program := script.toArray
        let files (name : String) : Option String := known.lookup name
        let edit (s : String) : Edit.State :=
          let lines := linesOf s
          Edit.cycles program silent files (lines.length * 4 + 1000) false { input := lines }
        if g.has 'i' then
          for (name, s) in inputs do
            let result := edit s
            writeOut name (String.join result.output.reverse)
            status := max status result.status
          return status
        else
          let groups := if g.has 's' then inputs.map (·.2)
            else [String.join (inputs.map fun (_, s) => s)]
          let mut text := ""
          for s in groups do
            let result := edit s
            text := text ++ String.join result.output.reverse
            if result.status ≠ 0 then status := result.status
            for name in Edit.filesWritten script do
              if name ≠ "/dev/stdout" then
                writeOut name ((result.written.lookup name).getD "")
          put text status 4

end DumpWorkbench.Shell.Utility
