import DumpWorkbench.Shell.Launcher.Utility.Excerpt

namespace DumpWorkbench.Shell.Utility

variable {m : Type → Type} [Monad m] [Files m]

/-- How keys are compared. -/
structure Comparison where
  numeric : Bool := false
  reverse : Bool := false
  fold : Bool := false
  blanks : Bool := false
  version : Bool := false
  human : Bool := false
  dictionary : Bool := false
deriving DecidableEq, Repr

/-- The place of the first or last character of a key: a field and a character in it, both counted
from one. A character 0 stands for the end of the field. -/
structure KeyEnd where
  field : Nat
  char : Nat
deriving Repr

structure Key where
  first : KeyEnd := ⟨1, 1⟩
  last : Option KeyEnd := none
  comparison : Comparison := {}
deriving Repr

/-- A number in front of a text: its sign, the digits before the point and those behind it. -/
structure Numeral where
  negative : Bool
  whole : List Char
  fraction : List Char

def Numeral.of (cs : List Char) : Numeral × List Char :=
  let cs := cs.dropWhile fun c => c = ' ' || c = '\t' || c = '\n'
  let (negative, cs) := match cs with
    | '-' :: r => (true, r)
    | _ => (false, cs)
  let whole := cs.takeWhile Char.isDigit
  let rest := cs.drop whole.length
  let (fraction, rest) := match rest with
    | '.' :: r => (r.takeWhile Char.isDigit, r.dropWhile Char.isDigit)
    | _ => ([], rest)
  (⟨negative, whole.dropWhile (· = '0'), (fraction.reverse.dropWhile (· = '0')).reverse⟩, rest)

def Numeral.isZero (n : Numeral) : Bool := n.whole.isEmpty && n.fraction.isEmpty

def Numeral.magnitude (a b : Numeral) : Ordering :=
  match compare a.whole.length b.whole.length with
  | .eq => compare (String.ofList (a.whole ++ a.fraction)) (String.ofList (b.whole ++ b.fraction))
  | o => o

def Numeral.compare (a b : Numeral) : Ordering :=
  if a.isZero && b.isZero then .eq
  else
    let lowA := a.negative && !a.isZero
    let lowB := b.negative && !b.isZero
    if lowA != lowB then (if lowA then .lt else .gt)
    else if lowA then b.magnitude a else a.magnitude b

def unitRank (cs : List Char) : Nat :=
  match cs with
  | c :: _ => (['K', 'M', 'G', 'T', 'P', 'E', 'Z', 'Y'].idxOf? c.toUpper).elim 0 (· + 1)
  | [] => 0

def compareVersions : Nat → List Char → List Char → Ordering
  | 0, _, _ => .eq
  | _, [], [] => .eq
  | _, [], _ => .lt
  | _, _, [] => .gt
  | fuel + 1, a :: as, b :: bs =>
    if a.isDigit && b.isDigit then
      let x := (a :: as).takeWhile Char.isDigit
      let y := (b :: bs).takeWhile Char.isDigit
      match compare (valueOf 10 x) (valueOf 10 y) with
      | .eq => compareVersions fuel ((a :: as).drop x.length) ((b :: bs).drop y.length)
      | o => o
    else
      let rank (c : Char) : Nat :=
        if c = '~' then 0 else if c.isDigit then 1 else if c.isAlpha then c.toNat + 2
        else c.toNat + 300
      match compare (rank a) (rank b) with
      | .eq => compareVersions fuel as bs
      | o => o

def Comparison.compare (c : Comparison) (a b : List Char) : Ordering :=
  let trim (cs : List Char) := if c.blanks then cs.dropWhile isBlankChar else cs
  let keep (cs : List Char) :=
    if c.dictionary then cs.filter fun x => x.isAlphanum || isBlankChar x else cs
  let fold (cs : List Char) := if c.fold then cs.map Char.toUpper else cs
  let a := trim a
  let b := trim b
  let o :=
    if c.numeric then (Numeral.of a).1.compare (Numeral.of b).1
    else if c.human then
      let (x, s) := Numeral.of a
      let (y, t) := Numeral.of b
      let rank (n : Numeral) (u : List Char) : Int :=
        if n.isZero then 0 else if n.negative then -((unitRank u : Int) + 1) else unitRank u + 1
      match Ord.compare (rank x s) (rank y t) with
      | .eq => x.compare y
      | o => o
    else if c.version then compareVersions (a.length + b.length + 1) a b
    else Ord.compare (String.ofList (fold (keep a))) (String.ofList (fold (keep b)))
  if c.reverse then o.swap else o
where
  isBlankChar (c : Char) : Bool := c = ' ' || c = '\t'

/-- The fields of a line with the blanks or separators in front of them. -/
def fieldStarts (separator : Option Char) (cs : List Char) : List (List Char) :=
  match separator with
  | some c => splitChars c cs
  | none => blankFields (cs.length + 1) cs
where
  splitChars (c : Char) (cs : List Char) : List (List Char) :=
    ((String.ofList cs).splitOn (String.singleton c)).map String.toList
  blankFields : Nat → List Char → List (List Char)
    | 0, _ => []
    | _, [] => []
    | fuel + 1, cs =>
      let blanks := cs.takeWhile fun c => c = ' ' || c = '\t'
      let rest := cs.drop blanks.length
      let word := rest.takeWhile fun c => c ≠ ' ' && c ≠ '\t'
      (blanks ++ word) :: blankFields fuel (rest.drop word.length)

def Key.of (separator : Option Char) (key : Key) (line : List Char) : List Char :=
  let fields := fieldStarts separator line
  let gap := if separator.isSome then 1 else 0
  let start (n : Nat) : Nat := (fields.take (n - 1)).foldl (fun k f => k + f.length + gap) 0
  let skip (n : Nat) : Nat :=
    if key.comparison.blanks then
      ((fields.getD (n - 1) []).takeWhile fun c => c = ' ' || c = '\t').length
    else 0
  let first := start key.first.field + skip key.first.field + (key.first.char - 1)
  let stop := match key.last with
    | none => line.length
    | some e =>
      if e.char = 0 then start e.field + (fields.getD (e.field - 1) []).length
      else start e.field + skip e.field + e.char
  (line.take stop).drop first

def addLetter (c : Comparison) (letter : Char) : Option Comparison :=
  match letter with
  | 'n' | 'g' => some { c with numeric := true }
  | 'r' => some { c with reverse := true }
  | 'f' => some { c with fold := true }
  | 'b' => some { c with blanks := true }
  | 'V' => some { c with version := true }
  | 'h' => some { c with human := true }
  | 'd' => some { c with dictionary := true }
  | 'i' => some c
  | _ => none

/-- One end of a key, with the letters behind it. -/
def keyEnd? (char : Nat) (cs : List Char) : Option (KeyEnd × List Char) :=
  let ds := cs.takeWhile Char.isDigit
  if ds.isEmpty then none
  else
    let rest := cs.drop ds.length
    match rest with
    | '.' :: r =>
      let es := r.takeWhile Char.isDigit
      some (⟨valueOf 10 ds, valueOf 10 es⟩, r.drop es.length)
    | _ => some (⟨valueOf 10 ds, char⟩, rest)

def key? (usual : Comparison) (text : String) : Option Key := do
  let (first, rest) ← keyEnd? 1 text.toList
  let letters := rest.takeWhile Char.isAlpha
  let own ← letters.foldlM addLetter {}
  let (last, own) ← match rest.drop letters.length with
    | ',' :: r => do
      let (last, rest) ← keyEnd? 0 r
      let own ← rest.foldlM addLetter own
      pure (some last, own)
    | [] => pure (none, own)
    | _ => none
  return ⟨first, last, if own = {} then usual else own⟩

def compareKeys (separator : Option Char) (a b : List Char) : List Key → Ordering
  | [] => .eq
  | k :: ks =>
    match k.comparison.compare (k.of separator a) (k.of separator b) with
    | .eq => compareKeys separator a b ks
    | o => o

def withoutRepeats (same : String → String → Bool) : List String → List String
  | a :: b :: r =>
    if same a b then withoutRepeats same (a :: r) else a :: withoutRepeats same (b :: r)
  | xs => xs
termination_by xs => xs.length

def sortRules : List OptionRule :=
  [⟨'n', ["numeric-sort"], .nothing⟩, ⟨'g', ["general-numeric-sort"], .nothing⟩,
    ⟨'r', ["reverse"], .nothing⟩, ⟨'u', ["unique"], .nothing⟩, ⟨'f', ["ignore-case"], .nothing⟩,
    ⟨'b', ["ignore-leading-blanks"], .nothing⟩, ⟨'V', ["version-sort"], .nothing⟩,
    ⟨'h', ["human-numeric-sort"], .nothing⟩, ⟨'d', ["dictionary-order"], .nothing⟩,
    ⟨'i', ["ignore-nonprinting"], .nothing⟩, ⟨'s', ["stable"], .nothing⟩,
    ⟨'c', ["check"], .perhaps⟩, ⟨'C', [], .nothing⟩, ⟨'m', ["merge"], .nothing⟩,
    ⟨'k', ["key"], .something⟩, ⟨'t', ["field-separator"], .something⟩,
    ⟨'o', ["output"], .something⟩, ⟨'z', ["zero-terminated"], .nothing⟩]

def sort (args : List String) : Action m Nat :=
  withOptions sortRules args (fun g => do
    let usual := (['n', 'g', 'r', 'f', 'b', 'V', 'h', 'd'].filter g.has).foldl
      (fun c l => (addLetter c l).getD c) ({} : Comparison)
    let texts := (g.options.filter (·.1 = 'k')).map (·.2)
    for t in texts do
      if (key? usual t).isNone then
        tell s!"invalid number at field start: invalid count at start of {curly t}"
        return 2
    let keys := texts.filterMap (key? usual)
    let keys := if keys.isEmpty then [{ comparison := usual }] else keys
    let separator := (g.value? 't').bind fun s => if s = "\\0" then some '\x00' else s.toList.head?
    let mut lines : List String := []
    for name in (if g.operands.isEmpty then ["-"] else g.operands) do
      match ← contentOf name with
      | .ok s => lines := lines ++ bareLines s
      | .error f =>
        if f = .isDirectory then tell s!"read failed: {named name}: Is a directory"
        else tell s!"cannot read: {named name}: {faultText f}"
        return 2
    let byKeys (a b : String) : Ordering := compareKeys separator a.toList b.toList keys
    let whole (a b : String) : Ordering :=
      let o := compare a b
      if usual.reverse then o.swap else o
    let order (a b : String) : Ordering :=
      match byKeys a b with
      | .eq => if g.has 's' || g.has 'u' then .eq else whole a b
      | o => o
    if g.has 'c' || g.has 'C' then
      let bad (a b : String) : Bool := order a b == .gt || (g.has 'u' && order a b == .eq)
      match ((lines.zip (lines.drop 1)).zipIdx).find? fun ((a, b), _) => bad a b with
      | none => return 0
      | some ((_, b), i) =>
        let name := g.operands.headD "-"
        if !g.has 'C' then tell s!"{name}:{i + 2}: disorder: {b}"
        return 1
    let sorted := lines.mergeSort fun a b => order a b != .gt
    let sorted := if g.has 'u' then withoutRepeats (fun a b => byKeys a b == .eq) sorted else sorted
    let text := String.join (sorted.map (· ++ "\n"))
    match g.value? 'o' with
    | none => put text 0 2
    | some name =>
      match ← openFor .write name with
      | .error f =>
        tell s!"open failed: {named name}: {faultText f}"
        return 2
      | .ok n =>
        connect 1 n
        put text 0 2) 2

/-- The part of a line that counts: without so many fields and characters, in one case. -/
def comparedPart (g : Given) (line : String) : String :=
  let number (c : Char) : Nat := ((g.value? c).bind (·.toNat?)).getD 0
  let cs := dropFields (number 'f') line.toList
  let cs := cs.drop (number 's')
  let cs := match (g.value? 'w').bind (·.toNat?) with
    | some n => cs.take n
    | none => cs
  String.ofList (if g.has 'i' then cs.map Char.toUpper else cs)
where
  dropFields : Nat → List Char → List Char
    | 0, cs => cs
    | n + 1, cs =>
      let cs := cs.dropWhile fun c => c = ' ' || c = '\t'
      dropFields n (cs.dropWhile fun c => c ≠ ' ' && c ≠ '\t')

def runsOf (part : String → String) : List String → List (List String)
  | [] => []
  | l :: ls =>
    match runsOf part ls with
    | (x :: xs) :: rs => if part l = part x then (l :: x :: xs) :: rs else [l] :: (x :: xs) :: rs
    | rs => [l] :: rs

def uniq (args : List String) : Action m Nat :=
  withOptions [⟨'c', ["count"], .nothing⟩, ⟨'d', ["repeated"], .nothing⟩,
    ⟨'u', ["unique"], .nothing⟩, ⟨'i', ["ignore-case"], .nothing⟩, ⟨'D', [], .nothing⟩,
    ⟨'f', ["skip-fields"], .something⟩, ⟨'s', ["skip-chars"], .something⟩,
    ⟨'w', ["check-chars"], .something⟩] args fun g => do
    match g.operands with
    | _ :: _ :: extra :: _ => misused 1 s!"extra operand {curly extra}"
    | _ =>
      let name := g.operands.headD "-"
      match ← contentOf name with
      | .error f =>
        tell s!"{named name}: {faultText f}"
        return 1
      | .ok s =>
        let runs := runsOf (comparedPart g) (bareLines s)
        let runs := if g.has 'd' || g.has 'D' then runs.filter (1 < ·.length) else runs
        let runs := if g.has 'u' then runs.filter (·.length = 1) else runs
        let shown (r : List String) : String :=
          if g.has 'D' then String.join (r.map (· ++ "\n"))
          else (if g.has 'c' then numberField 7 r.length ++ " " else "") ++ r.headD "" ++ "\n"
        let text := String.join (runs.map shown)
        match g.operands with
        | [_, target] =>
          match ← openFor .write target with
          | .ok n =>
            connect 1 n
            put text 0
          | .error f =>
            tell s!"{named target}: {faultText f}"
            return 1
        | _ => put text 0

/-- Lines of two sorted texts with the column that they belong to. -/
def merged : Nat → List String → List String → List (Nat × String)
  | 0, _, _ => []
  | _, [], bs => bs.map (2, ·)
  | _, as, [] => as.map (1, ·)
  | fuel + 1, a :: as, b :: bs =>
    match compare a b with
    | .lt => (1, a) :: merged fuel as (b :: bs)
    | .gt => (2, b) :: merged fuel (a :: as) bs
    | .eq => (3, a) :: merged fuel as bs

def comm (args : List String) : Action m Nat :=
  withOptions [⟨'1', [], .nothing⟩, ⟨'2', [], .nothing⟩, ⟨'3', [], .nothing⟩] args fun g => do
    match g.operands with
    | [] => withoutOperand 1
    | [a] => misused 1 s!"missing operand after {curly a}"
    | [a, b] =>
      let one ← contentOf a
      let other ← contentOf b
      match one, other with
      | .error f, _ =>
        tell s!"{named a}: {faultText f}"
        return 1
      | _, .error f =>
        tell s!"{named b}: {faultText f}"
        return 1
      | .ok s, .ok t =>
        let as := bareLines s
        let bs := bareLines t
        let tab (c : Char) : String := if g.has c then "" else "\t"
        let row (x : Nat × String) : String :=
          match x.1 with
          | 1 => if g.has '1' then "" else x.2 ++ "\n"
          | 2 => if g.has '2' then "" else tab '1' ++ x.2 ++ "\n"
          | _ => if g.has '3' then "" else tab '1' ++ tab '2' ++ x.2 ++ "\n"
        put (String.join ((merged (as.length + bs.length + 1) as bs).map row)) 0
    | _ :: _ :: extra :: _ => misused 1 s!"extra operand {curly extra}"

end DumpWorkbench.Shell.Utility
