import DumpWorkbench.Shell.Launcher.Format
import DumpWorkbench.Shell.Launcher.Utility.Excerpt
import DumpWorkbench.Shell.Pattern

namespace DumpWorkbench.Shell.Utility

variable {m : Type → Type} [Monad m] [Files m]

/-- The text of all files that are named. A file that cannot be read is told of, and gives status
1. -/
def contents (names : List String) : Action m (String × Nat) := do
  let mut text := ""
  let mut status := 0
  for name in (if names.isEmpty then ["-"] else names) do
    match ← contentOf name with
    | .ok s =>
      let gap := if text = "" || text.endsWith "\n" then "" else "\n"
      text := text ++ gap ++ s
    | .error f =>
      tell s!"{named name}: {faultText f}"
      status := 1
  return (text, status)

/-- Columns from one to another; without the other, up to the last. -/
abbrev Column := Nat × Option Nat

inductive ColumnFault where
  | notFromOne
  | decreasing
  | invalid (text : String)

def ColumnFault.message (fields : Bool) : ColumnFault → String
  | .notFromOne =>
    if fields then "fields are numbered from 1" else "byte/character positions are numbered from 1"
  | .decreasing => "invalid decreasing range"
  | .invalid t =>
    if fields then s!"invalid field value {curly t}"
    else s!"invalid byte/character position {curly t}"

def column? (text : String) : Except ColumnFault Column :=
  let cs := text.toList
  let low := cs.takeWhile Char.isDigit
  let number (ds rest : List Char) : Except ColumnFault Nat :=
    if !rest.isEmpty then .error (.invalid (String.ofList rest))
    else if valueOf 10 ds = 0 then .error .notFromOne else .ok (valueOf 10 ds)
  match cs.drop low.length with
  | '-' :: r => do
    let high := r.takeWhile Char.isDigit
    if low.isEmpty && r.isEmpty then .error (.invalid text)
    let first ← if low.isEmpty then pure 1 else number low []
    if r.isEmpty then return (first, none)
    let last ← number high (r.drop high.length)
    if last < first then .error .decreasing
    return (first, some last)
  | rest => do
    let n ← number low (if low.isEmpty && rest.isEmpty then [] else rest)
    return (n, some n)

def Column.has (n : Nat) (c : Column) : Bool := c.1 ≤ n && c.2.all (n ≤ ·)

def chosen (columns : List Column) (inverse : Bool) (xs : List α) : List α :=
  (xs.zipIdx 1).filterMap fun (x, n) =>
    if columns.any (·.has n) != inverse then some x else none

def cutRules : List OptionRule :=
  [⟨'b', ["bytes"], .something⟩, ⟨'c', ["characters"], .something⟩, ⟨'f', ["fields"], .something⟩,
    ⟨'d', ["delimiter"], .something⟩, ⟨'s', ["only-delimited"], .nothing⟩,
    ⟨'n', [], .nothing⟩, ⟨'\x01', ["complement"], .nothing⟩,
    ⟨'\x02', ["output-delimiter"], .something⟩,
    ⟨'z', ["zero-terminated"], .nothing⟩]

def cut (args : List String) : Action m Nat :=
  withOptions cutRules args fun g => do
    let lists := g.options.filter fun o => ['b', 'c', 'f'].contains o.1
    match lists with
    | [] => misused 1 "you must specify a list of bytes, characters, or fields"
    | _ :: _ :: _ => misused 1 "only one list may be specified"
    | [(letter, text)] =>
      let fields := letter = 'f'
      match (text.splitOn ",").mapM column? with
      | .error f => misused 1 (f.message fields)
      | .ok columns =>
        let delimiter := (g.value? 'd').getD "\t"
        if 1 < delimiter.length then misused 1 "the delimiter must be a single character"
        else
          let delimiter := if delimiter = "" then "\x00" else delimiter
          let output := (g.value? '\x02').getD (if fields then delimiter else "")
          let inverse := g.has '\x01'
          let pick (line : String) : List String :=
            if !fields then [String.ofList (chosen columns inverse line.toList)]
            else
              let pieces := line.splitOn delimiter
              if pieces.length = 1 then (if g.has 's' then [] else [line])
              else [output.intercalate (chosen columns inverse pieces)]
          let (text, status) ← contents g.operands
          put (String.join ((bareLines text).flatMap fun l => (pick l).map (· ++ "\n"))) status

def beside (joints : List String) : Nat → List (List String) → List String
  | 0, _ => []
  | n + 1, texts =>
    let row := texts.map (·.headD "")
    let line := (row.zipIdx).foldl (fun s (x, i) =>
      if i = 0 then x else s ++ joints.getD ((i - 1) % max 1 joints.length) "" ++ x) ""
    (line ++ "\n") :: beside joints n (texts.map (·.drop 1))

def paste (args : List String) : Action m Nat :=
  withOptions [⟨'s', ["serial"], .nothing⟩, ⟨'d', ["delimiters"], .something⟩,
    ⟨'z', ["zero-terminated"], .nothing⟩] args fun g => do
    let joints := (unescaped .program ((g.value? 'd').getD "\t").length
      ((g.value? 'd').getD "\t").toList).1.map String.singleton
    let mut texts : List (List String) := []
    for name in (if g.operands.isEmpty then ["-"] else g.operands) do
      match ← contentOf name with
      | .ok s => texts := texts ++ [bareLines s]
      | .error f =>
        tell s!"{named name}: {faultText f}"
        return 1
    let text :=
      if g.has 's' then
        String.join (texts.map fun ls => String.join (beside joints 1 (ls.map fun l => [l])))
      else String.join (beside joints (texts.foldl (fun n ls => max n ls.length) 0) texts)
    put text 0

def nl (args : List String) : Action m Nat :=
  withOptions [⟨'b', ["body-numbering"], .something⟩, ⟨'w', ["number-width"], .something⟩,
    ⟨'s', ["number-separator"], .something⟩, ⟨'v', ["starting-line-number"], .something⟩,
    ⟨'n', ["number-format"], .something⟩] args fun g => do
    let width := ((g.value? 'w').bind (·.toNat?)).getD 6
    let joint := (g.value? 's').getD "\t"
    let all := g.value? 'b' = some "a"
    let none := g.value? 'b' = some "n"
    let start := ((g.value? 'v').bind (·.toNat?)).getD 1
    let (text, status) ← contents g.operands
    let number (n : Nat) : String :=
      let digits := toString n
      let missing := width - digits.length
      match g.value? 'n' with
      | some "ln" => digits ++ String.ofList (List.replicate missing ' ')
      | some "rz" => String.ofList (List.replicate missing '0') ++ digits
      | _ => numberField width n
    let rec rows : Nat → List String → List String
      | _, [] => []
      | n, l :: ls =>
        if none || (l = "" && !all) then
          (String.ofList (List.replicate (width + joint.length) ' ') ++ l ++ "\n") :: rows n ls
        else (number n ++ joint ++ l ++ "\n") :: rows (n + 1) ls
    put (String.join (rows start (bareLines text))) status

/-- Cuts a line into pieces of a width, behind blanks if that is asked for. -/
def folded (width : Nat) (spaces : Bool) : Nat → List Char → List (List Char)
  | 0, cs => [cs]
  | fuel + 1, cs =>
    if cs.length ≤ width then [cs]
    else
      let piece := cs.take width
      let kept := (piece.reverse.dropWhile fun c => c ≠ ' ' && c ≠ '\t').reverse
      let piece := if spaces && !kept.isEmpty then kept else piece
      piece :: folded width spaces fuel (cs.drop piece.length)

def fold (args : List String) : Action m Nat :=
  withOptions [⟨'w', ["width"], .something⟩, ⟨'s', ["spaces"], .nothing⟩,
    ⟨'b', ["bytes"], .nothing⟩] args fun g => do
    let width := max 1 (((g.value? 'w').bind (·.toNat?)).getD 80)
    let (text, status) ← contents g.operands
    let one (l : String) : String :=
      let pieces := folded width (g.has 's') l.length (withoutNewline l).toList
      "\n".intercalate (pieces.map String.ofList) ++ if l.endsWith "\n" then "\n" else ""
    put (String.join ((linesOf text).map one)) status

/-- An element of a set: characters, a kind of them, or one that fills the set up. -/
inductive Element where
  | chars (cs : List Char)
  | kind (name : String) (cs : List Char)
  | fill (c : Char)

def allChars : List Char := (List.range 256).map Char.ofNat

def bracketed? (cs : List Char) : Option (Except String Element × List Char) :=
  match cs with
  | ':' :: r =>
    let name := r.takeWhile (· ≠ ':')
    match r.drop name.length with
    | ':' :: ']' :: rest =>
      let text := String.ofList name
      let found := allChars.filter (isKind text)
      some (if found.isEmpty then .error s!"invalid character class {curly text}"
        else .ok (.kind text found), rest)
    | _ => none
  | '=' :: c :: '=' :: ']' :: rest => some (.ok (.chars [c]), rest)
  | c :: '*' :: r =>
    let digits := r.takeWhile Char.isDigit
    match r.drop digits.length with
    | ']' :: rest =>
      let n := valueOf (if digits.head? = some '0' then 8 else 10) digits
      some (.ok (if n = 0 then .fill c else .chars (List.replicate n c)), rest)
    | _ => none
  | _ => none

def setChar : List Char → Option (Char × Bool × List Char)
  | [] => none
  | '\\' :: c :: r =>
    match formatEscape .builtin (c :: r) with
    | .text [d] rest => some (d, true, rest)
    | _ => some (c, true, r)
  | c :: r => some (c, false, r)

def elements : Nat → List Char → Except String (List Element)
  | 0, _ => .ok []
  | _, [] => .ok []
  | fuel + 1, cs => do
    match if cs.head? = some '[' then bracketed? (cs.drop 1) else none with
    | some (x, rest) => return (← x) :: (← elements fuel rest)
    | none =>
      match setChar cs with
      | none => return []
      | some (a, _, rest) =>
        match rest with
        | '-' :: t =>
          match setChar t with
          | some (b, _, t) =>
            if b < a then
              let range := String.ofList (cs.take (cs.length - t.length))
              .error s!"range-endpoints of {quoted range} are in reverse collating sequence order"
            let range := (List.range (b.toNat + 1 - a.toNat)).map fun n => Char.ofNat (a.toNat + n)
            return .chars range :: (← elements fuel t)
          | none => return .chars [a, '-'] :: (← elements fuel [])
        | _ => return .chars [a] :: (← elements fuel rest)

def filled (size : Nat) (es : List Element) : List Char :=
  let known := es.foldl (fun n e => match e with
    | .chars cs | .kind _ cs => n + cs.length
    | .fill _ => n) 0
  es.flatMap fun
    | .chars cs | .kind _ cs => cs
    | .fill c => List.replicate (size - known) c

def Element.isCase : Element → Bool
  | .kind "upper" _ | .kind "lower" _ => true
  | _ => false

def Element.isKind : Element → Bool
  | .kind _ _ => true
  | _ => false

/-- A text in which runs of a character of a set are one character. -/
def squeezedChars (set : List Char) : Option Char → List Char → List Char
  | _, [] => []
  | before, c :: r =>
    if before = some c ∧ set.contains c then squeezedChars set before r
    else c :: squeezedChars set (some c) r

def replacedChars (source target : List Char) (cs : List Char) : List Char :=
  let last := target.getLastD '\x00'
  let table := allChars.map fun c =>
    match (source.zipIdx.reverse.find? (·.1 = c)).map (·.2) with
    | some i => target.getD i last
    | none => c
  let table := table.toArray
  cs.map fun c => table.getD c.toNat c

def tr (args : List String) : Action m Nat :=
  withOptions [⟨'c', ["complement"], .nothing⟩, ⟨'C', [], .nothing⟩, ⟨'d', ["delete"], .nothing⟩,
    ⟨'s', ["squeeze-repeats"], .nothing⟩, ⟨'t', ["truncate-set1"], .nothing⟩] args (fun g => do
    let deletes := g.has 'd'
    let squeezes := g.has 's'
    let exchanges := !deletes && !(squeezes && g.operands.length = 1)
    let least := if exchanges || (deletes && squeezes) then 2 else 1
    let most := if deletes && !squeezes then 1 else 2
    let missing (text : String) : Action m Nat := do
      tell ("missing operand after " ++ curly (g.operands.headD ""))
      complain text
      let name := (← process).name
      complain s!"Try '{name} --help' for more information."
      return 1
    if g.operands.isEmpty then withoutOperand 1
    else if g.operands.length < least then
      missing (if deletes then
          "Two strings must be given when both deleting and squeezing repeats."
        else "Two strings must be given when translating.")
    else if most < g.operands.length then do
      tell ("extra operand " ++ curly (g.operands.getD most ""))
      if most = 1 then
        complain "Only one string may be given when deleting without squeezing repeats."
      let name := (← process).name
      complain s!"Try '{name} --help' for more information."
      return 1
    else
      let one := g.operands.headD ""
      let other := g.operands.getD 1 ""
      match elements (one.length + 1) one.toList, elements (other.length + 1) other.toList with
      | .error e, _ | _, .error e =>
        tell e
        return 1
      | .ok es, .ok fs =>
        let source := filled 0 es
        let source :=
          if g.has 'c' || g.has 'C' then allChars.filter (!source.contains ·) else source
        let target := filled source.length fs
        if exchanges && target.isEmpty then
          tell "when not truncating set1, string2 must be non-empty"
          return 1
        if exchanges && fs.any Element.isCase && !es.any Element.isCase then
          tell "misaligned [:upper:] and/or [:lower:] construct"
          return 1
        if exchanges && fs.any fun f => f.isKind && !f.isCase then
          tell ("when translating, the only character classes that may appear in\nstring2 are "
            ++ "\x27upper\x27 and \x27lower\x27")
          return 1
        let source := if g.has 't' && exchanges then source.take target.length else source
        let text := match ← contentOf "-" with
          | .ok s => s.toList
          | .error _ => []
        let text := if deletes then text.filter (!source.contains ·)
          else if exchanges then replacedChars source target text else text
        let text :=
          if squeezes then
            squeezedChars (if g.operands.length = 1 then source else target) none text
          else text
        put (String.ofList text) 0) 1 true

/-- How `od` writes a byte, or two of them as a word. -/
inductive DumpForm where
  | letters
  | number (base width : Nat) (padded signed : Bool)
  | word (base width : Nat)
deriving DecidableEq, Repr

def padded (fill : Char) (width : Nat) (s : String) : String :=
  String.ofList (List.replicate (width - s.length) fill) ++ s

def byteLetters (c : Char) : String :=
  if c = '\x00' then "\\0"
  else if 7 ≤ c.toNat ∧ c.toNat ≤ 13 then unprintable c
  else if 32 ≤ c.toNat ∧ c.toNat < 127 then String.singleton c
  else padded '0' 3 (String.ofList (Nat.toDigits 8 c.toNat))

def DumpForm.row : DumpForm → List Char → String
  | .letters, cs => String.join (cs.map fun c => padded ' ' 4 (byteLetters c))
  | .number base width zeros signed, cs =>
    String.join (cs.map fun c =>
      let n : Int := if signed ∧ 127 < c.toNat then (c.toNat : Int) - 256 else c.toNat
      let digits := String.ofList (Nat.toDigits base n.natAbs)
      let text := if n < 0 then "-" ++ digits else digits
      let text := if zeros then padded '0' (width - 1) text else text
      padded ' ' width text)
  | .word base width, cs => String.join (words base width cs)
where
  words (base width : Nat) : List Char → List String
    | [] => []
    | [a] => [" " ++ padded '0' (width - 1) (String.ofList (Nat.toDigits base a.toNat))]
    | a :: b :: r =>
      let n := a.toNat + 256 * b.toNat
      let digits := String.ofList (Nat.toDigits base n)
      (if base = 10 then padded ' ' width digits else " " ++ padded '0' (width - 1) digits)
        :: words base width r

def dumpForm? (type : String) : Option DumpForm :=
  match type with
  | "c" => some .letters
  | "o1" => some (.number 8 4 true false)
  | "x1" => some (.number 16 3 true false)
  | "u1" => some (.number 10 4 false false)
  | "d1" => some (.number 10 5 false true)
  | "o2" => some (.word 8 7)
  | "x2" => some (.word 16 5)
  | "u2" => some (.word 10 6)
  | _ => none

/-- Rows of sixteen bytes with the place of each; a row like the one before is left out. -/
def dumpRows (form : DumpForm) (address : Nat → String) :
    Nat → Nat → Option (List Char) → Bool → List Char → List String
  | 0, place, _, _, _ => [address place]
  | fuel + 1, place, before, hidden, cs =>
    if cs.isEmpty then [address place]
    else
      let row := cs.take 16
      let rest := cs.drop 16
      if before = some row ∧ row.length = 16 then
        (if hidden then [] else ["*"])
          ++ dumpRows form address fuel (place + 16) before true rest
      else
        (address place ++ form.row row)
          :: dumpRows form address fuel (place + row.length) (some row) false rest

def od (args : List String) : Action m Nat :=
  withOptions [⟨'A', ["address-radix"], .something⟩, ⟨'t', ["format"], .something⟩,
    ⟨'c', [], .nothing⟩, ⟨'b', [], .nothing⟩, ⟨'x', [], .nothing⟩, ⟨'o', [], .nothing⟩,
    ⟨'N', ["read-bytes"], .something⟩, ⟨'v', ["output-duplicates"], .nothing⟩,
    ⟨'j', ["skip-bytes"], .something⟩] args fun g => do
    let base := match g.value? 'A' with
      | some "d" => some (10, 7)
      | some "x" => some (16, 6)
      | some "n" => none
      | _ => some (8, 7)
    let address (n : Nat) : String := match base with
      | none => ""
      | some (b, w) => padded '0' w (String.ofList (Nat.toDigits b n))
    let type := match g.last? ['t', 'c', 'b', 'x', 'o'] with
      | some 't' => (g.value? 't').getD ""
      | some 'c' => "c"
      | some 'b' => "o1"
      | some 'x' => "x2"
      | _ => "o2"
    match dumpForm? type with
    | none =>
      tell s!"invalid type string {curly type}"
      return 1
    | some form =>
      let mut text := ""
      let mut status := 0
      for name in (if g.operands.isEmpty then ["-"] else g.operands) do
        match ← contentOf name with
        | .ok s => text := text ++ s
        | .error f =>
          tell s!"{named name}: {faultText f}"
          status := 1
      let cs := text.toList.drop (((g.value? 'j').bind (·.toNat?)).getD 0)
      let cs := match (g.value? 'N').bind (·.toNat?) with
        | some n => cs.take n
        | none => cs
      let rows := dumpRows form address (cs.length + 1) 0 none false cs
      let rows := if base.isNone then rows.dropLast else rows
      put (String.join (rows.map (· ++ "\n"))) status

def base64Letters : List Char :=
  "ABCDEFGHIJKLMNOPQRSTUVWXYZabcdefghijklmnopqrstuvwxyz0123456789+/".toList

def toBase64 : List Char → List Char
  | [] => []
  | a :: r =>
    let letter (n : Nat) : Char := base64Letters.getD (n % 64) '='
    match r with
    | [] => [letter (a.toNat / 4), letter (a.toNat * 16), '=', '=']
    | [b] =>
      let n := a.toNat * 256 + b.toNat
      [letter (n / 1024), letter (n / 16), letter (n * 4), '=']
    | b :: c :: r =>
      let n := (a.toNat * 256 + b.toNat) * 256 + c.toNat
      letter (n / 262144) :: letter (n / 4096) :: letter (n / 64) :: letter n :: toBase64 r

def fromBase64 : List Char → List Char × Bool
  | [] => ([], true)
  | a :: b :: c :: d :: r =>
    let value? (x : Char) : Option Nat := base64Letters.idxOf? x
    match value? a, value? b with
    | some x, some y =>
      let first := byteChar (x * 4 + y / 16)
      if c = '=' ∧ d = '=' then ([first], r.isEmpty)
      else match value? c with
        | none => ([first], false)
        | some z =>
          let second := byteChar (y * 16 + z / 4)
          if d = '=' then ([first, second], r.isEmpty)
          else match value? d with
            | none => ([first, second], false)
            | some w =>
              let (cs, ok) := fromBase64 r
              (first :: second :: byteChar (z * 64 + w) :: cs, ok)
    | _, _ => ([], false)
  | _ => ([], false)

def base64 (args : List String) : Action m Nat :=
  withOptions [⟨'d', ["decode"], .nothing⟩, ⟨'w', ["wrap"], .something⟩,
    ⟨'i', ["ignore-garbage"], .nothing⟩] args fun g => do
    let name := g.operands.headD "-"
    match ← contentOf name with
    | .error f =>
      tell s!"{named name}: {faultText f}"
      return 1
    | .ok s =>
      if g.has 'd' then
        let letters := s.toList.filter (· ≠ '\n')
        let letters := if g.has 'i' then letters.filter fun c =>
          c = '=' || base64Letters.contains c else letters
        let (cs, ok) := fromBase64 letters
        let status ← put (String.ofList cs) 0
        if ok then return status
        tell "invalid input"
        return 1
      else
        let letters := toBase64 s.toList
        let width := ((g.value? 'w').bind (·.toNat?)).getD 76
        if width = 0 then put (String.ofList letters) 0
        else if letters.isEmpty then return 0
        else put (String.join ((folded width false letters.length letters).map fun p =>
          String.ofList p ++ "\n")) 0

end DumpWorkbench.Shell.Utility
