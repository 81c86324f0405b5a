import DumpWorkbench.Log.Expression
import DumpWorkbench.Text.Blank
import DumpWorkbench.Text.Letter

namespace DumpWorkbench.Log.Expression

def skipped (spaced : Bool) : List Char → List Char
  | [] => []
  | c :: r =>
    if !spaced then c :: r
    else if Text.isBlank c then skipped spaced r
    else if c = '#' then comment r
    else c :: r
where
  comment : List Char → List Char
    | [] => []
    | c :: r => if c = '\n' then skipped spaced r else comment r

/-- The character that comes next in a class. Of a comment only the mark is passed over. -/
def upcoming? (spaced marked : Bool) : List Char → Option Char
  | [] => none
  | c :: r =>
    if !spaced then some c
    else if Text.isBlank c then upcoming? spaced marked r
    else if !marked && c = '#' then upcoming? spaced true r
    else some c

inductive Escape where
  | character (c : Char) (byte : Bool)
  | anchor
  | wordBound
  | kind (inverse : Bool)

def hexDigit? (c : Char) : Option Nat :=
  if c.isDigit then some (c.toNat - 48)
  else if 'a' ≤ c && c ≤ 'f' then some (c.toNat - 87)
  else if 'A' ≤ c && c ≤ 'F' then some (c.toNat - 55)
  else none

def hexNumber? (spaced : Bool) : Nat → Nat → List Char → Option (Nat × List Char)
  | 0, n, cs => some (n, cs)
  | digits + 1, n, cs =>
    match skipped spaced cs with
    | [] => none
    | c :: r => (hexDigit? c).bind fun d => hexNumber? spaced digits (16 * n + d) r

def hexCharacter? (spaced byte : Bool) (digits : Nat) (cs : List Char) :
    Option (Escape × List Char) :=
  (hexNumber? spaced digits 0 cs).bind fun (n, r) =>
    if n.isValidChar then some (.character (Char.ofNat n) byte, r) else none

/-- What stands behind a backslash. Signs of ASCII stand for themselves. -/
def escape? (spaced : Bool) : List Char → Option (Escape × List Char)
  | [] => none
  | c :: r =>
    match c with
    | 'a' => some (.character '\x07' false, r)
    | 'f' => some (.character '\x0c' false, r)
    | 'n' => some (.character '\n' false, r)
    | 'r' => some (.character '\r' false, r)
    | 't' => some (.character '\t' false, r)
    | 'v' => some (.character '\x0b' false, r)
    | 'x' => hexCharacter? spaced true 2 r
    | 'u' => hexCharacter? spaced false 4 r
    | 'U' => hexCharacter? spaced false 8 r
    | 'A' | 'z' => some (.anchor, r)
    | 'b' | 'B' | '<' | '>' => some (.wordBound, r)
    | 'd' | 's' | 'w' => some (.kind false, r)
    | 'D' | 'S' | 'W' => some (.kind true, r)
    | _ => if c.toNat < 128 && !c.isAlphanum then some (.character c false, r) else none

def classNames : List String :=
  ["alnum", "alpha", "ascii", "blank", "cntrl", "digit", "graph", "lower", "print", "punct",
    "space", "upper", "word", "xdigit"]

/-- A name such as `[:alpha:]`, of which the first bracket is read already. -/
def named? : List Char → Option (ClassSet × List Char)
  | ':' :: r =>
    let inverse := r.head? = some '^'
    let r := if inverse then r.drop 1 else r
    let name := r.takeWhile (· ≠ ':')
    match r.drop name.length with
    | ':' :: ']' :: rest =>
      if classNames.contains (String.ofList name) then some (.named inverse, rest) else none
    | _ => none
  | _ => none

def single (c : Char) : ClassSet := .range c c

def member? (spaced : Bool) : List Char → Option (ClassSet × List Char)
  | [] => none
  | '\\' :: r =>
    match escape? spaced r with
    | some (.character c _, r) => some (single c, r)
    | some (.kind inverse, r) => some (.kind inverse, r)
    | _ => none
  | c :: r => some (single c, r)

def range? (spaced : Bool) (cs : List Char) : Option (ClassSet × List Char) :=
  match member? spaced cs with
  | none => none
  | some (s, r) =>
    match skipped spaced r with
    | [] => none
    | '-' :: r =>
      let next := upcoming? spaced false r
      if next = some ']' ∨ next = some '-' then some (s, '-' :: r)
      else
        match s, member? spaced (skipped spaced r) with
        | .range low _, some (.range high _, r) =>
          if low ≤ high then some (.range low high, r) else none
        | _, _ => none
    | r => some (s, r)

def hyphens (spaced : Bool) : Nat → List Char → List ClassSet × List Char
  | 0, cs => ([], cs)
  | fuel + 1, cs =>
    match skipped spaced cs with
    | '-' :: r =>
      let (ss, r) := hyphens spaced fuel r
      (single '-' :: ss, r)
    | cs => ([], cs)

def front (spaced : Bool) (cs : List Char) : Bool × List ClassSet × List Char :=
  let cs := skipped spaced cs
  let inverse := cs.head? = some '^'
  let cs := if inverse then cs.drop 1 else cs
  let (ss, cs) := hyphens spaced (cs.length + 1) cs
  if ss.isEmpty && cs.head? = some ']' then (inverse, [single ']'], cs.drop 1)
  else (inverse, ss, cs)

def joined (before : Option ClassSet) (members : List ClassSet) : ClassSet :=
  let s := ClassSet.ofList members.reverse
  match before with
  | none => s
  | some t => .combined t s

mutual

def members? (spaced : Bool) :
    Nat → Option ClassSet → List ClassSet → List Char → Option (ClassSet × List Char)
  | 0, _, _, _ => none
  | fuel + 1, before, done, cs =>
    match skipped spaced cs with
    | [] => none
    | ']' :: r => some (joined before done, r)
    | '[' :: r => do
      let (s, r) ← match named? r with
        | some found => some found
        | none => class? spaced fuel r
      members? spaced fuel before (s :: done) r
    | '&' :: '&' :: r | '-' :: '-' :: r | '~' :: '~' :: r =>
      members? spaced fuel (some (joined before done)) [] r
    | cs => do
      let (s, r) ← range? spaced cs
      members? spaced fuel before (s :: done) r

def class? (spaced : Bool) : Nat → List Char → Option (ClassSet × List Char)
  | 0, _ => none
  | fuel + 1, cs => do
    let (inverse, done, cs) := front spaced cs
    let (s, r) ← members? spaced fuel none done.reverse cs
    return (.bracket inverse s, r)

end

def switchLetters : List Char := ['i', 'm', 's', 'U', 'u', 'R', 'x']

def switches? (on : Bool) (done : Switches) : List Char → Option Switches
  | [] => some done.reverse
  | c :: r =>
    if c = '-' then if on && !r.isEmpty then switches? false done r else none
    else if switchLetters.contains c && (done.lookup c).isNone then
      switches? on ((c, on) :: done) r
    else none

def isGroupName (name : List Char) : Bool :=
  name.head?.any (fun c => c = '_' || Text.isLetter c)
    && name.all fun c => ['_', '.', '[', ']'].contains c || Text.isLetterOrNumber c

/-- Where the reading stands: whether space is passed over, the names of groups, and the rest. -/
structure Cursor where
  spaced : Bool := false
  names : List (List Char) := []
  rest : List Char

def Cursor.to (c : Cursor) (rest : List Char) : Cursor := { c with rest := rest }

/-- What the opening of a group says. -/
inductive Opening where
  | group (s : Switches)
  | switches (s : Switches)

def opening? (c : Cursor) : Option (Opening × Cursor) :=
  let named (r : List Char) : Option (Opening × Cursor) :=
    let name := r.takeWhile (· ≠ '>')
    if isGroupName name && name.length < r.length && !c.names.contains name then
      some (.group [], { c with names := name :: c.names, rest := r.drop (name.length + 1) })
    else none
  match skipped c.spaced c.rest with
  | '?' :: 'P' :: '<' :: r => named r
  | '?' :: '<' :: r => if r.head? = some '=' ∨ r.head? = some '!' then none else named r
  | '?' :: r =>
    let letters := r.takeWhile fun d => d ≠ ':' && d ≠ ')'
    match switches? true [] letters, r.drop letters.length with
    | some s, ':' :: rest => some (.group s, c.to rest)
    | some s, ')' :: rest => if s.isEmpty then none else some (.switches s, c.to rest)
    | _, _ => none
  | _ => some (.group [], c)

def ofEscape : Escape → Expression
  | .character c byte => .character c byte
  | .anchor => .anchor
  | .wordBound => .wordBound
  | .kind inverse => .kind inverse

mutual

/-- Reads parts up to a bar, a closing parenthesis, or the end. -/
def parts? : Nat → List Expression → Cursor → Option (Expression × Cursor)
  | 0, _, _ => none
  | fuel + 1, done, c =>
    let finished : Option (Expression × Cursor) :=
      some (ofList done.reverse, c.to (skipped c.spaced c.rest))
    match skipped c.spaced c.rest with
    | [] => finished
    | d :: r =>
      match d with
      | '|' | ')' => finished
      | '\x7b' => none
      | '(' => do
        let (o, inside) ← opening? (c.to r)
        match o with
        | .switches s =>
          parts? fuel (.switches s :: done)
            { inside with spaced := (s.lookup 'x').getD c.spaced }
        | .group s =>
          let (e, behind) ← choices? fuel { inside with spaced := (s.lookup 'x').getD c.spaced }
          match behind.rest with
          | ')' :: r =>
            parts? fuel (.group s e :: done) { behind with spaced := c.spaced, rest := r }
          | _ => none
      | '[' => do
        let (s, r) ← class? c.spaced (2 * r.length + 2) r
        match s with
        | .bracket inverse s => parts? fuel (.bracket inverse s :: done) (c.to r)
        | _ => none
      | '*' | '+' | '?' =>
        let r := if r.head? = some '?' then r.drop 1 else r
        match done with
        | [] | .switches _ :: _ => none
        | e :: before => parts? fuel (.repetition e :: before) (c.to r)
      | '\\' => do
        let (e, r) ← escape? c.spaced r
        parts? fuel (ofEscape e :: done) (c.to r)
      | '.' => parts? fuel (.anything :: done) (c.to r)
      | '^' | '$' => parts? fuel (.anchor :: done) (c.to r)
      | _ => parts? fuel (.character d false :: done) (c.to r)

def choices? : Nat → Cursor → Option (Expression × Cursor)
  | 0, _ => none
  | fuel + 1, c => do
    let (e, c) ← parts? fuel [] c
    match c.rest with
    | '|' :: r =>
      let (f, c) ← choices? fuel (c.to r)
      return (.either e f, c)
    | _ => return (e, c)

end

def parse? (cs : List Char) : Option Expression :=
  match choices? (2 * cs.length + 4) { rest := cs } with
  | some (e, c) => if c.rest.isEmpty then some e else none
  | none => none

def isUnsigned (cs : List Char) : Bool :=
  let lower := String.ofList (cs.map Char.toLower)
  let whole := cs.takeWhile Char.isDigit
  let rest := cs.drop whole.length
  let places := match rest with
    | '.' :: r => r.takeWhile Char.isDigit
    | _ => []
  let rest := if rest.head? = some '.' then rest.drop (places.length + 1) else rest
  let exponent := match rest with
    | [] => true
    | e :: r =>
      let r := if r.head? = some '+' ∨ r.head? = some '-' then r.drop 1 else r
      (e = 'e' ∨ e = 'E') && !r.isEmpty && r.all Char.isDigit
  ["inf", "infinity", "nan"].contains lower || (!(whole ++ places).isEmpty && exponent)

def isValue (cs : List Char) : Bool :=
  match cs with
  | '+' :: r => isUnsigned r
  | _ => (parse? cs).any isSearchable

end DumpWorkbench.Log.Expression
