import DumpWorkbench.Shell.Calculation
import DumpWorkbench.Shell.Pattern

namespace DumpWorkbench.Shell

/-- A condition on the place between two characters. -/
inductive Edge where
  | start
  | finish
  | wordStart
  | wordEnd
  | wordEdge
  | noWordEdge
deriving DecidableEq, Repr

inductive Regex where
  | char (c : Char)
  | any
  | set (inverse : Bool) (members : List Member)
  | edge (e : Edge)
  | group (n : Nat) (r : Regex)
  | again (n : Nat)
  | sequence (r s : Regex)
  | either (r s : Regex)
  | many (r : Regex) (least : Nat) (most : Option Nat)
  | nothing

namespace Regex

inductive Fault where
  | openBracket
  | openParenthesis
  | closeParenthesis
  | trailingBackslash
  | backReference
  | openBrace
  | braceContent
  | nothingBefore
  | rangeEnd
deriving DecidableEq, Repr

def Fault.message : Fault → String
  | .openBracket => "Unmatched [, [^, [:, [., or [="
  | .openParenthesis => "Unmatched ( or \\("
  | .closeParenthesis => "Unmatched ) or \\)"
  | .trailingBackslash => "Trailing backslash"
  | .backReference => "Invalid back reference"
  | .openBrace => "Unmatched \\\x7b"
  | .braceContent => "Invalid content of \\\x7b\\\x7d"
  | .nothingBefore => "Invalid preceding regular expression"
  | .rangeEnd => "Invalid range end"

inductive Token where
  | char (c : Char)
  | any
  | set (inverse : Bool) (members : List Member)
  | edge (e : Edge)
  | opening
  | closing
  | bar
  | star
  | plus
  | question
  | count (least : Nat) (most : Option Nat)
  | again (n : Nat)

def wordMembers : List Member := [.kind "alnum", .range '_' '_']

def counts? (extended : Bool) (cs : List Char) : Option (Token × List Char) :=
  let low := cs.takeWhile Char.isDigit
  let rest := cs.drop low.length
  let (high, rest) := match rest with
    | ',' :: r => (some (r.takeWhile Char.isDigit), r.dropWhile Char.isDigit)
    | _ => (none, rest)
  if low.isEmpty ∧ high = none then none
  else
    let least := valueOf 10 low
    let most := match high with
      | none => some least
      | some [] => none
      | some ds => some (valueOf 10 ds)
    match rest with
    | '\x7d' :: r => if extended then some (.count least most, r) else none
    | '\\' :: '\x7d' :: r => if extended then none else some (.count least most, r)
    | _ => none

def bracket (cs : List Char) : Except Fault (Token × List Char) :=
  let inverse := cs.head? = some '^'
  let cs := if inverse then cs.drop 1 else cs
  match members (cs.length + 1) true (cs.map fun c => (c, false)) with
  | none => .error .openBracket
  | some (ms, rest) =>
    if ms.any fun | .range a b => b < a | _ => false then .error .rangeEnd
    else .ok (.set inverse ms, rest.map (·.1))

/-- Cuts an expression into tokens. `fresh` holds where no part stands before, so that a star there
stands for itself in the basic form. -/
def tokens (extended : Bool) : Nat → Bool → List Char → Except Fault (List Token)
  | 0, _, _ => .ok []
  | _, _, [] => .ok []
  | fuel + 1, fresh, c :: r =>
    let more (fresh : Bool) (t : Token) (rest : List Char) : Except Fault (List Token) := do
      return t :: (← tokens extended fuel fresh rest)
    if c = '\\' then
      match r with
      | [] => .error .trailingBackslash
      | d :: r =>
        if !extended && d = '(' then more true .opening r
        else if !extended && d = ')' then more false .closing r
        else if !extended && d = '|' then more true .bar r
        else if !extended && d = '+' && !fresh then more false .plus r
        else if !extended && d = '?' && !fresh then more false .question r
        else if !extended && d = '\x7b' then
          match counts? false r with
          | some (t, rest) => more false t rest
          | none => .error (if r.contains '\x7d' then .braceContent else .openBrace)
        else if d.isDigit && d ≠ '0' then more false (.again (d.toNat - 48)) r
        else match d with
          | 'w' => more false (.set false wordMembers) r
          | 'W' => more false (.set true wordMembers) r
          | 's' => more false (.set false [.kind "space"]) r
          | 'S' => more false (.set true [.kind "space"]) r
          | 'b' => more false (.edge .wordEdge) r
          | 'B' => more false (.edge .noWordEdge) r
          | '<' => more false (.edge .wordStart) r
          | '>' => more false (.edge .wordEnd) r
          | '\x60' => more false (.edge .start) r
          | '\'' => more false (.edge .finish) r
          | 'n' => more false (.char '\n') r
          | 't' => more false (.char '\t') r
          | d => more false (.char d) r
    else if c = '[' then do
      let (t, rest) ← bracket r
      more false t rest
    else if c = '.' then more false .any r
    else if c = '*' then
      if fresh && !extended then more false (.char c) r else more false .star r
    else if extended then
      match c with
      | '(' => more true .opening r
      | ')' => more false .closing r
      | '|' => more true .bar r
      | '+' => more false .plus r
      | '?' => more false .question r
      | '^' => more true (.edge .start) r
      | '$' => more false (.edge .finish) r
      | '\x7b' =>
        match counts? true r with
        | some (t, rest) => more false t rest
        | none => more false (.char c) r
      | c => more false (.char c) r
    else if c = '^' && fresh then more true (.edge .start) r
    else if c = '$' && (r.isEmpty || r.take 2 = ['\\', ')'] || r.take 2 = ['\\', '|']) then
      more false (.edge .finish) r
    else more false (.char c) r

def joined : List Regex → Regex
  | [] => .nothing
  | [r] => r
  | r :: rs => .sequence r (joined rs)

mutual

def alternatives : Nat → Nat → Nat → List Token → Except Fault (Regex × Nat × List Token)
  | 0, _, n, ts => .ok (.nothing, n, ts)
  | fuel + 1, depth, n, ts => do
    let (parts, n, rest) ← parts fuel depth n ts
    match rest with
    | .bar :: rest =>
      let (other, n, rest) ← alternatives fuel depth n rest
      return (.either (joined parts) other, n, rest)
    | _ => return (joined parts, n, rest)

/-- The parts of a sequence, each with what is repeated. -/
def parts : Nat → Nat → Nat → List Token → Except Fault (List Regex × Nat × List Token)
  | 0, _, n, ts => .ok ([], n, ts)
  | fuel + 1, depth, n, ts =>
    let more (r : Regex) (n : Nat) (rest : List Token) :
        Except Fault (List Regex × Nat × List Token) := do
      let (r, rest) := repeated fuel r rest
      let (rs, n, rest) ← parts fuel depth n rest
      return (r :: rs, n, rest)
    match ts with
    | [] => .ok ([], n, [])
    | .bar :: _ => .ok ([], n, ts)
    | .closing :: r => if depth = 0 then .error .closeParenthesis else .ok ([], n, .closing :: r)
    | .opening :: r => do
      let (inner, next, rest) ← alternatives fuel (depth + 1) (n + 1) r
      match rest with
      | .closing :: rest => more (.group n inner) next rest
      | _ => .error .openParenthesis
    | .char c :: r => more (.char c) n r
    | .any :: r => more .any n r
    | .set inverse ms :: r => more (.set inverse ms) n r
    | .edge e :: r => more (.edge e) n r
    | .again k :: r => if k < n then more (.again k) n r else .error .backReference
    | .star :: r => parts fuel depth n r
    | .plus :: r => parts fuel depth n r
    | .question :: r => parts fuel depth n r
    | .count _ _ :: r => parts fuel depth n r

def repeated : Nat → Regex → List Token → Regex × List Token
  | 0, r, ts => (r, ts)
  | fuel + 1, r, ts =>
    match ts with
    | .star :: rest => repeated fuel (.many r 0 none) rest
    | .plus :: rest => repeated fuel (.many r 1 none) rest
    | .question :: rest => repeated fuel (.many r 0 (some 1)) rest
    | .count a b :: rest => repeated fuel (.many r a b) rest
    | _ => (r, ts)

end

def read (extended : Bool) (text : List Char) : Except Fault Regex := do
  let ts ← tokens extended (text.length + 1) true text
  let (r, _, _) ← alternatives (4 * ts.length + 8) 0 1 ts
  return r

/-- A place in a text, with what the groups have matched up to it. -/
structure Place where
  before : List Char
  after : List Char
  index : Nat
  groups : List (Nat × List Char) := []

def isWordChar (c : Char) : Bool := c.isAlphanum || c = '_'

def isAt (e : Edge) (p : Place) : Bool :=
  let left := p.before.head?.any isWordChar
  let right := p.after.head?.any isWordChar
  match e with
  | .start => p.before.isEmpty
  | .finish => p.after.isEmpty
  | .wordStart => !left && right
  | .wordEnd => left && !right
  | .wordEdge => left != right
  | .noWordEdge => left == right

def Place.move (p : Place) (n : Nat) : Place :=
  { p with
    before := (p.after.take n).reverse ++ p.before, after := p.after.drop n, index := p.index + n }

/-- Keeps the first of all places with one end. -/
def distinct (ps : List Place) : List Place :=
  (ps.foldl (fun (kept : List Place × List Nat) p =>
    if kept.2.contains p.index then kept else (p :: kept.1, p.index :: kept.2)) ([], [])).1.reverse

def isTail (c : Char) : Bool := 128 ≤ c.toNat && c.toNat < 192

def charSize (cs : List Char) : Nat :=
  match cs with
  | [] => 0
  | c :: r => if c.toNat < 192 then 1 else 1 + (r.takeWhile isTail).length

def same (folds : Bool) (a b : Char) : Bool := a = b || (folds && a.toLower = b.toLower)

/-- The places to which repetitions lead, more of them first. Each has to move on. -/
def repeatedly (step : Place → List Place) : Nat → Nat → Option Nat → Place → List Place
  | 0, least, _, p => if least = 0 then [p] else []
  | fuel + 1, least, most, p =>
    let here := if least = 0 then [p] else []
    if most = some 0 then here
    else
      let next := (step p).filter fun q => p.index < q.index || 0 < least
      distinct (next.flatMap (repeatedly step fuel (least - 1) (most.map (· - 1)))
        ++ here)

def isSingle : Regex → Bool
  | .char _ | .any | .set _ _ => true
  | _ => false

def strides (step : Place → List Place) : Nat → Place → List Place
  | 0, p => [p]
  | n + 1, p =>
    match step p with
    | [q] => p :: strides step n q
    | _ => [p]

/-- The places to which an expression leads from a place, the preferred one first. -/
def ends (folds : Bool) : Regex → Place → List Place
  | .nothing, p => [p]
  | .char c, p => if p.after.head?.any (same folds c) then [p.move 1] else []
  | .any, p => if p.after.isEmpty then [] else [p.move (charSize p.after)]
  | .set inverse ms, p =>
    match p.after with
    | [] => []
    | c :: _ =>
      let found := ms.any (·.has c) || (folds && ms.any fun m => m.has c.toLower || m.has c.toUpper)
      if found != inverse then [p.move (if inverse then charSize p.after else 1)] else []
  | .edge e, p => if isAt e p then [p] else []
  | .group n r, p =>
    (r.ends folds p).map fun q =>
      { q with groups := (n, p.after.take (q.index - p.index)) :: q.groups }
  | .again n, p =>
    match p.groups.lookup n with
    | none => []
    | some cs =>
      let next := p.after.take cs.length
      if next.length = cs.length ∧ (next.zip cs).all fun (a, b) => same folds a b then
        [p.move cs.length]
      else []
  | .sequence r s, p => distinct ((r.ends folds p).flatMap (s.ends folds))
  | .either r s, p => distinct (r.ends folds p ++ s.ends folds p)
  | .many r least most, p =>
    if r.isSingle then
      ((strides (r.ends folds) (most.getD p.after.length) p).drop least).reverse
    else repeatedly (r.ends folds) (p.after.length + least + 1) least most p

/-- A match: the text before it, its own text, the text behind it, and the texts of its groups. -/
structure Found where
  before : List Char
  text : List Char
  after : List Char
  groups : List (Nat × List Char)

def matchAt? (r : Regex) (folds : Bool) (p : Place) : Option Found :=
  let best := (r.ends folds p).foldl (fun (b : Option Place) q =>
    match b with
    | some x => if x.index < q.index then some q else some x
    | none => some q) none
  best.map fun q =>
    ⟨p.before.reverse, p.after.take (q.index - p.index), q.after, q.groups⟩

def findFrom (r : Regex) (folds : Bool) : Nat → Place → Option Found
  | 0, p => r.matchAt? folds p
  | fuel + 1, p =>
    match r.matchAt? folds p with
    | some f => some f
    | none => if p.after.isEmpty then none else findFrom r folds fuel (p.move (charSize p.after))

def find? (r : Regex) (folds : Bool) (cs : List Char) : Option Found :=
  r.findFrom folds cs.length ⟨[], cs, 0, []⟩

/-- All matches in a text that do not overlap. An empty one right behind another does not count. -/
def findAll (r : Regex) (folds : Bool) : Nat → Bool → Place → List Found
  | 0, _, _ => []
  | fuel + 1, behind, p =>
    match r.findFrom folds p.after.length p with
    | none => []
    | some f =>
      let start := f.before.length
      let skipped := p.move (start - p.index)
      let isEmpty := f.text.isEmpty
      let next := skipped.move f.text.length
      let rest (p : Place) (behind : Bool) : List Found := findAll r folds fuel behind p
      if isEmpty then
        let found := if behind ∧ start = p.index then [] else [f]
        if next.after.isEmpty then found
        else found ++ rest { next.move (charSize next.after) with groups := [] } false
      else f :: rest { next with groups := [] } true

def allMatches (r : Regex) (folds : Bool) (cs : List Char) : List Found :=
  r.findAll folds (cs.length + 2) false ⟨[], cs, 0, []⟩

end Regex
end DumpWorkbench.Shell
