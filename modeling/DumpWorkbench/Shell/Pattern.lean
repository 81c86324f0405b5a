import DumpWorkbench.Shell.Octets

namespace DumpWorkbench.Shell

/-- A character and whether it was quoted. -/
abbrev Marked := Char × Bool

/-- Members of a set in brackets. -/
inductive Member where
  | range (low high : Char)
  | kind (name : String)
deriving DecidableEq, Repr

inductive Glyph where
  | char (c : Char)
  | any
  | many
  | set (inverse : Bool) (members : List Member)
deriving DecidableEq, Repr

abbrev Pattern := List Glyph

def isKind (name : String) (c : Char) : Bool :=
  match name with
  | "alpha" => c.isAlpha
  | "digit" => c.isDigit
  | "alnum" => c.isAlphanum
  | "upper" => c.isUpper
  | "lower" => c.isLower
  | "space" => isSpaceChar c
  | "blank" => c == ' ' || c == '\t'
  | "cntrl" => c.toNat < 32 || c.toNat == 127
  | "print" => 32 ≤ c.toNat && c.toNat < 127
  | "graph" => 32 < c.toNat && c.toNat < 127
  | "punct" => 32 < c.toNat && c.toNat < 127 && !c.isAlphanum
  | "xdigit" => c.isDigit || ('a' ≤ c && c ≤ 'f') || ('A' ≤ c && c ≤ 'F')
  | _ => false

def Member.has (c : Char) : Member → Bool
  | .range low high => low ≤ c && c ≤ high
  | .kind name => isKind name c

def kindName? (cs : List Char) : Option (String × List Char) :=
  match cs with
  | ':' :: r =>
    let name := r.takeWhile Char.isAlpha
    match r.drop name.length with
    | ':' :: ']' :: rest => some (String.ofList name, rest)
    | _ => none
  | _ => none

/-- The members of a set up to its closing bracket, which is a member itself if it comes first. -/
def members : Nat → Bool → List Marked → Option (List Member × List Marked)
  | 0, _, _ => none
  | _, _, [] => none
  | fuel + 1, first, (c, quoted) :: r =>
    if c = ']' ∧ !quoted ∧ !first then some ([], r)
    else
      let more (m : Member) (rest : List Marked) : Option (List Member × List Marked) :=
        (members fuel false rest).map fun (ms, t) => (m :: ms, t)
      match if c = '[' ∧ !quoted then kindName? (r.map (·.1)) else none with
      | some (name, rest) => more (.kind name) (r.drop (r.length - rest.length))
      | none =>
        match r with
        | ('-', false) :: (d, q) :: rest =>
          if d = ']' ∧ !q then more (.range c c) r else more (.range c d) rest
        | _ => more (.range c c) r

def glyphs : Nat → List Marked → Pattern
  | 0, _ => []
  | _, [] => []
  | fuel + 1, (c, quoted) :: r =>
    if quoted then .char c :: glyphs fuel r
    else if c = '*' then .many :: glyphs fuel r
    else if c = '?' then .any :: glyphs fuel r
    else if c = '[' then
      let inverse := r.head? = some ('!', false)
      match members (r.length + 1) true (if inverse then r.drop 1 else r) with
      | some (ms, rest) => .set inverse ms :: glyphs fuel rest
      | none => .char c :: glyphs fuel r
    else .char c :: glyphs fuel r

def patternOf (text : List Marked) : Pattern := glyphs (text.length + 1) text

def Glyph.matchesOne (g : Glyph) (c : Char) : Bool :=
  match g with
  | .char d => c == d
  | .any | .many => true
  | .set inverse ms => ms.any (·.has c) != inverse

def Pattern.accepts : Pattern → List Char → Bool
  | [], cs => cs.isEmpty
  | .many :: p, [] => accepts p []
  | .many :: p, c :: cs => accepts p (c :: cs) || accepts (.many :: p) cs
  | g :: p, c :: cs => g.matchesOne c && accepts p cs
  | _ :: _, [] => false
termination_by p cs => p.length + cs.length

def Pattern.dropFront (p : Pattern) (longest : Bool) (cs : List Char) : List Char :=
  let lengths := List.range (cs.length + 1)
  match (if longest then lengths.reverse else lengths).find? fun n => p.accepts (cs.take n) with
  | some n => cs.drop n
  | none => cs

def Pattern.dropBack (p : Pattern) (longest : Bool) (cs : List Char) : List Char :=
  let lengths := List.range (cs.length + 1)
  match (if longest then lengths else lengths.reverse).find? fun n => p.accepts (cs.drop n) with
  | some n => cs.take n
  | none => cs

def isPatterned (text : List Marked) : Bool :=
  (patternOf text).any fun
    | .char _ => false
    | _ => true

end DumpWorkbench.Shell
