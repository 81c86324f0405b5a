namespace DumpWorkbench.Log

/-- What is between the brackets of a class. -/
inductive ClassSet where
  | nothing
  | range (low high : Char)
  /-- A class by its name, `[:alpha:]`. -/
  | named (inverse : Bool)
  /-- A class by its letter, `\w`. -/
  | kind (inverse : Bool)
  | bracket (inverse : Bool) (s : ClassSet)
  | both (s t : ClassSet)
  /-- Sets joined by one of the signs for intersection and difference. -/
  | combined (s t : ClassSet)
deriving DecidableEq, Repr

/-- Letters that are switched on, or off. -/
abbrev Switches := List (Char × Bool)

inductive Expression where
  | empty
  /-- Switches for the rest of the group. -/
  | switches (s : Switches)
  /-- A character, which may be written as a byte. -/
  | character (c : Char) (byte : Bool)
  | anything
  | anchor
  | wordBound
  | kind (inverse : Bool)
  | bracket (inverse : Bool) (s : ClassSet)
  | repetition (e : Expression)
  | group (s : Switches) (e : Expression)
  | sequence (e f : Expression)
  | either (e f : Expression)
deriving DecidableEq, Repr

namespace ClassSet

def ofList : List ClassSet → ClassSet
  | [] => .nothing
  | [s] => s
  | s :: ss => .both s (ofList ss)

/-- How deep brackets, lists and signs stand within each other. A list counts once, however long
it is. -/
def depth : ClassSet → Nat
  | .bracket _ s => s.depth + 1
  | .both s t =>
    max (s.depth + 1) (match t with
      | .both .. => t.depth
      | _ => t.depth + 1)
  | .combined s t => max s.depth t.depth + 1
  | _ => 0

def isCaseless : ClassSet → Bool
  | .nothing => true
  | .range .. | .named _ | .kind _ => false
  | .bracket _ s => s.isCaseless
  | .both s t | .combined s t => s.isCaseless && t.isCaseless

def hasKind : ClassSet → Bool
  | .kind _ => true
  | .bracket _ s => s.hasKind
  | .both s t | .combined s t => s.hasKind || t.hasKind
  | _ => false

def isAscii : ClassSet → Bool
  | .nothing => true
  | .range low high => low.toNat < 128 && high.toNat < 128
  | .named inverse | .kind inverse => !inverse
  | .bracket inverse s => !inverse && s.isAscii
  | .both s t | .combined s t => s.isAscii && t.isAscii

end ClassSet

/-- How characters are taken. -/
structure CharacterMode where
  bothCases : Bool := false
  unicode : Bool := true
deriving DecidableEq, Repr

namespace CharacterMode

def switched (m : CharacterMode) (s : Switches) : CharacterMode where
  bothCases := (s.lookup 'i').getD m.bothCases
  unicode := (s.lookup 'u').getD m.unicode

def allows (m : CharacterMode) (s : ClassSet) : Bool :=
  if !m.unicode then s.isAscii
  else !s.hasKind && (!m.bothCases || s.isCaseless)

end CharacterMode

namespace Expression

def ofList : List Expression → Expression
  | [] => .empty
  | [e] => e
  | e :: es => .sequence e (ofList es)

/-- How deep the parts stand within each other. Sequences and choices count once, however long they
are. -/
def depth : Expression → Nat
  | .bracket inverse s => (ClassSet.bracket inverse s).depth
  | .repetition e | .group _ e => e.depth + 1
  | .sequence e f =>
    max (e.depth + 1) (match f with
      | .sequence .. => f.depth
      | _ => f.depth + 1)
  | .either e f =>
    max (e.depth + 1) (match f with
      | .either .. => f.depth
      | _ => f.depth + 1)
  | _ => 0

/-- The mode behind an expression; none if it has a part that cannot be searched for. -/
def modeBehind? (m : CharacterMode) : Expression → Option CharacterMode
  | .empty | .anchor => some m
  | .switches s => some (m.switched s)
  | .character c byte =>
    if (if m.unicode then m.bothCases else byte && 128 ≤ c.toNat) then none else some m
  | .anything => if m.unicode then some m else none
  | .wordBound => if m.unicode then none else some m
  | .kind inverse => if m.unicode || inverse then none else some m
  | .bracket inverse s => if m.allows (.bracket inverse s) then some m else none
  | .repetition e => modeBehind? m e
  | .group s e => (modeBehind? (m.switched s) e).map fun _ => m
  | .sequence e f | .either e f => (modeBehind? m e).bind fun m => modeBehind? m f

def maxDepth : Nat := 250

def isSearchable (e : Expression) : Bool :=
  e.depth ≤ maxDepth && (modeBehind? {} e).isSome

end Expression

end DumpWorkbench.Log
