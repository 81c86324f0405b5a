namespace DumpWorkbench

structure Path where
  text : String
deriving DecidableEq, Repr, Inhabited

namespace Path

inductive Component where
  | root
  | current
  | parent
  | name (s : String)
deriving DecidableEq, Repr

def separator : Char := '/'

def segments : List Char → List (List Char)
  | [] => [[]]
  | c :: r =>
    if c = separator then [] :: segments r
    else match segments r with
      | [] => [[c]]
      | s :: ss => (c :: s) :: ss

/-- What a segment behind the first stands for: an empty one and `.` stand for nothing. -/
def component? (segment : List Char) : Option Component :=
  if segment = [] ∨ segment = ['.'] then none
  else if segment = ['.', '.'] then some .parent
  else some (.name (String.ofList segment))

/-- The components of a text. Only a `.` at the very beginning is kept. -/
def componentsOf (cs : List Char) : List Component :=
  if cs.head? = some separator then .root :: (segments cs).filterMap component?
  else if (segments cs).head? = some ['.'] then .current :: (segments cs).filterMap component?
  else (segments cs).filterMap component?

def components (p : Path) : List Component := componentsOf p.text.toList

def isAbsolute (p : Path) : Bool := p.text.toList.head? == some separator

def isEmpty (p : Path) : Bool := p.text.isEmpty

def Component.text : Component → List Char
  | .root => [separator]
  | .current => ['.']
  | .parent => ['.', '.']
  | .name s => s.toList

def joinComponents (cs : List Component) : List Char :=
  [separator].intercalate (cs.map Component.text)

def textOf : List Component → List Char
  | .root :: cs => separator :: joinComponents cs
  | cs => joinComponents cs

/-- The path without doubled separators, `.` segments and a trailing separator; `.` if nothing is
left. -/
def normalize (p : Path) : Path :=
  let cs := p.components.filter (· ≠ .current)
  if cs.isEmpty then ⟨"."⟩ else ⟨String.ofList (textOf cs)⟩

/-- `q` seen from `p`: an absolute `q` stands for itself. -/
def join (p : Path) (q : String) : Path :=
  let cs := p.text.toList
  let ds := q.toList
  if ds.head? = some separator ∨ cs = [] then ⟨q⟩
  else if cs.getLast? = some separator then ⟨p.text ++ q⟩
  else ⟨p.text ++ "/" ++ q⟩

def fileName? (p : Path) : Option String :=
  match p.components.getLast? with
  | some (.name s) => some s
  | _ => none

/-- Cuts a file name at its last dot: the stem, and the extension if there is one. A dot in front
begins no extension. -/
def splitName (name : String) : String × Option String :=
  let cs := name.toList
  let ext := (cs.reverse.takeWhile (· ≠ '.')).reverse
  let stem := cs.take (cs.length - ext.length - 1)
  if cs.contains '.' ∧ stem ≠ [] then (String.ofList stem, some (String.ofList ext))
  else (name, none)

def stem? (p : Path) : Option String := p.fileName?.map fun name => (splitName name).1

def extension? (p : Path) : Option String := p.fileName?.bind fun name => (splitName name).2

def parent? (p : Path) : Option Path :=
  match p.components.reverse with
  | [] => none
  | .root :: _ => none
  | _ :: r => some ⟨String.ofList (textOf r.reverse)⟩

end Path
end DumpWorkbench
