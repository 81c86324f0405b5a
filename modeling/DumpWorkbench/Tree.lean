import DumpWorkbench.IoFault
import DumpWorkbench.Path
import DumpWorkbench.Text.Utf8

namespace DumpWorkbench

inductive Node where
  | directory
  | file (content : Bytes) (executable : Bool)
deriving DecidableEq, Repr

/-- The names from the root to a node. -/
abbrev Location := List String

def Location.path (l : Location) : Path := ⟨"/" ++ "/".intercalate l⟩

structure Tree where
  nodes : List (Location × Node)
deriving Repr

namespace Tree

def empty : Tree := ⟨[]⟩

def get? (t : Tree) (spot : Location) : Option Node :=
  if spot = [] then some .directory else t.nodes.lookup spot

def putNode (spot : Location) (node : Node) : List (Location × Node) → List (Location × Node)
  | [] => [(spot, node)]
  | (l, n) :: r => if l = spot then (l, node) :: r else (l, n) :: putNode spot node r

def put (t : Tree) (spot : Location) (node : Node) : Tree := ⟨putNode spot node t.nodes⟩

def remove (t : Tree) (spot : Location) : Tree :=
  ⟨t.nodes.filter fun (l, _) => !spot.isPrefixOf l⟩

def maxName : Nat := 255

def maxPath : Nat := 4095

def step (t : Tree) (spot : Location) (segment : List Char) : Except IoFault Location :=
  match t.get? spot with
  | none => .error .noEntry
  | some (.file _ _) => .error .notDirectory
  | some .directory =>
    if segment = [] ∨ segment = ['.'] then .ok spot
    else if segment = ['.', '.'] then .ok spot.dropLast
    else if maxName < (Utf8.encodeChars segment).length then .error .nameTooLong
    else .ok (spot ++ [String.ofList segment])

def follow (t : Tree) (spot : Location) : List (List Char) → Except IoFault Location
  | [] => .ok spot
  | s :: r =>
    match t.step spot s with
    | .error e => .error e
    | .ok next => t.follow next r

/-- Where a path leads: its location, and whether a separator ends it. -/
structure Place where
  location : Location
  slashed : Bool
deriving DecidableEq, Repr

def isZero (c : Char) : Bool := c == '\x00'

/-- The place of a path seen from a directory. Whether anything is there is not asked. -/
def locate (t : Tree) (directory : Location) (p : Path) : Except IoFault Place :=
  let cs := p.text.toList
  if cs.any isZero then .error .zeroByteInPath
  else if cs = [] then .error .noEntry
  else if maxPath < (Utf8.encodeChars cs).length then .error .nameTooLong
  else
    let trimmed := (cs.reverse.dropWhile (· = Path.separator)).reverse
    let slashed := trimmed.length < cs.length
    let start := if p.isAbsolute then [] else directory
    (t.follow start (Path.segments trimmed)).map (⟨·, slashed⟩)

/-- What is at the end of a path. A separator at its end asks for a directory. -/
def find (t : Tree) (directory : Location) (p : Path) : Except IoFault Node :=
  match t.locate directory p with
  | .error e => .error e
  | .ok place =>
    match t.get? place.location with
    | none => .error .noEntry
    | some .directory => .ok .directory
    | some node => if place.slashed then .error .notDirectory else .ok node

def isDirectory (t : Tree) (directory : Location) (p : Path) : Bool :=
  match t.find directory p with
  | .ok .directory => true
  | _ => false

def isPresent (t : Tree) (directory : Location) (p : Path) : Bool :=
  match t.find directory p with
  | .ok _ => true
  | .error _ => false

def isExecutable (t : Tree) (directory : Location) (p : Path) : Bool :=
  match t.find directory p with
  | .ok (.file _ executable) => executable
  | _ => false

def makeDirectory (t : Tree) (directory : Location) (p : Path) : Except IoFault Tree :=
  match t.locate directory p with
  | .error e => .error e
  | .ok place =>
    match t.get? place.location with
    | some _ => .error .fileExists
    | none =>
      match t.get? place.location.dropLast with
      | some .directory => .ok (t.put place.location .directory)
      | some _ => .error .notDirectory
      | none => .error .noEntry

/-- A path and the paths above it, from the longest to the shortest. -/
def ancestors (p : Path) : List Path :=
  let cs := p.components
  p :: ((List.range cs.length).reverse.map fun n => ⟨String.ofList (Path.textOf (cs.take n))⟩)

/-- Makes the first of some paths, each above the one before, after those above it that are
missing. The root and the empty path are there already. -/
def makeFirst (t : Tree) (directory : Location) : List Path → Except IoFault Unit × Tree
  | [] => (.ok (), t)
  | p :: above =>
    if p.components = [] ∨ p.components = [.root] then (.ok (), t)
    else match t.makeDirectory directory p with
      | .ok t => (.ok (), t)
      | .error e =>
        if e = .noEntry then
          match t.makeFirst directory above with
          | (.error e, t) => (.error e, t)
          | (.ok _, t) =>
            match t.makeDirectory directory p with
            | .ok t => (.ok (), t)
            | .error e =>
              if e = .fileExists ∧ t.isDirectory directory p then (.ok (), t) else (.error e, t)
        else if e = .fileExists ∧ t.isDirectory directory p then (.ok (), t)
        else (.error e, t)

/-- Makes a directory and those above it that are missing. What is made stays when a later step
fails. -/
def makeDirectories (t : Tree) (directory : Location) (p : Path) : Except IoFault Unit × Tree :=
  if p.text = "" then (.ok (), t) else t.makeFirst directory (ancestors p)

/-- Where a file can be written, and what it holds already. -/
def openFile (t : Tree) (directory : Location) (p : Path) :
    Except IoFault (Location × Bytes × Bool) :=
  match t.locate directory p with
  | .error e => .error e
  | .ok place =>
    match t.get? place.location with
    | some .directory => .error .isDirectory
    | some (.file content executable) =>
      if place.slashed then .error .isDirectory else .ok (place.location, content, executable)
    | none =>
      match t.get? place.location.dropLast with
      | some .directory =>
        if place.slashed then .error .isDirectory else .ok (place.location, [], false)
      | some _ => .error .notDirectory
      | none => .error .noEntry

def writeFile (t : Tree) (directory : Location) (p : Path) (content : Bytes) :
    Except IoFault Tree :=
  (t.openFile directory p).map fun (l, _, executable) => t.put l (.file content executable)

def appendFile (t : Tree) (directory : Location) (p : Path) (content : Bytes) :
    Except IoFault Tree :=
  (t.openFile directory p).map fun (l, old, executable) =>
    t.put l (.file (old ++ content) executable)

def readFile (t : Tree) (directory : Location) (p : Path) : Except IoFault Bytes :=
  match t.find directory p with
  | .error e => .error e
  | .ok .directory => .error .isDirectory
  | .ok (.file content _) => .ok content

def names (t : Tree) (spot : Location) : List String :=
  t.nodes.filterMap fun (l, _) =>
    if l.dropLast = spot ∧ l ≠ [] then l.getLast? else none

def list (t : Tree) (directory : Location) (p : Path) : Except IoFault (List String) :=
  match t.find directory p, t.locate directory p with
  | .ok .directory, .ok place => .ok (t.names place.location)
  | .ok _, _ => .error .notDirectory
  | .error e, _ => .error e

def canReplace (t : Tree) (source target : Location) : Except IoFault Unit :=
  match t.get? source, t.get? target with
  | _, none => .ok ()
  | some .directory, some .directory =>
    if (t.names target).isEmpty then .ok () else .error .directoryNotEmpty
  | some .directory, some _ => .error .notDirectory
  | _, some .directory => .error .isDirectory
  | _, some _ => .ok ()

def rename (t : Tree) (directory : Location) (p q : Path) : Except IoFault Tree := do
  let _ ← t.find directory p
  let source := (← t.locate directory p).location
  let target := (← t.locate directory q).location
  match t.get? target.dropLast with
  | some .directory => pure ()
  | some _ => throw .notDirectory
  | none => throw .noEntry
  if source = target then return t
  if source.isPrefixOf target then throw .invalid
  t.canReplace source target
  return ⟨(t.remove target).nodes.map fun (l, n) =>
    (if source.isPrefixOf l then target ++ l.drop source.length else l, n)⟩

def setExecutable (t : Tree) (directory : Location) (p : Path) (executable : Bool) :
    Except IoFault Tree := do
  match ← t.find directory p with
  | .directory => return t
  | .file content _ => return t.put (← t.locate directory p).location (.file content executable)

def removeAll (t : Tree) (directory : Location) (p : Path) : Except IoFault Tree :=
  match t.find directory p, t.locate directory p with
  | .ok _, .ok place => .ok (t.remove place.location)
  | .error e, _ => .error e
  | _, .error e => .error e

end Tree
end DumpWorkbench
