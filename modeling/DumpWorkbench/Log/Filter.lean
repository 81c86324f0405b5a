import DumpWorkbench.Log
import DumpWorkbench.Log.Expression.Reader
import DumpWorkbench.Path
import DumpWorkbench.Text.Blank
import DumpWorkbench.Text.Letter

namespace DumpWorkbench.Log

/-- A directive as it is written: a span and fields with values only concern lines in spans. -/
structure Directive where
  target : Option String := none
  threshold : Threshold := .upTo .trace
  inSpan : Bool := false
  fields : List String := []
  valued : Bool := false
deriving DecidableEq, Repr

namespace Directive

/-- Where the reading of a directive stands; a number is the byte at which a part of it began. -/
inductive Stage where
  | start
  | levelOrTarget (first : Nat)
  | span (first : Nat)
  | field (first : Nat)
  | fields
  | target
  | level (first : Nat)

def charsBetween (first last : Nat) : Nat → List Char → List Char
  | _, [] => []
  | i, c :: r =>
    let rest := charsBetween first last (i + c.utf8Size) r
    if first ≤ i && i < last then c :: rest else rest

def slice (text : List Char) (first last : Nat) : String :=
  String.ofList (charsBetween first last 0 text)

def sliceFrom (text : List Char) (first : Nat) : String :=
  slice text first (String.ofList text).utf8ByteSize

/-- The name of a field; what follows an equals sign, up to a second one, is its value. -/
def withField (d : Directive) (text : String) : Option Directive :=
  let name := text.toList.takeWhile (· ≠ '=')
  let rest := text.toList.drop name.length
  let value := (rest.drop 1).takeWhile (· ≠ '=')
  if text = "" ∨ !Expression.isValue value then none
  else
    some { d with
      fields := d.fields ++ [String.ofList name]
      valued := d.valued || !rest.isEmpty }

def startsName (c : Char) : Bool :=
  c == '-' || c == ':' || c == '_' || Text.isLetterOrNumber c

def step (text : List Char) (d : Directive) (stage : Stage) (i : Nat) (c : Char) :
    Option (Directive × Stage) :=
  match stage with
  | .start =>
    if c = '[' then some (d, .span (i + 1))
    else if startsName c then some (d, .levelOrTarget i)
    else none
  | .levelOrTarget first =>
    if c = '=' then some ({ d with target := some (slice text first i) }, .level (i + 1))
    else if c = '[' then some ({ d with target := some (slice text first i) }, .span (i + 1))
    else some (d, stage)
  | .span first =>
    if c = ']' then some ({ d with inSpan := true }, .target)
    else if c = '\x7b' then
      some ({ d with inSpan := slice text first i ≠ "" }, .field (i + 1))
    else some (d, stage)
  | .field first =>
    if c = '\x7d' then (d.withField (slice text first i)).map (·, .fields)
    else if c = ',' then (d.withField (slice text first i)).map (·, .field (i + 1))
    else some (d, stage)
  | .fields => if c = ']' then some (d, .target) else none
  | .target => if c = '=' then some (d, .level (i + 1)) else none
  | .level _ => some (d, stage)

/-- A level after an equals sign; none at all admits everything. -/
def levelOf (text : String) : Option Threshold :=
  if text = "" then some (.upTo .trace) else Threshold.parse? text

def finish (text : List Char) (d : Directive) : Stage → Option Directive
  | .levelOrTarget first =>
    let word := sliceFrom text first
    match Threshold.parse? word with
    | some t => some { d with threshold := if word = "" then .upTo .trace else t }
    | none => some { d with target := some word }
  | .level first =>
    (levelOf (sliceFrom text first)).map fun t => { d with threshold := t }
  | .target => some d
  | _ => none

def scan (text : List Char) : Directive → Stage → Nat → List Char → Option Directive
  | d, stage, _, [] => finish text d stage
  | d, stage, i, c :: r =>
    match step text d stage i c with
    | none => none
    | some (d, stage) => scan text d stage (i + c.utf8Size) r

/-- Bytes are counted in the text without the space around it, but parts are cut from the text
with it. -/
def parse? (text : List Char) : Option Directive := scan text {} .start 0 (Text.trimChars text)

/-- Whether the directive can say anything of a line that is in no span. -/
def isStatic (d : Directive) : Bool := !d.inSpan && !d.valued

/-- Whether the directive judges a line; the only field of a line is its message. -/
def concerns (d : Directive) (e : Entry) : Bool :=
  d.target.all (fun t => t.toList.isPrefixOf e.target.toList) && d.fields.all (· == "message")

def weight (d : Directive) : Nat × Nat :=
  (match d.target with
    | none => 0
    | some t => t.utf8ByteSize + 1, d.fields.length)

end Directive

structure Filter where
  directives : List Directive
deriving DecidableEq, Repr

namespace Filter

def errorsOnly : Filter := ⟨[{ threshold := .upTo .error }]⟩

def pieces : List Char → List (List Char)
  | [] => [[]]
  | c :: r =>
    if c = ',' then [] :: pieces r
    else match pieces r with
      | [] => [[c]]
      | s :: ss => (c :: s) :: ss

def ofDirectives (ds : List Directive) : Filter :=
  if ds.isEmpty then errorsOnly
  else ⟨(ds.filter fun d => d.isStatic && d.fields.isEmpty)
    ++ ds.filter fun d => d.isStatic && !d.fields.isEmpty⟩

/-- The filter of directives between commas; one that cannot be read spoils all. -/
def parse? (text : String) : Option Filter :=
  (((pieces text.toList).filter (!·.isEmpty)).mapM Directive.parse?).map ofDirectives

def program (level : String) : Filter :=
  match Directive.parse? ("dumpsift=" ++ level).toList with
  | some d => ofDirectives [d]
  | none => errorsOnly

/-- The more specific of two directives, the later one if they are equally so. -/
def better (d e : Directive) : Directive :=
  let (a, b) := d.weight
  let (x, y) := e.weight
  if x < a ∨ (x = a ∧ y < b) then d else e

def judge (f : Filter) (e : Entry) : Option Directive :=
  (f.directives.filter (·.concerns e)).foldl (fun best d => some ((best.map (better · d)).getD d))
    none

def admits (f : Filter) (e : Entry) : Bool :=
  match f.judge e with
  | some d => d.threshold.passes e.severity
  | none => false

end Filter

/-- Where log lines go: a file takes all that the filter admits, the console those of them that
also pass a threshold. -/
structure Sink where
  file : Path
  filter : Filter
  console : Threshold

end DumpWorkbench.Log
