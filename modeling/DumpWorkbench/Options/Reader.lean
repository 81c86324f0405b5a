import DumpWorkbench.DumpName
import DumpWorkbench.Fault
import DumpWorkbench.Number
import DumpWorkbench.Options
import DumpWorkbench.Options.Help
import DumpWorkbench.Text.Control

namespace DumpWorkbench.Options

/-- Why there are no options: the command line is wrong, or asks for the help or the version. -/
inductive Refusal where
  | unexpected (argument : String)
  | surplus (key : Key) (value : String)
  | noValue (key : Key)
  | notPossible (key : Key) (value : String)
  | invalid (key : Key) (value reason : String)
  | repeated (key : Key)
  | conflict (first second : Key)
  | missing (keys : List Key)
  | nothing
  | help (detailed : Bool)
  | version
deriving DecidableEq, Repr

namespace Refusal

def valuesLine (k : Key) : String :=
  if k.possibleValues.isEmpty then "" else "\n  " ++ Help.valuesNote k

def cited (text : String) : String := Console.styled [Console.yellow] text

/-- The error, or the text that was asked for, as it is meant for a terminal. -/
def core : Refusal → String
  | .unexpected a => s!"error: unexpected argument '{cited a}' found"
  | .surplus k v =>
    s!"error: unexpected value '{cited v}' for '{k.display}' found; no more were expected"
  | .noValue k =>
    s!"error: a value is required for '{k.display}' but none was supplied" ++ valuesLine k
  | .notPossible k v => s!"error: invalid value '{cited v}' for '{k.display}'" ++ valuesLine k
  | .invalid k v why => s!"error: invalid value '{cited v}' for '{k.display}': {why}"
  | .repeated k => s!"error: the argument '{k.display}' cannot be used multiple times"
  | .conflict a b => s!"error: the argument '{a.display}' cannot be used with '{b.display}'"
  | .missing ks =>
    "error: the following required arguments were not provided:" ++
      String.join (ks.map fun k => "\n  " ++ k.display)
  | .nothing | .help false => Help.short
  | .help true => Help.detailed
  | .version => versionLine

def isAnswer : Refusal → Bool
  | .help _ | .version => true
  | _ => false

/-- Whether the command line is wrong and not only empty. -/
def isError : Refusal → Bool
  | .nothing | .help _ | .version => false
  | _ => true

def hint : String :=
  "\n\nFor more information, try '" ++ Console.styled [Console.bold] "--help" ++ "'.\n"

/-- All that is said. An error tells at its end where to find help. -/
def styledMessage (r : Refusal) : String := if r.isError then r.core ++ hint else r.core

def message (r : Refusal) : String := Text.Control.strip r.styledMessage

/-- The message as it reaches a stream that is no terminal. -/
def printed (r : Refusal) : String := Text.Control.stripStream r.styledMessage

def exitCode (r : Refusal) : Nat := if r.isAnswer then 0 else 2

end Refusal

inductive NumberFault where
  | empty
  | digit
  | tooLarge
  | tooSmall
deriving DecidableEq, Repr

def NumberFault.message : NumberFault → String
  | .empty => "cannot parse integer from empty string"
  | .digit => "invalid digit found in string"
  | .tooLarge => "number too large to fit in target type"
  | .tooSmall => "number too small to fit in target type"

/-- Digits behind a number; its size is checked after each of them. -/
def digitsFrom (negative : Bool) (n : Int) : List Char → Except NumberFault Int
  | [] => .ok n
  | c :: r =>
    let d : Int := c.toNat - 48
    let next := if negative then n * 10 - d else n * 10 + d
    if !c.isDigit then .error .digit
    else if Number.words63 ≤ next then .error .tooLarge
    else if next < -Number.words63 then .error .tooSmall
    else digitsFrom negative next r

def integer (text : String) : Except NumberFault Int :=
  match text.toList with
  | [] => .error .empty
  | ['+'] | ['-'] => .error .digit
  | '+' :: r => digitsFrom false 0 r
  | '-' :: r => digitsFrom true 0 r
  | cs => digitsFrom false 0 cs

def threadCount (text : String) : Except String UInt32 :=
  match integer text with
  | .error e => .error e.message
  | .ok n =>
    if 1 ≤ n ∧ n < Number.words32 then .ok (UInt32.ofNat n.toNat)
    else .error s!"{n} is not in 1..=4294967295"

def mode? : String → Option Console.Mode
  | "human" => some .human
  | "json" => some .json
  | "plain" => some .plain
  | _ => none

def path (k : Key) (value : String) : Except Refusal Path :=
  if value = "" then .error (.noValue k) else .ok ⟨value⟩

def store (o : Options) (k : Key) (value : String) : Except Refusal Options :=
  match k with
  | .sifterBin => (path k value).map fun p => { o with sifterBin := some p }
  | .radareBin => (path k value).map fun p => { o with radareBin := some p }
  | .baseDir => (path k value).map fun p => { o with baseDir := some p }
  | .config => (path k value).map fun p => { o with config := some p }
  | .logDir => (path k value).map fun p => { o with logDir := some p }
  | .extension => .ok { o with extension := some value }
  | .binName =>
    match DumpName.parse value with
    | .ok name => .ok { o with binName := some name }
    | .error e => .error (.invalid k value (Fault.configuration e.message).message)
  | .threads =>
    match threadCount value with
    | .ok n => .ok { o with threads := some n }
    | .error why => .error (.invalid k value why)
  | .outputFormat =>
    if value = "" then .error (.noValue k)
    else match mode? value with
      | some mode => .ok { o with mode := mode }
      | none => .error (.notPossible k value)
  | _ => .ok o

/-- The options with one of them switched on; each mention of verbosity counts. -/
def switch (o : Options) (k : Key) : Options :=
  match k with
  | .createLayout => { o with createLayout := true }
  | .radare => { o with radare := true }
  | .sifter => { o with sifter := true }
  | .quiet => { o with quiet := true }
  | .dryRun => { o with dryRun := true }
  | .generateConfig => { o with generateConfig := true }
  | .verbose => { o with verbose := min 255 (o.verbose + 1) }
  | _ => o

/-- Where the reading stands: the options so far, which were seen, the last one at the end, and
an option that is not yet judged, with its value if that has come. -/
structure Reading where
  options : Options
  seen : List Key
  pending : Option (Key × Option String)
  trailing : Bool
deriving Repr

namespace Reading

def start : Reading := ⟨{}, [], none, false⟩

def accept (r : Reading) (k : Key) (value : String) : Except Refusal Reading :=
  if r.seen.contains k then .error (.repeated k)
  else (r.options.store k value).map fun o => { r with options := o, seen := r.seen ++ [k] }

/-- Judges the option that is pending. -/
def settle (r : Reading) : Except Refusal Reading :=
  match r.pending with
  | none => .ok r
  | some (k, none) => .error (.noValue k)
  | some (k, some value) => { r with pending := none }.accept k value

def flag (r : Reading) (k : Key) (detailed : Bool) : Except Refusal Reading := do
  let r ← r.settle
  match k with
  | .help => .error (.help detailed)
  | .version => .error .version
  | .verbose =>
    return { r with options := r.options.switch k, seen := r.seen.filter (· ≠ k) ++ [k] }
  | _ =>
    if r.seen.contains k then .error (.repeated k)
    else return { r with options := r.options.switch k, seen := r.seen ++ [k] }

def letters (r : Reading) : List Char → Except Refusal Reading
  | [] => .ok r
  | c :: cs =>
    match Key.ofLetter? c with
    | none => .error (.unexpected ("-" ++ String.ofList [c]))
    | some k =>
      match r.flag k false with
      | .error e => .error e
      | .ok r => r.letters cs

/-- The text behind two dashes: a name, and a value behind an equals sign. -/
def long (r : Reading) (text : List Char) : Except Refusal Reading :=
  let name := String.ofList (text.takeWhile (· ≠ '='))
  let attached := (text.dropWhile (· ≠ '=')).tail?.map String.ofList
  match Key.ofName? name, attached with
  | none, _ => .error (.unexpected ("--" ++ name))
  | some k, some value =>
    if k.takesValue then do (← r.settle).accept k value else .error (.surplus k value)
  | some k, none =>
    if k.takesValue then do return { ← r.settle with pending := some (k, none) }
    else r.flag k true

/-- An argument that is no option: the value of an option that waits for it. -/
def plain (r : Reading) (text : String) : Except Refusal Reading :=
  match r.pending with
  | some (k, none) => .ok { r with pending := some (k, some text) }
  | _ => .error (.unexpected text)

def step (r : Reading) (argument : String) : Except Refusal Reading :=
  if r.trailing then .error (.unexpected argument)
  else match argument.toList with
    | ['-', '-'] => .ok { r with trailing := true }
    | '-' :: '-' :: text => r.long text
    | '-' :: c :: cs => r.letters (c :: cs)
    | _ => r.plain argument

def steps (r : Reading) : List String → Except Refusal Reading
  | [] => .ok r
  | a :: as =>
    match r.step a with
    | .error e => .error e
    | .ok r => r.steps as

/-- Options that exclude each other; the one that was seen first is named first. -/
def conflict? (r : Reading) : Option Refusal :=
  match r.seen.filter fun k => k = .quiet ∨ k = .verbose with
  | a :: b :: _ => some (.conflict a b)
  | _ => none

def missing (r : Reading) : List Key :=
  if r.options.generateConfig then []
  else [.baseDir, .binName].filter fun k => !r.seen.contains k

def finish (r : Reading) : Except Refusal Options := do
  let r ← r.settle
  if r.seen.isEmpty then .error .nothing
  else match r.conflict? with
    | some e => .error e
    | none => if r.missing.isEmpty then .ok r.options else .error (.missing r.missing)

end Reading

def read (arguments : List String) : Except Refusal Options := do
  (← Reading.start.steps arguments).finish

end DumpWorkbench.Options
