import DumpWorkbench.ByteCount
import DumpWorkbench.Fault
import DumpWorkbench.Json.Writer
import DumpWorkbench.Report

namespace DumpWorkbench

inductive Channel where
  | stdout
  | stderr
deriving DecidableEq, Repr

inductive Console.Mode where
  | human
  | json
  | plain
deriving DecidableEq, Repr

/-- How a run is presented: `terminal` tells whether the standard output is a terminal with
colours. -/
structure Console where
  mode : Console.Mode
  verbosity : Nat
  quiet : Bool
  terminal : Bool
deriving DecidableEq, Repr

/-- What there is to say. -/
inductive Notice where
  | success (text : String)
  | error (text : String)
  | warning (text : String)
  | info (text : String)
  | start (text : String)
  | header (title : String)
  | separator
  | failure (fault : Fault)
  | plan (title : String) (entries : List (String × String))
  | report (r : Report)

namespace Console

abbrev Lines := List (Channel × String)

def colours (c : Console) : Bool := c.mode == .human && c.terminal && !c.quiet

def shows (c : Console) (least : Nat) : Bool :=
  !c.quiet && least ≤ (if c.quiet then 0 else c.verbosity)

def out (text : String) : Lines := [(.stdout, text ++ "\n")]

def err (text : String) : Lines := [(.stderr, text ++ "\n")]

def escapeCode (n : Nat) : String :=
  let digits := toString n
  "\x1b[" ++ digits ++ "m"

def styled (codes : List Nat) (text : String) : String :=
  String.join (codes.map escapeCode) ++ text ++ escapeCode 0

def bold : Nat := 1
def dim : Nat := 2
def red : Nat := 31
def green : Nat := 32
def yellow : Nat := 33
def cyan : Nat := 36

def marked (c : Console) (pictogram sign : String) (codes : List Nat) (text : String) : String :=
  if c.colours then pictogram ++ styled codes text else sign ++ " " ++ text

open Json (Value)

/-- One document to a line, with sorted keys. -/
def document (members : List (String × Value)) : Lines :=
  out (Value.object members).sorted.compact

def messageDocument (now : Timestamp) (level text : String) : Lines :=
  document [("type", .string "message"), ("level", .string level), ("message", .string text),
    ("timestamp", .string now.offsetText)]

def planDocument (title : String) (entries : List (String × String)) : Lines :=
  document [("type", .string "plan"), ("title", .string title),
    ("entries", .object (entries.map fun (k, v) => (k, .string v)))]

def success (c : Console) (now : Timestamp) (text : String) : Lines :=
  if !c.shows 0 then []
  else match c.mode with
    | .human => out (c.marked "✅ " "✓" [green, bold] text)
    | .json => messageDocument now "success" text
    | .plain => out s!"SUCCESS: {text}"

/-- Errors are shown even when all else is hidden. -/
def error (c : Console) (now : Timestamp) (text : String) : Lines :=
  match c.mode with
  | .human => err (c.marked "❌ " "✗" [red, bold] text)
  | .json => messageDocument now "error" text
  | .plain => err s!"ERROR: {text}"

def warning (c : Console) (now : Timestamp) (text : String) : Lines :=
  if !c.shows 0 then []
  else match c.mode with
    | .human => out (c.marked "⚠️  " "!" [yellow, bold] text)
    | .json => messageDocument now "warning" text
    | .plain => out s!"WARNING: {text}"

def info (c : Console) (now : Timestamp) (text : String) : Lines :=
  if !c.shows 0 then []
  else match c.mode with
    | .human => out (c.marked "ℹ️  " "i" [cyan] text)
    | .json => messageDocument now "info" text
    | .plain => out s!"INFO: {text}"

def start (c : Console) (now : Timestamp) (text : String) : Lines :=
  if !c.shows 0 then []
  else match c.mode with
    | .human => out (c.marked "🚀 " ">" [bold] text)
    | .json => messageDocument now "operation_start" text
    | .plain => out s!"STARTING: {text}"

def header (c : Console) (title : String) : Lines :=
  if c.quiet then []
  else match c.mode with
    | .human =>
      let line := if c.colours then "✨  " ++ styled [cyan, bold] title else s!"=== {title} ==="
      out "" ++ out line ++ out ""
    | .json => []
    | .plain => out s!"=== {title} ==="

def rule (c : Char) : String := String.ofList (List.replicate 60 c)

def separator (c : Console) : Lines :=
  if c.quiet then []
  else match c.mode with
    | .human => out (if c.colours then styled [dim] (rule '─') else rule '-')
    | .json => []
    | .plain => out (rule '-')

/-- A fault and what can be done about it. -/
def failure (c : Console) (now : Timestamp) (f : Fault) : Lines :=
  c.error now f.headline ++
    let advice := f.suggestion
    match c.mode with
    | .human =>
      if c.colours then err ("ℹ️  " ++ styled [cyan] s!"Suggestion: {advice}")
      else err s!"Suggestion: {advice}"
    | .json => document [("type", .string "suggestion"), ("message", .string advice)]
    | .plain => err s!"SUGGESTION: {advice}"

def padRight (width : Nat) (text : String) : String :=
  text ++ String.ofList (List.replicate (width - text.length) ' ')

def planLines (entries : List (String × String)) : Lines :=
  let width := (entries.map fun (k, _) => k.utf8ByteSize).foldl max 0
  entries.flatMap fun (k, v) => out ("  " ++ padRight width k ++ "  " ++ v)

def plan (c : Console) (title : String) (entries : List (String × String)) : Lines :=
  match c.mode with
  | .json => planDocument title entries
  | _ => c.header title ++ planLines entries

def exitCodeText : Option Int → String
  | none => "None"
  | some n => s!"Some({n})"

def recordLines (c : Console) (r : Record) : Lines :=
  let state := if c.colours then styled [green] r.state.key else r.state.key
  let elapsed := r.elapsed.rough
  let captured := ByteCount.text r.captured
  out ("  " ++ padRight 24 r.operation.label ++ s!" {state} in {elapsed}") ++
  (match r.sections with
    | some n => out s!"    sections: {n}"
    | none => []) ++
  (if 0 < r.captured then out s!"    output:   {captured}" else []) ++
  (match r.artifact with
    | some p => out s!"    path:     {p.shown}"
    | none => [])

def nonzeroLines (records : List Record) : Lines :=
  if records.isEmpty then []
  else
    out "" ++ out "Tools that exited with a non-zero status:" ++
    records.flatMap fun r =>
      let code := exitCodeText r.exitCode
      out s!"  - {r.operation.label} (exit code {code})"

/-- The line with the sum of all times. A sum that does not fit is a panic, before the line. -/
def totalLine (label : String) (text : Duration → String) (r : Report) : Lines :=
  match r.elapsed? with
  | some total => out (label ++ text total)
  | none => []

def humanReport (c : Console) (r : Report) : Lines :=
  c.header "Run Report" ++
  out s!"Dump: {r.name}" ++
  out s!"Workspace: {r.base.shown}" ++
  out s!"Started at: {r.started.minuteText}" ++
  out "" ++
  (if r.isEmpty then out "No operations requested (use -c, --radare or --sifter)." else []) ++
  r.records.flatMap c.recordLines ++
  nonzeroLines r.nonzeroExits ++
  c.separator ++
  totalLine "Total time: " Duration.rough r

def plainReport (r : Report) : Lines :=
  out s!"REPORT: {r.name}" ++
  out s!"Workspace: {r.base.shown}" ++
  (r.records.flatMap fun x =>
    let code := exitCodeText x.exitCode
    out s!"{x.operation.label}: {x.state.title} ({x.elapsed.precise}, exit code {code})") ++
  totalLine "Duration: " Duration.precise r

def report (c : Console) (r : Report) : Lines :=
  match c.mode with
  | .human => if c.quiet then [] else c.humanReport r
  | .json => out r.value.pretty
  | .plain => plainReport r

def tellsTotal (c : Console) : Bool :=
  match c.mode with
  | .human => !c.quiet
  | .json => false
  | .plain => true

def render (c : Console) (now : Timestamp) : Notice → Lines
  | .success text => c.success now text
  | .error text => c.error now text
  | .warning text => c.warning now text
  | .info text => c.info now text
  | .start text => c.start now text
  | .header title => c.header title
  | .separator => c.separator
  | .failure f => c.failure now f
  | .plan title entries => c.plan title entries
  | .report r => c.report r

def panics (c : Console) : Notice → Bool
  | .report r => c.tellsTotal && r.elapsed?.isNone
  | _ => false

end Console
end DumpWorkbench
