import DumpWorkbench.Host
import DumpWorkbench.Settings

namespace DumpWorkbench.Log

/-- Why there is no log file. -/
inductive Unopened where
  | directory (path : Path) (cause : IoFault)
  | parent (path : Path) (cause : IoFault)
  | file (path : Path) (cause : IoFault)
deriving DecidableEq, Repr

namespace Unopened

def headline : Unopened → String
  | .directory path _ => s!"Failed to create log directory {path.text}"
  | .parent path _ | .file path _ => s!"Failed to open log file in {path.text}"

/-- What failed and all of its causes. A step of opening states its cause once more. -/
def message (u : Unopened) : String :=
  match u with
  | .directory _ e => s!"{u.headline}: {e.message}"
  | .parent _ e => s!"{u.headline}: failed to create log directory: {e.message}: {e.message}"
  | .file _ e => s!"{u.headline}: failed to create initial log file: {e.message}: {e.message}"

end Unopened

def fileName (name : String) (day : Timestamp.Date) : String :=
  if name = "" then day.text else name ++ "." ++ day.text

variable {m : Type → Type} [Monad m] [Host m]

/-- Opens a file for adding lines to it, if need be after making the directory that it is in. -/
def reach (directory path : Path) : ExceptT Unopened m Unit := do
  match ← Files.appendFile (m := m) path [] with
  | .ok _ => return
  | .error e =>
    match path.parent? with
    | none => throw (.file directory e)
    | some parent =>
      match ← Files.makeDirectories (m := m) parent with
      | .error e => throw (.parent directory e)
      | .ok _ =>
        match ← Files.appendFile (m := m) path [] with
        | .ok _ => return
        | .error e => throw (.file directory e)

def daysOfMonth (year month : Nat) : Nat :=
  if month = 2 then if year % 4 = 0 ∧ (year % 100 ≠ 0 ∨ year % 400 = 0) then 29 else 28
  else if [4, 6, 9, 11].contains month then 30
  else 31

/-- Whether digits in the form `YYYY-MM-DD` are a day of the calendar. A sign may stand in front. -/
def isDay (name : String) : Bool :=
  let cs := match name.toList with
    | '+' :: r | '-' :: r => r
    | cs => cs
  let value (ds : List Char) : Option Nat :=
    if ds.all Char.isDigit then (String.ofList ds).toNat? else none
  match cs with
  | [a, b, c, d, '-', m, n, '-', x, y] =>
    match value [a, b, c, d], value [m, n], value [x, y] with
    | some year, some month, some day =>
      1 ≤ month && month ≤ 12 && 1 ≤ day && day ≤ daysOfMonth year month
    | _, _, _ => false
  | _ => false

def isLogName (logName name : String) : Bool :=
  if logName = "" then isDay name else logName.toList.isPrefixOf name.toList

/-- Those of the oldest files that have to go so that, with the next one, there are at most
`limit`. A limit of zero is none. -/
def outdated (limit : Nat) (files : List Path) : List Path :=
  if limit = 0 then [] else files.take (files.length + 1 - limit)

/-- Removes outdated log files. What goes wrong is only told. -/
def prune (s : Settings) : m Unit := do
  let tell (text : String) : m Unit := Host.print .stderr (text ++ "\n")
  if s.logFiles = 0 then return
  match ← Files.list (m := m) s.logDirectory with
  | .error e => tell s!"Error reading the log directory/files: {e.message}"
  | .ok names =>
    let paths := (names.filter (isLogName s.logName)).map fun n => s.logDirectory.join n
    let files ← paths.filterM fun p => do return !(← Files.isDirectory (m := m) p)
    for p in outdated s.logFiles.toNat files do
      match ← Files.remove (m := m) p with
      | .ok _ => pure ()
      | .error e => tell s!"Failed to remove old log file {p.text}: {e.message}"

/-- Makes the log file of today and gives its path. -/
def makeFile (s : Settings) : ExceptT Unopened m Path := do
  match ← Files.makeDirectories (m := m) s.logDirectory with
  | .error e => throw (.directory s.logDirectory e)
  | .ok _ =>
    prune (m := m) s
    let now ← Host.now (m := m)
    let path := s.logDirectory.join (fileName s.logName now.date)
    reach s.logDirectory path
    return path

end DumpWorkbench.Log
