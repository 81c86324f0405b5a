import DumpWorkbench.Json.Basic
import DumpWorkbench.Number
import DumpWorkbench.Operation
import DumpWorkbench.RawPath
import DumpWorkbench.Timestamp
import DumpWorkbench.Tool

namespace DumpWorkbench

/-- What one operation of a run did. -/
structure Record where
  operation : Operation
  state : Tool.State
  elapsed : Duration
  captured : Nat
  exitCode : Option Int
  artifact : Option RawPath
  sections : Option Nat
deriving DecidableEq, Repr

namespace Record

def layout (base : RawPath) (elapsed : Duration) : Record where
  operation := .createLayout
  state := .completed
  elapsed := elapsed
  captured := 0
  exitCode := none
  artifact := some base
  sections := none

/-- The record of a tool that ran, whatever its exit code. -/
def ofTool (operation : Operation) (o : Tool.Output) (artifact : Option Path) : Record where
  operation := operation
  state := .completed
  elapsed := o.elapsed
  captured := o.stdout.length
  exitCode := o.exitCode
  artifact := artifact.map (RawPath.ofText ·.text)
  sections := none

def withSections (r : Record) (n : Nat) : Record := { r with sections := some n }

def exitedNonzero (r : Record) : Bool := r.exitCode.any (· ≠ 0)

end Record

structure Report where
  name : String
  base : RawPath
  started : Timestamp
  records : List Record
deriving DecidableEq, Repr

namespace Report

def elapsed? (r : Report) : Option Duration := Duration.sum? (r.records.map (·.elapsed))

/-- The records of tools whose output was taken although they exited with another code than
zero. -/
def nonzeroExits (r : Report) : List Record := r.records.filter (·.exitedNonzero)

def isEmpty (r : Report) : Bool := r.records.isEmpty

end Report

open Json (Value)

def optional (f : α → Value) : Option α → Value
  | some x => f x
  | none => .null

def Duration.value (d : Duration) : Value :=
  .object [("secs", .ofNat d.seconds), ("nanos", .ofNat d.fraction)]

/-- The record as a JSON value, unless its path is no text. -/
def Record.value? (r : Record) : Option Value := do
  let artifact ← r.artifact.mapM RawPath.text?
  return .object [
    ("kind", .string r.operation.key),
    ("status", .string r.state.key),
    ("duration", r.elapsed.value),
    ("captured_bytes", .ofNat r.captured),
    ("exit_code", optional .ofInt r.exitCode),
    ("artifact", optional .string artifact),
    ("sections", optional .ofNat r.sections)]

/-- The report as a JSON value, unless one of its paths is no text. -/
def Report.value? (r : Report) : Option Value := do
  let base ← r.base.text?
  let operations ← r.records.mapM Record.value?
  return .object [
    ("bin_name", .string r.name),
    ("base_dir", .string base),
    ("started_at", .string r.started.text),
    ("operations", .array operations)]

/-- What is shown of the report as JSON: nothing at all if it has no value. -/
def Report.value (r : Report) : Value := r.value?.getD (.object [])

end DumpWorkbench
