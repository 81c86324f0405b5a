import DumpWorkbench.Live
import DumpWorkbench.Program

def main (arguments : List String) : IO UInt32 := do
  let sink ← IO.mkRef none
  let code ← (DumpWorkbench.Program.run (m := DumpWorkbench.Live) arguments).run sink
  return UInt32.ofNat code
