import DumpWorkbench.Path
import DumpWorkbench.Text.Utf8

namespace DumpWorkbench

/-- A path as the system has it: any bytes, which may be no text. -/
structure RawPath where
  bytes : Bytes
deriving DecidableEq, Repr

namespace RawPath

def ofText (s : String) : RawPath := ⟨Utf8.encode s⟩

instance : Coe Path RawPath := ⟨fun p => ofText p.text⟩

def text? (p : RawPath) : Option String := Utf8.decode? p.bytes

def shown (p : RawPath) : String := Utf8.decodeLossy p.bytes

end RawPath
end DumpWorkbench
