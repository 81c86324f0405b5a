import DumpWorkbench.Path
import DumpWorkbench.Text.Utf8

namespace DumpWorkbench.Shell

def ofBytes (b : Bytes) : String := String.ofList (b.map fun x => Char.ofNat x.toNat)

def toBytes (s : String) : Bytes := s.toList.map fun c => UInt8.ofNat c.toNat

def packed (s : String) : String := ofBytes (Utf8.encode s)

def unpacked (s : String) : String := Utf8.decodeLossy (toBytes s)

def curly (s : String) : String := packed "‘" ++ s ++ packed "’"

def toPath (s : String) : Path := ⟨unpacked s⟩

def isNameStart (c : Char) : Bool := c.isAlpha || c == '_'

def isNameChar (c : Char) : Bool := c.isAlphanum || c == '_'

def isName (s : String) : Bool := s.toList.head?.any isNameStart && s.toList.all isNameChar

def isSpaceChar (c : Char) : Bool := c == ' ' || (9 ≤ c.toNat && c.toNat ≤ 13)

end DumpWorkbench.Shell
