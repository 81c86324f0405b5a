import DumpWorkbench.Path
import DumpWorkbench.Text.Blank

namespace DumpWorkbench.DumpName

/-- Why a name is refused. -/
inductive Refusal where
  | empty
  | outside (name : String)
deriving DecidableEq, Repr

def Refusal.message : Refusal → String
  | .empty => "Bin name must not be empty"
  | .outside name => s!"Bin name must stay inside the workspace: {name}"

def isName : Path.Component → Bool
  | .name _ => true
  | _ => false

/-- Admits the names that, without the space around them, are relative paths of plain names. -/
def check (name : String) : Except Refusal Unit :=
  let trimmed := Text.trim name
  if trimmed.isEmpty then .error .empty
  else if (Path.mk trimmed).components.all isName then .ok ()
  else .error (.outside name)

def parse (name : String) : Except Refusal String := (check name).map fun _ => Text.trim name

def lowerAscii (s : String) : List Char := s.toList.map Char.toLower

/-- Whether the last component of a name is a stem followed by the extension, in any case. -/
def hasExtension (name ext : String) : Bool :=
  let p : Path := ⟨name⟩
  match p.stem?, p.extension? with
  | some stem, some e => stem ≠ "" && stem ≠ "." && stem ≠ ".." && lowerAscii e == lowerAscii ext
  | _, _ => false

/-- The name of the dump's file: the extension is added unless it is there. -/
def fileName (name ext : String) : String :=
  if hasExtension name ext then name else s!"{name}.{ext}"

end DumpWorkbench.DumpName
