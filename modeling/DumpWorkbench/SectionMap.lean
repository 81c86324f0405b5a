import DumpWorkbench.Json.Reader
import DumpWorkbench.Json.Writer
import DumpWorkbench.Number

namespace DumpWorkbench

/-- One memory section: the members of a JSON object, in ascending order of their keys. Unknown
keys are kept. -/
structure Section where
  fields : Json.Members

namespace Section

def get? (s : Section) (key : String) : Option Json.Value := s.fields.get? key

def text? (s : Section) (key : String) : Option String := (s.get? key).bind (·.string?)

def word? (s : Section) (key : String) : Option Nat := (s.get? key).bind (·.word64?)

def name? (s : Section) : Option String := s.text? "name"
def perm? (s : Section) : Option String := s.text? "perm"
def size? (s : Section) : Option Nat := s.word? "size"
def virtualSize? (s : Section) : Option Nat := s.word? "vsize"
def address? (s : Section) : Option Nat := s.word? "paddr"
def virtualAddress? (s : Section) : Option Nat := s.word? "vaddr"

def hex8 (n : Nat) : String :=
  let ds := Nat.toDigits 16 n
  String.ofList (List.replicate (8 - ds.length) '0' ++ ds)

/-- One line about the section; what it does not say is a placeholder or zero. -/
def summary (s : Section) : String :=
  let name := s.name?.getD "<unnamed>"
  let perm := s.perm?.getD "----"
  let paddr := hex8 (s.address?.getD 0)
  let size := hex8 (s.size?.getD 0)
  let vaddr := hex8 (s.virtualAddress?.getD 0)
  let vsize := hex8 (s.virtualSize?.getD 0)
  s!"{name} perms={perm} paddr={paddr} size={size} vaddr={vaddr} vsize={vsize}"

end Section

/-- The sections of a dump in the order of the report. -/
structure SectionMap where
  sections : List Section

namespace SectionMap

/-- Why a report is refused: it is no JSON text, its value is no array, or one of the items is no
object. -/
inductive Refusal where
  | unreadable (error : Json.ReadError)
  | notArray (value : Json.Value)
  | notObject (index : Nat) (item : Json.Value)

def ofItems (index : Nat) : List Json.Value → Except Refusal (List Section)
  | [] => .ok []
  | .object fields :: r => (ofItems (index + 1) r).map (⟨fields⟩ :: ·)
  | item :: _ => .error (.notObject index item)

def ofValue : Json.Value → Except Refusal SectionMap
  | .array items => (ofItems 0 items).map SectionMap.mk
  | other => .error (.notArray other)

/-- Reads a section report. -/
def decode (report : Bytes) : Except Refusal SectionMap :=
  match Json.read report with
  | .ok v => ofValue v.sorted
  | .error e => .error (.unreadable e)

def value (m : SectionMap) : Json.Value := .array (m.sections.map fun s => .object s.fields)

def encode (m : SectionMap) : String := m.value.compact

def size (m : SectionMap) : Nat := m.sections.length

/-- The sum of the virtual sizes that the sections state, in a word of 64 bits that overflows. -/
def virtualSize (m : SectionMap) : Nat :=
  (m.sections.filterMap (·.virtualSize?)).foldl (fun sum n => (sum + n) % Number.words64) 0

end SectionMap
end DumpWorkbench
