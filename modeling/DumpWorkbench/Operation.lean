namespace DumpWorkbench

inductive Operation where
  | createLayout
  | mapExtraction
  | sift
deriving DecidableEq, Repr

namespace Operation

def label : Operation → String
  | .createLayout => "create output structure"
  | .mapExtraction => "memory map extraction"
  | .sift => "sift"

def key : Operation → String
  | .createLayout => "create_layout"
  | .mapExtraction => "map_extraction"
  | .sift => "sift"

def all : List Operation := [.createLayout, .mapExtraction, .sift]

def place : Operation → Nat
  | .createLayout => 0
  | .mapExtraction => 1
  | .sift => 2

/-- The operations that were asked for, sorted by their places, without repetitions. -/
def ordered (requested : List Operation) : List Operation :=
  (requested.mergeSort fun a b => a.place ≤ b.place).eraseReps

end Operation
end DumpWorkbench
