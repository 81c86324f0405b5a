namespace DumpWorkbench.Toml

/-- How a table came about: written in braces, under a header of its own, as a table on the way to
another header, or as a table on the way of a dotted key. -/
inductive Origin where
  | inline
  | header
  | implied
  | dotted
deriving DecidableEq, Repr

/-- Numbers with a fraction or an exponent and points in time are kept as they are written. -/
inductive Value where
  | string (s : String)
  | integer (i : Int)
  | float (text : String)
  | boolean (b : Bool)
  | moment (text : String)
  | array (items : List Value)
  | table (origin : Origin) (entries : List (String × Value))
  | tables (items : List Value)
deriving Repr

abbrev Entries := List (String × Value)

namespace Entries

def get? (es : Entries) (key : String) : Option Value := es.lookup key

/-- Changes what stands under a key, or adds it at the end; a change that is refused refuses the
whole. -/
def alter (key : String) (change : Option Value → Option Value) : Entries → Option Entries
  | [] => (change none).map fun v => [(key, v)]
  | (k, v) :: r =>
    if k = key then (change (some v)).map fun w => (k, w) :: r
    else (alter key change r).map ((k, v) :: ·)

/-- Whether a table may be entered on the way of a path, under a header or by a dotted key. -/
def admits (dotted : Bool) : Origin → Bool
  | .inline => false
  | .header => !dotted
  | .implied | .dotted => true

/-- Changes the table that a path leads to. Tables missing on the way are made; an array of tables
stands for its last one. -/
def within (dotted : Bool) (path : List String)
    (change : Origin → Entries → Option Entries) (origin : Origin) (es : Entries) :
    Option Entries :=
  match path with
  | [] => change origin es
  | key :: path =>
    es.alter key fun
      | none =>
        let made : Origin := if dotted then .dotted else .implied
        (within dotted path change made []).map (.table made)
      | some (.table origin es) =>
        if admits dotted origin then (within dotted path change origin es).map (.table origin)
        else none
      | some (.tables items) =>
        match items.reverse with
        | .table origin es :: earlier =>
          (within dotted path change origin es).map fun es =>
            .tables (earlier.reverse ++ [.table origin es])
        | _ => none
      | some _ => none

/-- Adds a value under a dotted key, given as the path to its table and the last part. The last
table on the path must have been made by dotted keys. -/
def insert (path : List String) (key : String) (v : Value) (origin : Origin) (es : Entries) :
    Option Entries :=
  es |> within true path (fun origin es =>
    if (origin == .dotted) == path.isEmpty then none
    else es.alter key fun
      | none => some v
      | some _ => none) origin

/-- Opens the table of a header; a table that only stood on the way of other headers is taken
over. -/
def openTable (path : List String) (key : String) (es : Entries) : Option Entries :=
  es |> within false path (fun _ es => es.alter key fun
    | none => some (.table .header [])
    | some (.table .implied es) => some (.table .header es)
    | some _ => none) .header

def appendTable (path : List String) (key : String) (es : Entries) : Option Entries :=
  es |> within false path (fun _ es => es.alter key fun
    | none => some (.tables [.table .header []])
    | some (.tables items) => some (.tables (items ++ [.table .header []]))
    | some _ => none) .header

end Entries
end DumpWorkbench.Toml
