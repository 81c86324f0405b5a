import DumpWorkbench.Decimal.Binary64
import DumpWorkbench.Number

namespace DumpWorkbench.Json

inductive Number where
  | integer (i : Int)
  | real (x : Binary64)
deriving DecidableEq, Repr

inductive Value where
  | null
  | bool (b : Bool)
  | number (n : Number)
  | string (s : String)
  | array (items : List Value)
  | object (members : List (String × Value))
deriving Repr

abbrev Members := List (String × Value)

namespace Value

def ofNat (n : Nat) : Value := .number (.integer n)

def ofInt (i : Int) : Value := .number (.integer i)

def string? : Value → Option String
  | .string s => some s
  | _ => none

def word64? : Value → Option Nat
  | .number (.integer i) => if 0 ≤ i ∧ i < Number.words64 then some i.toNat else none
  | _ => none

def kind : Value → String
  | .null => "null"
  | .bool _ => "a boolean"
  | .number _ => "a number"
  | .string _ => "a string"
  | .array _ => "an array"
  | .object _ => "an object"

end Value

namespace Members

def get? (ms : Members) (key : String) : Option Value := ms.lookup key

/-- Puts a member into members in ascending order, unless the key is there already. -/
def insertNew (key : String) (v : Value) : Members → Members
  | [] => [(key, v)]
  | (k, w) :: r =>
    if key < k then (key, v) :: (k, w) :: r
    else if key = k then (k, w) :: r
    else (k, w) :: insertNew key v r

end Members

mutual

/-- The value with the members of every object sorted by key, the last of equal keys kept. -/
def Value.sorted : Value → Value
  | .array items => .array (sortedItems items)
  | .object members => .object (sortedMembers members)
  | .null => .null
  | .bool b => .bool b
  | .number n => .number n
  | .string s => .string s

def sortedItems : List Value → List Value
  | [] => []
  | v :: r => v.sorted :: sortedItems r

def sortedMembers : Members → Members
  | [] => []
  | (k, v) :: r => Members.insertNew k v.sorted (sortedMembers r)

end

end DumpWorkbench.Json
