import DumpWorkbench.Toml.Basic
import DumpWorkbench.Toml.Scalar

namespace DumpWorkbench.Toml

def numeral (cs : Chars) : Except Nat (Value × Chars) :=
  match skipMoment? cs with
  | some rest => .ok (.moment (String.ofList (cs.take (cs.length - rest.length))), rest)
  | none =>
    match decimal? cs with
    | some (text, rest) => .ok (.float text, rest)
    | none =>
      match skipSpecial? cs with
      | some rest => .ok (.float (String.ofList (cs.take (cs.length - rest.length))), rest)
      | none =>
        match integer? cs with
        | some (n, rest) => .ok (.integer n, rest)
        | none => .error cs.length

def arrayItems (item : Chars → Except Nat (Value × Chars)) :
    Nat → Chars → Except Nat (List Value × Chars)
  | 0, cs => .error cs.length
  | fuel + 1, cs =>
    match skipSpace cs with
    | ']' :: r => .ok ([], r)
    | cs =>
      match item cs with
      | .error n => .error n
      | .ok (v, rest) =>
        match skipSpace rest with
        | ',' :: r => (arrayItems item fuel r).map fun (vs, rest) => (v :: vs, rest)
        | ']' :: r => .ok ([v], r)
        | rest => .error rest.length

def assignment (item : Chars → Except Nat (Value × Chars)) (cs : Chars) :
    Except Nat ((List String × String × Value) × Chars) :=
  match key cs with
  | .error n => .error n
  | .ok ((path, name), rest) =>
    match rest with
    | '=' :: r => (item (skipBlanks r)).map fun (v, rest) => ((path, name, v), rest)
    | _ => .error rest.length

def inlineEntries (item : Chars → Except Nat (Value × Chars)) :
    Nat → Entries → Chars → Except Nat (Entries × Chars)
  | 0, _, cs => .error cs.length
  | fuel + 1, es, cs =>
    match assignment item cs with
    | .error n => .error n
    | .ok ((path, name, v), rest) =>
      match es.insert path name v .inline with
      | none => .error cs.length
      | some es =>
        match skipBlanks rest with
        | ',' :: r => inlineEntries item fuel es r
        | '\x7d' :: r => .ok (es, r)
        | rest => .error rest.length

def inlineTable (item : Chars → Except Nat (Value × Chars)) (cs : Chars) :
    Except Nat (Value × Chars) :=
  match skipBlanks cs with
  | '\x7d' :: r => .ok (.table .inline [], r)
  | cs => (inlineEntries item cs.length [] cs).map fun (es, rest) => (.table .inline es, rest)

/-- A value that nests at most `depth` arrays and tables in braces. -/
def value (depth : Nat) (cs : Chars) : Except Nat (Value × Chars) :=
  match cs with
  | [] => .error 0
  | c :: r =>
    if c = '"' then (basicString r).map fun (s, rest) => (.string (String.ofList s), rest)
    else if c = '\'' then (literalString r).map fun (s, rest) => (.string (String.ofList s), rest)
    else if c = '[' ∨ c = '\x7b' then
      match depth with
      | 0 => .error r.length
      | depth + 1 =>
        if c = '[' then
          (arrayItems (value depth) (r.length + 1) r).map fun (vs, rest) => (.array vs, rest)
        else inlineTable (value depth) r
    else if ['t', 'r', 'u', 'e'].isPrefixOf cs then .ok (.boolean true, cs.drop 4)
    else if ['f', 'a', 'l', 's', 'e'].isPrefixOf cs then .ok (.boolean false, cs.drop 5)
    else numeral cs

def maxDepth : Nat := 79

/-- The document as far as it is read: its root table, and the table that assignments go to. -/
structure State where
  root : Entries
  current : List String

def State.assign (s : State) (path : List String) (name : String) (v : Value) : Option State :=
  (s.root.within false s.current (fun origin es => es.insert path name v origin) .header).map
    ({ s with root := · })

def statement (s : State) (cs : Chars) : Except Nat (State × Chars) :=
  match cs with
  | '[' :: '[' :: r =>
    match key r with
    | .error n => .error n
    | .ok ((path, name), rest) =>
      match rest with
      | ']' :: ']' :: rest =>
        match s.root.appendTable path name with
        | none => .error cs.length
        | some root => (endOfLine rest).map fun rest => (⟨root, path ++ [name]⟩, rest)
      | _ => .error rest.length
  | '[' :: r =>
    match key r with
    | .error n => .error n
    | .ok ((path, name), rest) =>
      match rest with
      | ']' :: rest =>
        match s.root.openTable path name with
        | none => .error cs.length
        | some root => (endOfLine rest).map fun rest => (⟨root, path ++ [name]⟩, rest)
      | _ => .error rest.length
  | cs =>
    match assignment (value maxDepth) cs with
    | .error n => .error n
    | .ok ((path, name, v), rest) =>
      match s.assign path name v with
      | none => .error cs.length
      | some s => (endOfLine rest).map fun rest => (s, rest)

/-- Empty lines, comments and statements up to the end. The fuel bounds their number. -/
def statements : Nat → State → Chars → Except Nat Entries
  | 0, _, cs => .error cs.length
  | fuel + 1, s, cs =>
    match skipBlanks cs with
    | [] => .ok s.root
    | c :: r =>
      if c = '#' ∨ c = '\n' ∨ c = '\r' then
        match endOfLine (c :: r) with
        | .error n => .error n
        | .ok rest => statements fuel s rest
      else
        match statement s (c :: r) with
        | .error n => .error n
        | .ok (s, rest) => statements fuel s rest

/-- A byte order mark in front is not part of the document. -/
def dropMark : Chars → Chars
  | '\uFEFF' :: r => r
  | cs => cs

def document (cs : Chars) : Except Nat Entries :=
  let cs := dropMark cs
  statements (cs.length + 1) ⟨[], []⟩ cs

/-- A place in a text, lines and columns counted from one. -/
structure Place where
  line : Nat
  column : Nat
deriving DecidableEq, Repr

def Place.of (text : Chars) (unread : Nat) : Place :=
  let seen := text.take (text.length - unread)
  ⟨seen.count '\n' + 1, (seen.reverse.takeWhile (· ≠ '\n')).length + 1⟩

def read (text : String) : Except Place Entries :=
  (document text.toList).mapError (Place.of text.toList)

end DumpWorkbench.Toml
