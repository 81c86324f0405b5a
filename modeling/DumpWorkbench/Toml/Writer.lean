namespace DumpWorkbench.Toml

def longestRun (c : Char) (cs : List Char) : Nat :=
  let step := fun (best, run) d => if d = c then (max best (run + 1), run + 1) else (best, 0)
  (cs.foldl step (0, 0)).1

def needsEscape (c : Char) : Bool := (c.toNat < 0x20 && c != '\t' && c != '\n') || c.toNat == 0x7F

def unicodeEscape (c : Char) : List Char :=
  let digit (n : Nat) : Char := (Nat.digitChar (n % 16)).toUpper
  ['\\', 'u', '0', '0', digit (c.toNat / 16), digit c.toNat]

/-- The inside of double quotes. In the long form line ends stay as they are, and of three
quotes in a row the third is escaped; `run` counts the quotes just before. -/
def basicInside (long : Bool) : Nat → List Char → List Char
  | _, [] => []
  | run, c :: r =>
    if c = '"' then
      if long ∧ run < 2 then c :: basicInside long (run + 1) r
      else '\\' :: '"' :: basicInside long 0 r
    else
      let written :=
        if c = '\x08' then ['\\', 'b']
        else if c = '\t' then ['\\', 't']
        else if c = '\n' then (if long then ['\n'] else ['\\', 'n'])
        else if c = '\x0c' then ['\\', 'f']
        else if c = '\r' then ['\\', 'r']
        else if c = '\\' then ['\\', '\\']
        else if needsEscape c then unicodeEscape c
        else [c]
      written ++ basicInside long 0 r

/-- A line end in front is written after one that is not part of the text, as is every text with a
line end. -/
def opening (cs : List Char) : List Char := if cs.contains '\n' then ['\n'] else []

def basicForm (cs : List Char) : List Char := '"' :: basicInside false 0 cs ++ ['"']

def literalForm (cs : List Char) : List Char := '\'' :: cs ++ ['\'']

def longBasicForm (cs : List Char) : List Char :=
  ['"', '"', '"'] ++ opening cs ++ basicInside true 0 cs ++ ['"', '"', '"']

def longLiteralForm (cs : List Char) : List Char :=
  ['\'', '\'', '\''] ++ opening cs ++ cs ++ ['\'', '\'', '\'']

def stringForm (cs : List Char) : List Char :=
  let escapes := cs.any needsEscape
  let backslash := cs.contains '\\'
  let newline := cs.contains '\n'
  let doubles := longestRun '"' cs
  let singles := longestRun '\'' cs
  if !escapes && !backslash && doubles == 0 && !newline then basicForm cs
  else if !escapes && singles == 0 && !newline then literalForm cs
  else if !escapes && !backslash && doubles ≤ 2 then longBasicForm cs
  else if !escapes && singles ≤ 2 then longLiteralForm cs
  else if newline then longBasicForm cs
  else basicForm cs

def quote (s : String) : String := String.ofList (stringForm s.toList)

end DumpWorkbench.Toml
