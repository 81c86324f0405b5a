namespace DumpWorkbench.Shell

/-- Letters, digits and punctuation that stand for themselves in every position of a word. -/
def isPlain (c : Char) : Bool :=
  c.isAlphanum || ['-', '_', '.', '/', '=', ':', ',', '+', '@', '%'].contains c

/-- The inside of single quotes: a single quote closes them, stands behind a backslash and opens
them again. -/
def quoteInside : List Char → List Char
  | [] => []
  | c :: r => if c = '\'' then '\'' :: '\\' :: '\'' :: '\'' :: quoteInside r else c :: quoteInside r

def quoteChars (cs : List Char) : List Char :=
  if cs ≠ [] ∧ cs.all isPlain then cs else '\'' :: quoteInside cs ++ ['\'']

def quote (word : String) : String := String.ofList (quoteChars word.toList)

def commandLine (words : List String) : String := " ".intercalate (words.map quote)

end DumpWorkbench.Shell
