import DumpWorkbench.Shell.Octets

namespace DumpWorkbench.Shell

/-- What is done with the value of a parameter. Where a case is made for a missing value, `empty`
tells whether an empty one is taken for missing. -/
inductive Use where
  | value
  | length
  | fallback (empty : Bool)
  | assign (empty : Bool)
  | demand (empty : Bool)
  | replace (empty : Bool)
  | dropFront (longest : Bool)
  | dropBack (longest : Bool)
  | bad
deriving DecidableEq, Repr

/-- A part of a word: a character, the mark of a pair of quotes, the value of a parameter, the
output of a script, or the value of a calculation. `recounts` tells that the lines of the script
are counted from one. -/
inductive Part where
  | plain (c : Char)
  | quoted (c : Char)
  | quotes
  | parameter (name : String) (use : Use) (operand : List Part) (quoted : Bool)
  | output (script : List Char) (recounts quoted : Bool)
  | calculation (text : List Part) (quoted : Bool)

abbrev Word := List Part

/-- What a file is opened for. `write` may be told to spare files that are there. -/
inductive Redirection where
  | read
  | write
  | overwrite
  | append
  | both
  | copyIn
  | copyOut
deriving DecidableEq, Repr

/-- A fault ends the text: what comes after it is not read. -/
inductive Token where
  | word (w : Word)
  | operator (text : String)
  | redirection (descriptor : Nat) (kind : Redirection)
  | document (descriptor : Nat) (body : Word)
  | newline
  | finish
  | fault (message : String)

/-- A token with the number of the line on which it ends. -/
structure Lexeme where
  token : Token
  line : Nat

def isBlank (c : Char) : Bool := c == ' ' || c == '\t'

def endsWord (c : Char) : Bool :=
  isBlank c || ['\n', ';', '&', '|', '<', '>', '(', ')'].contains c

def isSpecial (c : Char) : Bool := ['@', '*', '#', '?', '$', '!', '-'].contains c

/-- What a text stands inside of: parentheses, a list of cases, quotes, a comment, or behind a
backslash. -/
inductive Inside where
  | parentheses
  | cases
  | double
  | single
  | accents
  | comment
  | escaped
deriving DecidableEq, Repr

/-- Reserved words that a command follows. -/
def openers : List String := ["if", "then", "else", "elif", "do", "while", "until", "!", "\x7b"]

/-- Whether a character separates words; whatever does so, blanks apart, has a command behind it. -/
def separates (c : Char) : Bool := endsWord c

/-- The text up to the parenthesis that closes it, and what follows. `start` holds where a word can
begin, `command` where that word is a command's name. -/
def untilClosed (start command : Bool) : List Inside → List Char → Option (List Char × List Char)
  | _, [] => none
  | stack, c :: r =>
    let go (start command : Bool) (stack : List Inside) : Option (List Char × List Char) :=
      (untilClosed start command stack r).map fun (s, t) => (c :: s, t)
    match stack with
    | .escaped :: below => go false false below
    | .single :: below => go false false (if c = '\'' then below else stack)
    | .double :: below =>
      if c = '"' then go false false below
      else if c = '\\' then go false false (.escaped :: stack)
      else if c = '\x60' then go false false (.accents :: stack)
      else if c = '$' ∧ r.head? = some '(' then go false true stack
      else if c = '(' ∧ command then go true true (.parentheses :: stack)
      else go false false stack
    | .comment :: below => if c = '\n' then go true true below else go false false stack
    | .accents :: below =>
      if c = '\\' then go false false (.escaped :: stack)
      else go false false (if c = '\x60' then below else stack)
    | _ =>
      if c = '\\' then go false false (.escaped :: stack)
      else if c = '\'' then go false false (.single :: stack)
      else if c = '"' then go false false (.double :: stack)
      else if c = '\x60' then go false false (.accents :: stack)
      else if c = '(' then go true true (.parentheses :: stack)
      else if c = ')' then
        match stack with
        | [] => some ([], r)
        | .parentheses :: below => go true true below
        | _ => go true true stack
      else if isBlank c then go true command stack
      else if separates c then go true true stack
      else if start && c = '#' then go false false (.comment :: stack)
      else if start then
        let word := String.ofList ((c :: r).takeWhile (!separates ·))
        if command && word = "case" then go false false (.cases :: stack)
        else if word = "esac" then go false false (stack.drop 1)
        else go false (command && openers.contains word) stack
      else go false command stack

def untilTwiceClosed (depth : Nat) : List Char → Option (List Char × List Char)
  | [] => none
  | ')' :: ')' :: r =>
    if depth = 0 then some ([], r)
    else (untilTwiceClosed (depth - 1) (')' :: r)).map fun (s, t) => (')' :: s, t)
  | c :: r =>
    (untilTwiceClosed (if c = '(' then depth + 1 else if c = ')' then depth - 1 else depth) r).map
      fun (s, t) => (c :: s, t)

/-- The script between two grave accents. A backslash is taken away before a character that has a
meaning there. -/
def accented (quoted : Bool) : List Char → Option (List Char × List Char)
  | [] => none
  | '\x60' :: r => some ([], r)
  | '\\' :: d :: r =>
    let kept := if d = '$' ∨ d = '\\' ∨ d = '\x60' ∨ (quoted ∧ d = '"') then [d] else ['\\', d]
    (accented quoted r).map fun (s, t) => (kept ++ s, t)
  | c :: r => (accented quoted r).map fun (s, t) => (c :: s, t)

def singleQuoted : List Char → Option (List Char × List Char)
  | [] => none
  | c :: r => if c = '\'' then some ([], r) else (singleQuoted r).map fun (s, t) => (c :: s, t)

/-- The name of a parameter in braces, and whether its length is asked for. -/
def parameterName : List Char → Option (String × Bool × List Char)
  | '#' :: c :: r =>
    if isNameChar c then
      let name := (c :: r).takeWhile (if c.isDigit then Char.isDigit else isNameChar)
      some (String.ofList name, true, (c :: r).drop name.length)
    else if isSpecial c && r.head? = some '\x7d' then some (String.ofList [c], true, r)
    else some ("#", false, c :: r)
  | c :: r =>
    if isNameStart c then
      let name := (c :: r).takeWhile isNameChar
      some (String.ofList name, false, (c :: r).drop name.length)
    else if c.isDigit then
      let name := (c :: r).takeWhile Char.isDigit
      some (String.ofList name, false, (c :: r).drop name.length)
    else if isSpecial c then some (String.ofList [c], false, r)
    else none
  | [] => none

/-- What is done with the parameter, and the text of the operand. -/
def parameterUse : List Char → Use × List Char
  | ':' :: '-' :: r => (.fallback true, r)
  | '-' :: r => (.fallback false, r)
  | ':' :: '=' :: r => (.assign true, r)
  | '=' :: r => (.assign false, r)
  | ':' :: '?' :: r => (.demand true, r)
  | '?' :: r => (.demand false, r)
  | ':' :: '+' :: r => (.replace true, r)
  | '+' :: r => (.replace false, r)
  | '%' :: '%' :: r => (.dropBack true, r)
  | '%' :: r => (.dropBack false, r)
  | '#' :: '#' :: r => (.dropFront true, r)
  | '#' :: r => (.dropFront false, r)
  | '\x7d' :: r => (.value, '\x7d' :: r)
  | r => (.bad, r)

def Use.isTrim : Use → Bool
  | .dropFront _ | .dropBack _ => true
  | _ => false

def unclosedQuotes : String := "Unterminated quoted string"

def unclosedBrace : String := "Missing '\x7d'"

def unclosedScript : String := "end of file unexpected (expecting \")\")"

def unclosedAccent : String := "EOF in backquote substitution"

def unclosedCalculation : String := "Missing '))'"

/-- Where a text that is read ends. -/
inductive Border where
  | blank
  | doubleQuote
  | brace
  | braceInQuotes
  | nothing
deriving DecidableEq, Repr

/-- Whether only expansions have a meaning up to the border. -/
def Border.isQuoting : Border → Bool
  | .doubleQuote | .braceInQuotes | .nothing => true
  | _ => false

def Border.isReached (b : Border) (c : Char) : Bool :=
  match b with
  | .blank => endsWord c
  | .doubleQuote => c == '"'
  | .brace | .braceInQuotes => c == '\x7d'
  | .nothing => false

def Border.unreached : Border → Option String
  | .blank | .nothing => none
  | .doubleQuote | .braceInQuotes => some unclosedQuotes
  | .brace => some unclosedBrace

/-- Whether a backslash is taken away before a character where only expansions have a meaning. -/
def Border.escapes (b : Border) (c : Char) : Bool :=
  c == '$' || c == '\\' || c == '\x60' || (b != .nothing && c == '"')
    || (b == .braceInQuotes && c == '\x7d')

def followed (f : α → Part) :
    Option (α × List Char) → String → Except String (Part × List Char)
  | some (x, r), _ => .ok (f x, r)
  | none, message => .error message

mutual

/-- The parameter, script or calculation after a dollar sign; a dollar sign before anything else
stands for itself. -/
def expansion (border : Border) : Nat → List Char → Except String (Part × List Char)
  | 0, _ => .error unclosedQuotes
  | fuel + 1, cs =>
    let quoted := border.isQuoting
    match cs with
    | '(' :: '(' :: r =>
      match untilTwiceClosed 0 r with
      | none => .error unclosedCalculation
      | some (text, rest) => do
        let (w, _) ← parts .nothing fuel text
        return (.calculation w quoted, rest)
    | '(' :: r => followed (.output · false quoted) (untilClosed true true [] r) unclosedScript
    | '\x7b' :: r =>
      let (name, length, rest) := (parameterName r).getD ("", false, r)
      let (use, rest) :=
        if name = "" then (.bad, rest)
        else if length then (if rest.head? = some '\x7d' then .length else .bad, rest)
        else parameterUse rest
      let inner := if quoted && !use.isTrim then .braceInQuotes else .brace
      match parts inner fuel rest with
      | .error e =>
        .error (if border = .doubleQuote ∨ border = .braceInQuotes then unclosedQuotes else e)
      | .ok (w, rest) => .ok (.parameter name use w quoted, rest)
    | c :: r =>
      if isNameStart c then
        let name := cs.takeWhile isNameChar
        .ok (.parameter (String.ofList name) .value [] quoted, cs.drop name.length)
      else if c.isDigit || isSpecial c then
        .ok (.parameter (String.ofList [c]) .value [] quoted, r)
      else .ok (if quoted then .quoted '$' else .plain '$', cs)
    | [] => .ok (if quoted then .quoted '$' else .plain '$', [])

/-- The parts of a text up to its border. The border of quotes and braces is taken away. -/
def parts (border : Border) : Nat → List Char → Except String (Word × List Char)
  | 0, _ => .error unclosedQuotes
  | _, [] =>
    match border.unreached with
    | some message => .error message
    | none => .ok ([], [])
  | fuel + 1, c :: r =>
    let quoted := border.isQuoting
    let more (p : Word) (rest : List Char) : Except String (Word × List Char) := do
      let (w, rest) ← parts border fuel rest
      return (p ++ w, rest)
    if border.isReached c then .ok ([], if border = .blank then c :: r else r)
    else if c = '$' then do
      let (p, rest) ← expansion border fuel r
      more [p] rest
    else if c = '\x60' then do
      let (p, rest) ← followed (.output · true quoted) (accented quoted r) unclosedAccent
      more [p] rest
    else if c = '\\' then
      match r with
      | [] => more [.quoted '\\'] []
      | '\n' :: s => more [] s
      | d :: s =>
        if !quoted || border.escapes d then more [.quoted d] s
        else more [.quoted '\\'] r
    else if c = '"' && border = .braceInQuotes then more [.quotes] r
    else if quoted then more [.quoted c] r
    else if c = '\'' then
      match singleQuoted r with
      | none => .error unclosedQuotes
      | some (s, rest) => more (.quotes :: s.map Part.quoted) rest
    else if c = '"' then do
      let (w, rest) ← parts .doubleQuote fuel r
      more (.quotes :: w) rest
    else more [.plain c] r

end

def word (cs : List Char) : Except String (Word × List Char) := parts .blank (cs.length + 1) cs

def expandable (cs : List Char) : Except String (Word × List Char) :=
  parts .nothing (cs.length + 1) cs

def Part.plain? : Part → Option Char
  | .plain c => some c
  | _ => none

def Part.char? : Part → Option Char
  | .plain c | .quoted c => some c
  | _ => none

def Part.isQuoting : Part → Bool
  | .quoted _ | .quotes => true
  | _ => false

/-- The text of a word without any quoting or expansion. -/
def Word.plain? (w : Word) : Option String := (w.mapM Part.plain?).map String.ofList

/-- The lines up to one that is the delimiter, what follows it, and how many lines were taken. -/
def linesUntil (delimiter : List Char) (strips : Bool) :
    Nat → List Char → List Char × List Char × Nat
  | 0, cs => ([], cs, 0)
  | _, [] => ([], [], 0)
  | fuel + 1, cs =>
    let line := cs.takeWhile (· ≠ '\n')
    let rest := cs.drop (line.length + 1)
    let line := if strips then line.dropWhile (· = '\t') else line
    if line = delimiter then ([], rest, 1)
    else
      let (body, after, n) := linesUntil delimiter strips fuel rest
      (line ++ '\n' :: body, after, n + 1)

/-- A document and the script without it. -/
structure Document where
  body : Word
  rest : List Char
  lines : Nat

/-- A text that stands in the lines below the command: its delimiter is read, the lines are taken
out of the script, and nothing is expanded in them if the delimiter is quoted. -/
def document (strips : Bool) (cs : List Char) : Except String Document := do
  let (delimiter, rest) ← word cs
  let line := rest.takeWhile (· ≠ '\n')
  let below := rest.drop (line.length + 1)
  let (text, after, n) :=
    linesUntil (delimiter.filterMap Part.char?) strips (below.length + 1) below
  if delimiter.any Part.isQuoting then
    return ⟨text.map Part.quoted, line ++ '\n' :: after, n⟩
  else
    let (body, _) ← expandable text
    return ⟨body, line ++ '\n' :: after, n⟩

def operator? : List Char → Option (String × List Char)
  | '&' :: '&' :: r => some ("&&", r)
  | '&' :: r => some ("&", r)
  | '|' :: '|' :: r => some ("||", r)
  | '|' :: r => some ("|", r)
  | ';' :: ';' :: r => some (";;", r)
  | ';' :: r => some (";", r)
  | '(' :: r => some ("(", r)
  | ')' :: r => some (")", r)
  | _ => none

def redirection? : List Char → Option (Redirection × Nat × List Char)
  | '<' :: '&' :: r => some (.copyIn, 0, r)
  | '<' :: '>' :: r => some (.both, 0, r)
  | '<' :: '<' :: _ => none
  | '<' :: r => some (.read, 0, r)
  | '>' :: '>' :: r => some (.append, 1, r)
  | '>' :: '&' :: r => some (.copyOut, 1, r)
  | '>' :: '|' :: r => some (.overwrite, 1, r)
  | '>' :: r => some (.write, 1, r)
  | _ => none

/-- The digit in front of a redirection: the stream that it is for. -/
def descriptor? : List Char → Option Nat × List Char
  | d :: c :: r => if d.isDigit && (c = '<' || c = '>') then (some (d.toNat - 48), c :: r)
    else (none, d :: c :: r)
  | cs => (none, cs)

def newlines (cs : List Char) : Nat := cs.count '\n'

/-- All tokens of a text, without blanks and comments. `jump` is the number of lines that were taken
out below the current one. -/
def tokensFrom : Nat → Nat → Nat → List Char → List Lexeme
  | 0, line, _, _ => [⟨.finish, line⟩]
  | _, line, _, [] => [⟨.finish, line⟩]
  | fuel + 1, line, jump, c :: r =>
    if isBlank c then tokensFrom fuel line jump r
    else if c = '#' then tokensFrom fuel line jump (r.dropWhile (· ≠ '\n'))
    else if c = '\n' then ⟨.newline, line + jump + 1⟩ :: tokensFrom fuel (line + jump + 1) 0 r
    else if c = '\\' && r.head? = some '\n' then tokensFrom fuel (line + 1) jump (r.drop 1)
    else match operator? (c :: r) with
      | some (text, rest) => ⟨.operator text, line⟩ :: tokensFrom fuel line jump rest
      | none =>
        let (d, cs) := descriptor? (c :: r)
        match redirection? cs, cs with
        | some (kind, usual, rest), _ =>
          ⟨.redirection (d.getD usual) kind, line⟩ :: tokensFrom fuel line jump rest
        | none, '<' :: '<' :: rest =>
          let strips := rest.head? = some '-'
          let rest := (if strips then rest.drop 1 else rest).dropWhile isBlank
          if rest.head?.all endsWord then
            ⟨.redirection (d.getD 0) .read, line⟩ :: tokensFrom fuel line jump rest
          else match document strips rest with
            | .error message => [⟨.fault message, line⟩]
            | .ok x =>
              ⟨.document (d.getD 0) x.body, line⟩ :: tokensFrom fuel line (jump + x.lines) x.rest
        | none, _ =>
          match word (c :: r) with
          | .error message => [⟨.fault message, line + newlines (c :: r)⟩]
          | .ok (w, rest) =>
            let line := line + newlines ((c :: r).take (r.length + 1 - rest.length))
            ⟨.word w, line⟩ :: tokensFrom fuel line jump rest

def tokens (text : List Char) : List Lexeme := tokensFrom (text.length + 1) 1 0 text

end DumpWorkbench.Shell
