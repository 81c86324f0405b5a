import DumpWorkbench.Shell.Word

namespace DumpWorkbench.Shell

/-- What a stream is connected to while a command runs. -/
inductive Redirect where
  | stream (descriptor : Nat) (kind : Redirection) (target : Word)
  | document (descriptor : Nat) (body : Word)

inductive Command where
  | simple (assignments : List (String × Word)) (words : List Word) (redirects : List Redirect)
    (line : Nat)
  | pipeline (stages : List Command)
  | inverse (body : Command)
  | both (first second : Command)
  | either (first second : Command)
  | sequence (first second : Command)
  | background (body : Command)
  | redirected (body : Command) (redirects : List Redirect) (line : Nat)
  | subshell (body : Command) (redirects : List Redirect) (line : Nat)
  | choice (condition body : Command) (otherwise : Option Command)
  | each (name : String) (words : List Word) (body : Command) (line : Nat)
  | loop (goOn : Bool) (condition body : Command)
  | cases (subject : Word) (arms : List (List Word × Option Command)) (line : Nat)
  | define (name : String) (body : Command) (line : Nat)

def reserved : List String :=
  ["!", "\x7b", "\x7d", "case", "do", "done", "elif", "else", "esac", "fi", "for", "if", "in",
    "then", "until", "while"]

/-- Whether a word is recognised as a reserved word. -/
def Word.isReserved (w : Word) : Bool := w.plain?.any reserved.contains

/-- A word of the form `name=value` with an unquoted name. -/
def Word.assignment? (w : Word) : Option (String × Word) :=
  let name := w.takeWhile fun p => p.plain?.any isNameChar
  match Word.plain? name, w.drop name.length with
  | some n, .plain '=' :: value => if isName n then some (n, value) else none
  | _, _ => none

/-- Commands that are part of the language: no function takes their names, and their errors end the
shell. -/
def specialCommands : List String :=
  [".", ":", "break", "continue", "eval", "exec", "exit", "export", "local", "readonly", "return",
    "set", "shift", "times", "trap", "unset"]

/-- What a token is to the grammar. -/
inductive Sign where
  | finish
  | newline
  | redirection
  | word
  | mark (text : String)
deriving DecidableEq, Repr

def Sign.text : Sign → String
  | .finish => "end of file"
  | .newline => "newline"
  | .redirection => "redirection"
  | .word => "word"
  | .mark t => "\"" ++ t ++ "\""

/-- Reserved words count as such only where the grammar asks for them. -/
def Token.sign (keywords : Bool) : Token → Sign
  | .word w =>
    if keywords && w.isReserved then .mark (w.plain?.getD "") else .word
  | .operator t => .mark t
  | .redirection _ _ | .document _ _ => .redirection
  | .newline => .newline
  | .finish | .fault _ => .finish

def Sign.endsList : Sign → Bool
  | .finish => true
  | .mark t => [")", ";;", "do", "done", "elif", "else", "esac", "fi", "then", "\x7d"].contains t
  | _ => false

/-- A place at which a script is wrong, and what is wrong there. -/
structure ScriptFault where
  line : Nat
  message : String

abbrev Lexemes := List Lexeme

/-- The next token. -/
structure Next where
  sign : Sign
  token : Token
  line : Nat
  rest : Lexemes

def skipNewlines : Lexemes → Lexemes
  | [] => []
  | x :: r =>
    match x.token with
    | .newline => skipNewlines r
    | _ => x :: r

/-- Reads a token. The last one is never used up. -/
def next (keywords newlines : Bool) (ts : Lexemes) : Except ScriptFault Next :=
  match if newlines then skipNewlines ts else ts with
  | [] => .ok ⟨.finish, .finish, 1, []⟩
  | x :: r =>
    match x.token with
    | .fault message => .error ⟨x.line, message⟩
    | .finish => .ok ⟨.finish, .finish, x.line, x :: r⟩
    | t => .ok ⟨t.sign keywords, t, x.line, r⟩

def unexpected (n : Next) : Except ScriptFault α :=
  .error ⟨n.line, s!"{n.sign.text} unexpected"⟩

def expecting (n : Next) (text : String) : Except ScriptFault α :=
  .error ⟨n.line, n.sign.text ++ " unexpected (expecting \"" ++ text ++ "\")"⟩

def expect (text : String) (newlines : Bool) (ts : Lexemes) : Except ScriptFault Lexemes := do
  let n ← next true newlines ts
  if n.sign = .mark text then return n.rest else expecting n text

/-- The redirection of a token and the word behind it, if the token is one. -/
def redirect? (n : Next) : Except ScriptFault (Option (Redirect × Lexemes)) :=
  match n.token with
  | .document d body => .ok (some (.document d body, n.rest))
  | .redirection d kind => do
    let target ← next false false n.rest
    match target.token with
    | .word w => return some (.stream d kind w, target.rest)
    | _ => unexpected target
  | _ => .ok none

def redirects : Nat → Lexemes → Except ScriptFault (List Redirect × Lexemes)
  | 0, ts => .ok ([], ts)
  | fuel + 1, ts => do
    match ← redirect? (← next false false ts) with
    | none => return ([], ts)
    | some (x, rest) =>
      let (xs, rest) ← redirects fuel rest
      return (x :: xs, rest)

/-- The parts of a simple command. -/
structure Simple where
  assignments : List (String × Word) := []
  words : List Word := []
  redirects : List Redirect := []

def simpleParts : Nat → Simple → Lexemes → Except ScriptFault (Simple × Lexemes)
  | 0, s, ts => .ok (s, ts)
  | fuel + 1, s, ts => do
    let n ← next false false ts
    match n.token with
    | .word w =>
      match if s.words.isEmpty then w.assignment? else none with
      | some a => simpleParts fuel { s with assignments := s.assignments ++ [a] } n.rest
      | none => simpleParts fuel { s with words := s.words ++ [w] } n.rest
    | _ =>
      match ← redirect? n with
      | some (x, rest) => simpleParts fuel { s with redirects := s.redirects ++ [x] } rest
      | none => return (s, ts)

def wordsUntilEnd : Nat → Lexemes → Except ScriptFault (List Word × Lexemes)
  | 0, ts => .ok ([], ts)
  | fuel + 1, ts => do
    let n ← next false false ts
    match n.token with
    | .word w =>
      let (ws, rest) ← wordsUntilEnd fuel n.rest
      return (w :: ws, rest)
    | _ =>
      if n.sign = .newline ∨ n.sign = .mark ";" then return ([], n.rest) else unexpected n

/-- Patterns up to the parenthesis that ends them; the first token is read already. -/
def patterns : Nat → Next → Except ScriptFault (List Word × Lexemes)
  | 0, n => unexpected n
  | fuel + 1, n => do
    let w := match n.token with
      | .word w => w
      | _ => []
    let after ← next false false n.rest
    if after.sign = .mark "|" then
      let (ws, rest) ← patterns fuel (← next false false after.rest)
      return (w :: ws, rest)
    else if after.sign = .mark ")" then return ([w], after.rest)
    else expecting after ")"

def allArguments : Word := [.quotes, .parameter "@" .value [] true]

def sequenced (first : Option Command) (second : Command) : Command :=
  match first with
  | none => second
  | some c => .sequence c second

mutual

/-- Commands up to a sign that ends the list. `mayEnd` tells whether it can end before the next
command. -/
def list : Nat → Option Command → Bool → Lexemes →
    Except ScriptFault (Option Command × Lexemes)
  | 0, c, _, ts => .ok (c, ts)
  | fuel + 1, c, mayEnd, ts => do
    let n ← next true true ts
    let ts := skipNewlines ts
    if n.sign = .finish ∨ (mayEnd ∧ n.sign.endsList) then return (c, ts)
    else
      let (d, rest) ← andOr fuel ts
      let n ← next true false rest
      let c := sequenced c
      if n.sign = .mark "&" then list fuel (some (c (.background d))) true n.rest
      else if n.sign = .mark ";" then list fuel (some (c d)) true n.rest
      else if n.sign = .newline then list fuel (some (c d)) true rest
      else return (some (c d), rest)

def listUntil : Nat → String → Lexemes → Except ScriptFault (Command × Lexemes)
  | 0, _, ts => do unexpected (← next true true ts)
  | fuel + 1, text, ts => do
    let (c, rest) ← list fuel none false ts
    let n ← next true false rest
    match c with
    | some c => if n.sign = .mark text then return (c, n.rest) else expecting n text
    | none => expecting n text

def andOr : Nat → Lexemes → Except ScriptFault (Command × Lexemes)
  | 0, ts => do unexpected (← next true true ts)
  | fuel + 1, ts => do
    let (c, rest) ← pipeline fuel ts
    andOrRest fuel c rest

def andOrRest : Nat → Command → Lexemes → Except ScriptFault (Command × Lexemes)
  | 0, c, ts => .ok (c, ts)
  | fuel + 1, c, ts => do
    let n ← next true false ts
    if n.sign = .mark "&&" then
      let (d, rest) ← pipeline fuel (skipNewlines n.rest)
      andOrRest fuel (.both c d) rest
    else if n.sign = .mark "||" then
      let (d, rest) ← pipeline fuel (skipNewlines n.rest)
      andOrRest fuel (.either c d) rest
    else return (c, ts)

def pipeline : Nat → Lexemes → Except ScriptFault (Command × Lexemes)
  | 0, ts => do unexpected (← next true true ts)
  | fuel + 1, ts => do
    let n ← next true false ts
    if n.sign = .mark "!" then
      let (c, rest) ← stages fuel n.rest
      return (.inverse c, rest)
    else stages fuel ts

def stages : Nat → Lexemes → Except ScriptFault (Command × Lexemes)
  | 0, ts => do unexpected (← next true true ts)
  | fuel + 1, ts => do
    let (c, rest) ← command fuel ts
    let n ← next true false rest
    if n.sign = .mark "|" then
      let (cs, rest) ← moreStages fuel n.rest
      return (.pipeline (c :: cs), rest)
    else return (c, rest)

def moreStages : Nat → Lexemes → Except ScriptFault (List Command × Lexemes)
  | 0, ts => do unexpected (← next true true ts)
  | fuel + 1, ts => do
    let (c, rest) ← command fuel (skipNewlines ts)
    let n ← next true false rest
    if n.sign = .mark "|" then
      let (cs, rest) ← moreStages fuel n.rest
      return (c :: cs, rest)
    else return ([c], rest)

/-- One command, with the redirections behind it if it consists of several parts. -/
def command : Nat → Lexemes → Except ScriptFault (Command × Lexemes)
  | 0, ts => do unexpected (← next true true ts)
  | fuel + 1, ts => do
    let n ← next true false ts
    let grouped (parsed : Command × Lexemes) : Except ScriptFault (Command × Lexemes) := do
      let (rs, rest) ← redirects parsed.2.length parsed.2
      return (if rs.isEmpty then parsed.1 else .redirected parsed.1 rs n.line, rest)
    match n.sign with
    | .word | .redirection => simple fuel n.line ts
    | .mark "(" =>
      let (c, rest) ← listUntil fuel ")" n.rest
      let (rs, rest) ← redirects rest.length rest
      return (.subshell c rs n.line, rest)
    | .mark "\x7b" => grouped (← listUntil fuel "\x7d" n.rest)
    | .mark "if" => grouped (← conditional fuel n.rest)
    | .mark "while" => grouped (← looping fuel true n.rest)
    | .mark "until" => grouped (← looping fuel false n.rest)
    | .mark "for" => grouped (← each fuel n.rest)
    | .mark "case" =>
      let subject ← next false false n.rest
      match subject.token with
      | .word w =>
        let opening ← next true true subject.rest
        if opening.sign = .mark "in" then
          let (cs, rest) ← arms fuel opening.rest
          grouped (.cases w cs n.line, rest)
        else expecting opening "in"
      | _ => .error ⟨subject.line, s!"{subject.sign.text} unexpected (expecting word)"⟩
    | _ => unexpected n

def conditional : Nat → Lexemes → Except ScriptFault (Command × Lexemes)
  | 0, ts => do unexpected (← next true true ts)
  | fuel + 1, ts => do
    let (condition, rest) ← listUntil fuel "then" ts
    let (body, rest) ← list fuel none false rest
    let body := body.getD condition
    let n ← next true false rest
    if n.sign = .mark "elif" then
      let (otherwise, rest) ← conditional fuel n.rest
      return (.choice condition body (some otherwise), rest)
    else if n.sign = .mark "else" then
      let (otherwise, rest) ← listUntil fuel "fi" n.rest
      return (.choice condition body (some otherwise), rest)
    else if n.sign = .mark "fi" then return (.choice condition body none, n.rest)
    else expecting n "fi"

def looping : Nat → Bool → Lexemes → Except ScriptFault (Command × Lexemes)
  | 0, _, ts => do unexpected (← next true true ts)
  | fuel + 1, goOn, ts => do
    let (condition, rest) ← listUntil fuel "do" ts
    let (body, rest) ← listUntil fuel "done" rest
    return (.loop goOn condition body, rest)

def each : Nat → Lexemes → Except ScriptFault (Command × Lexemes)
  | 0, ts => do unexpected (← next true true ts)
  | fuel + 1, ts => do
    let n ← next false false ts
    let name := match n.token with
      | .word w => (Word.plain? w).getD ""
      | _ => ""
    if !isName name then .error ⟨n.line, "Bad for loop variable"⟩
    else
      let opening ← next true true n.rest
      let (ws, rest) ←
        if opening.sign = .mark "in" then wordsUntilEnd opening.rest.length opening.rest
        else if opening.sign = .mark ";" then pure ([allArguments], opening.rest)
        else pure ([allArguments], n.rest)
      let rest ← expect "do" true rest
      let (body, rest) ← listUntil fuel "done" rest
      return (.each name ws body n.line, rest)

def arms : Nat → Lexemes → Except ScriptFault (List (List Word × Option Command) × Lexemes)
  | 0, ts => do unexpected (← next true true ts)
  | fuel + 1, ts => do
    let n ← next true true ts
    if n.sign = .mark "esac" then return ([], n.rest)
    else
      let first ← if n.sign = .mark "(" then next false false n.rest else pure n
      let (ws, rest) ← patterns (first.rest.length + 1) first
      let (body, rest) ← list fuel none true rest
      let n ← next true true rest
      if n.sign = .mark "esac" then return ([(ws, body)], n.rest)
      else if n.sign = .mark ";;" then
        let (cs, rest) ← arms fuel n.rest
        return ((ws, body) :: cs, rest)
      else expecting n ";;"

def simple : Nat → Nat → Lexemes → Except ScriptFault (Command × Lexemes)
  | 0, _, ts => do unexpected (← next true true ts)
  | fuel + 1, line, ts => do
    let (s, rest) ← simpleParts (ts.length + 1) {} ts
    let n ← next false false rest
    match s.words with
    | [w] =>
      if n.sign = .mark "(" ∧ s.assignments.isEmpty ∧ s.redirects.isEmpty then
        let rest ← expect ")" false n.rest
        let name := (Word.plain? w).getD ""
        if !isName name ∨ specialCommands.contains name then
          .error ⟨((rest.head?.map (·.line)).getD line), "Bad function name"⟩
        else
          let (body, rest) ← command fuel (skipNewlines rest)
          return (.define name body line, rest)
      else return (.simple s.assignments s.words s.redirects line, rest)
    | _ => return (.simple s.assignments s.words s.redirects line, rest)

end

/-- Reads commands up to the end of the line; none if the line is empty. -/
def commandsOfLine :
    Nat → Nat → Option Command → Lexemes → Except ScriptFault (Option Command × Lexemes)
  | 0, _, c, ts => .ok (c, ts)
  | turns + 1, fuel, c, ts => do
    let n ← next true false ts
    if n.sign = .newline then return (c, n.rest)
    else if n.sign = .finish then return (c, n.rest)
    else
      let (d, rest) ← andOr fuel ts
      let n ← next true false rest
      let c := sequenced c
      if n.sign = .mark "&" then commandsOfLine turns fuel (some (c (.background d))) n.rest
      else if n.sign = .mark ";" then commandsOfLine turns fuel (some (c d)) n.rest
      else if n.sign = .newline ∨ n.sign = .finish then return (some (c d), n.rest)
      else unexpected n

def commandLine? (ts : Lexemes) : Except ScriptFault (Option Command × Lexemes) :=
  commandsOfLine (ts.length + 1) (8 * ts.length + 8) none ts

def isFinished (ts : Lexemes) : Bool :=
  match skipNewlines ts with
  | [] => true
  | x :: _ =>
    match x.token with
    | .finish => true
    | _ => false

end DumpWorkbench.Shell
