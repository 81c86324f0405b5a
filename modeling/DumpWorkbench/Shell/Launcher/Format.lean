import DumpWorkbench.Decimal.Shortest
import DumpWorkbench.Shell.Calculation

namespace DumpWorkbench.Shell

inductive Dialect where
  | builtin
  | program
deriving DecidableEq, Repr

def isOctal (c : Char) : Bool := '0' ≤ c && c ≤ '7'

def byteChar (n : Nat) : Char := Char.ofNat (n % 256)

def letterEscape? : Char → Option Char
  | 'a' => some '\x07'
  | 'b' => some '\x08'
  | 'e' => some '\x1b'
  | 'f' => some '\x0c'
  | 'n' => some '\n'
  | 'r' => some '\r'
  | 't' => some '\t'
  | 'v' => some '\x0b'
  | '\\' => some '\\'
  | _ => none

def octalEscape (most : Nat) (cs : List Char) : Char × List Char :=
  let ds := (cs.take most).takeWhile isOctal
  (byteChar (valueOf 8 ds), cs.drop ds.length)

def hexEscape? (most : Nat) (cs : List Char) : Option (Nat × List Char) :=
  let ds := (digitsOf 16 (cs.take most)).1
  if ds.isEmpty then none else some (valueOf 16 ds, cs.drop ds.length)

/-- What is behind a backslash: characters and the rest, or the end of all output. -/
inductive Escape where
  | text (cs rest : List Char)
  | stop
deriving DecidableEq, Repr

def formatEscape (dialect : Dialect) (cs : List Char) : Escape :=
  match cs with
  | [] => .text ['\\'] []
  | c :: r =>
    match letterEscape? c with
    | some d => .text [d] r
    | none =>
      if isOctal c then
        let (d, rest) := octalEscape 3 cs
        .text [d] rest
      else if dialect = .program then
        match c with
        | 'c' => .stop
        | '"' => .text ['"'] r
        | 'x' =>
          match hexEscape? 2 r with
          | some (n, rest) => .text [byteChar n] rest
          | none => .text ['\\', c] r
        | 'u' =>
          match hexEscape? 4 r with
          | some (n, rest) => .text (packed (String.singleton (Char.ofNat n))).toList rest
          | none => .text ['\\', c] r
        | _ => .text ['\\', c] r
      else .text ['\\', c] r

/-- An escape as texts have it: a zero stands before an octal number. -/
def textEscape (dialect : Dialect) (cs : List Char) : Escape :=
  match cs with
  | 'c' :: _ => .stop
  | '0' :: r =>
    let (d, rest) := octalEscape 3 r
    .text [d] rest
  | _ => formatEscape dialect cs

/-- A text without its escapes, and whether one of them stopped it. -/
def unescaped (dialect : Dialect) : Nat → List Char → List Char × Bool
  | 0, _ => ([], false)
  | _, [] => ([], false)
  | fuel + 1, '\\' :: r =>
    match textEscape dialect r with
    | .stop => ([], true)
    | .text cs rest =>
      let (t, stops) := unescaped dialect fuel rest
      (cs ++ t, stops)
  | fuel + 1, c :: r =>
    let (t, stops) := unescaped dialect fuel r
    (c :: t, stops)

def echoWords (escapes newline : Bool) : List String → List String × Bool × Bool
  | [] => ([], escapes, newline)
  | a :: r =>
    match a.toList with
    | '-' :: c :: cs =>
      let letters := c :: cs
      if letters.all ['n', 'e', 'E'].contains then
        let escapes := match letters.reverse.find? (· ≠ 'n') with
          | some l => l = 'e'
          | none => escapes
        echoWords escapes (newline && !letters.contains 'n') r
      else (a :: r, escapes, newline)
    | _ => (a :: r, escapes, newline)

/-- What `echo` writes. As a command it has escapes in any case, and one option only. -/
def echoText (dialect : Dialect) (args : List String) : String :=
  let (words, escapes, newline) := match dialect with
    | .program => echoWords false true args
    | .builtin =>
      match args with
      | "-n" :: r => (r, true, false)
      | _ => (args, true, true)
  let text := (" ".intercalate words).toList
  let (text, stops) := if escapes then unescaped dialect (text.length + 1) text else (text, false)
  String.ofList text ++ if newline && !stops then "\n" else ""

/-- How an argument is written. -/
structure Directive where
  left : Bool
  plus : Bool
  space : Bool
  alternate : Bool
  zero : Bool
  width : Nat
  precision : Option Nat

def Directive.place (d : Directive) (zeros : Bool) (before body : String) : String :=
  let missing := d.width - (before.length + body.length)
  let fill (c : Char) : String := String.ofList (List.replicate missing c)
  if d.left then before ++ body ++ fill ' '
  else if zeros then before ++ fill '0' ++ body
  else fill ' ' ++ before ++ body

def Directive.sign (d : Directive) (negative : Bool) : String :=
  if negative then "-" else if d.plus then "+" else if d.space then " " else ""

def Directive.text (d : Directive) (s : String) : String :=
  d.place false "" (match d.precision with
    | some n => String.ofList (s.toList.take n)
    | none => s)

def Directive.number (d : Directive) (conversion : Char) (n : Int) : String :=
  let signed := conversion = 'd' || conversion = 'i'
  let base := if conversion = 'o' then 8 else if conversion = 'x' ∨ conversion = 'X' then 16 else 10
  let magnitude := if signed then n.natAbs else bits n
  let digits := Nat.toDigits base magnitude
  let digits := if conversion = 'X' then digits.map Char.toUpper else digits
  let digits := if d.precision = some 0 ∧ magnitude = 0 then [] else digits
  let digits := List.replicate (d.precision.getD 1 - digits.length) '0' ++ digits
  let digits :=
    if d.alternate && conversion = 'o' && digits.head? ≠ some '0' then '0' :: digits else digits
  let before :=
    if signed then d.sign (n < 0)
    else if d.alternate && base = 16 && magnitude ≠ 0 then String.ofList ['0', conversion]
    else ""
  d.place (d.zero && d.precision.isNone) before (String.ofList digits)

def places (n : Nat) (point : Bool) (num den : Nat) : String :=
  let q := Binary64.roundQuotient (num * Number.power 10 n) den
  let digits := Nat.toDigits 10 q
  let digits := List.replicate (n + 1 - digits.length) '0' ++ digits
  let whole := digits.length - n
  String.ofList (digits.take whole ++ (if n = 0 ∧ !point then [] else ['.']) ++ digits.drop whole)

/-- The exponent of ten that a number has with so many places behind its first digit. -/
def exponentAt (n : Nat) (x : Binary64) : Int :=
  if x.significand = 0 then 0
  else
    let e := x.leading
    let (num, den) := x.ratio
    let shift := (n : Int) - e
    let q := Binary64.roundQuotient (num * Number.power 10 shift.toNat)
      (den * Number.power 10 (-shift).toNat)
    if Number.power 10 (n + 1) ≤ q then e + 1 else e

def withExponent (n : Nat) (point : Bool) (letter : Char) (x : Binary64) : String :=
  let e := exponentAt n x
  let (num, den) := x.ratio
  let digits := places n point (num * Number.power 10 (-e).toNat) (den * Number.power 10 e.toNat)
  let size := Nat.toDigits 10 e.natAbs
  let size := if size.length < 2 then '0' :: size else size
  digits ++ String.ofList (letter :: (if e < 0 then '-' else '+') :: size)

def trimZeros (s : String) : String :=
  let cs := s.toList
  let mantissa := cs.takeWhile fun c => c ≠ 'e' && c ≠ 'E'
  if mantissa.contains '.' then
    let kept := (mantissa.reverse.dropWhile (· = '0')).reverse
    let kept := if kept.getLast? = some '.' then kept.dropLast else kept
    String.ofList (kept ++ cs.drop mantissa.length)
  else s

def Directive.decimal (d : Directive) (conversion : Char) (x : Binary64) : String :=
  let letter := if conversion.isUpper then 'E' else 'e'
  let (num, den) := x.ratio
  let body := match conversion.toLower with
    | 'f' => places (d.precision.getD 6) d.alternate num den
    | 'e' => withExponent (d.precision.getD 6) d.alternate letter x
    | _ =>
      let p := max 1 (d.precision.getD 6)
      let e := exponentAt (p - 1) x
      let text :=
        if -4 ≤ e ∧ e < p then places (p - 1 - e).toNat d.alternate num den
        else withExponent (p - 1) d.alternate letter x
      if d.alternate then text else trimZeros text
  d.place d.zero (d.sign x.negative) body

/-- What is wrong with a number. -/
inductive Conversion where
  | whole
  | partly
  | nothing
  | tooLarge
deriving DecidableEq, Repr

def Conversion.complaint? (dialect : Dialect) (arg : String) : Conversion → Option String
  | .whole => none
  | .tooLarge =>
    match dialect with
    | .builtin => some s!"{arg}: Numerical result out of range"
    | .program => some s!"{curly arg}: Numerical result out of range"
  | .partly =>
    match dialect with
    | .builtin => some s!"{arg}: not completely converted"
    | .program => some s!"{curly arg}: value not completely converted"
  | .nothing =>
    match dialect with
    | .builtin => some s!"{arg}: expected numeric value"
    | .program => some s!"{curly arg}: expected a numeric value"

def signOf : List Char → Bool × List Char
  | '-' :: r => (true, r)
  | '+' :: r => (false, r)
  | cs => (false, cs)

/-- The whole number that an argument stands for. Behind a quote it is that of a character. -/
def wholeNumber (signed : Bool) (arg : String) : Int × Conversion :=
  match arg.toList with
  | [] => (0, .whole)
  | c :: r =>
    if c = '\'' ∨ c = '"' then ((r.head?.map (·.toNat)).getD 0, .whole)
    else
      let (negative, cs) := signOf (skipSpace (c :: r))
      match unsigned? cs with
      | none => (0, .nothing)
      | some (n, rest) =>
        let value : Int := if negative then -n else n
        let limited := if signed then clamp value else max (1 - Number.words64) (min value
          (Number.words64 - 1))
        (limited, if !rest.isEmpty then .partly else if limited = value then .whole else .tooLarge)

def decimalNumber (arg : String) : Binary64 × Conversion :=
  match arg.toList with
  | [] => (.zero false, .whole)
  | c :: r =>
    if c = '\'' ∨ c = '"' then
      let n := (r.head?.map (·.toNat)).getD 0
      ((Binary64.ofRatio false n 1).getD (.zero false), .whole)
    else
      let (negative, cs) := signOf (skipSpace (c :: r))
      let whole := cs.takeWhile Char.isDigit
      let rest := cs.drop whole.length
      let (fraction, rest) := match rest with
        | '.' :: t => (t.takeWhile Char.isDigit, t.dropWhile Char.isDigit)
        | _ => ([], rest)
      if whole.isEmpty && fraction.isEmpty then (.zero false, .nothing)
      else
        let (exponent, rest) : Int × List Char := match rest with
          | e :: t =>
            let (down, t) := signOf t
            let ds := t.takeWhile Char.isDigit
            if (e = 'e' ∨ e = 'E') ∧ !ds.isEmpty then
              let n : Int := valueOf 10 ds
              (if down then -n else n, t.drop ds.length)
            else (0, rest)
          | [] => (0, [])
        let d : Decimal := ⟨valueOf 10 (whole ++ fraction), exponent - fraction.length⟩
        let x := (Binary64.ofDecimal negative d).getD (.zero negative)
        (x, if rest.isEmpty then .whole else .partly)

/-- What is left to do and what has been done while a format is gone through. -/
structure Printing where
  args : List String
  used : Bool := false
  text : List String := []
  complaints : List String := []
  stopped : Bool := false
  /-- A complaint that ends the command. -/
  failure : Option String := none

def Printing.put (p : Printing) (s : String) : Printing := { p with text := s :: p.text }

def Printing.take (p : Printing) : String × Printing :=
  (p.args.headD "", { p with args := p.args.drop 1, used := true })

def Printing.takeWhole (dialect : Dialect) (signed : Bool) (p : Printing) : Int × Printing :=
  let (arg, p) := p.take
  let (n, conversion) := wholeNumber signed arg
  (n, { p with complaints := (conversion.complaint? dialect arg).toList ++ p.complaints })

def Printing.takeDecimal (dialect : Dialect) (p : Printing) : Binary64 × Printing :=
  let (arg, p) := p.take
  let (x, conversion) := decimalNumber arg
  (x, { p with complaints := (conversion.complaint? dialect arg).toList ++ p.complaints })

def Dialect.invalid (dialect : Dialect) (directive : String) : String :=
  match dialect with
  | .builtin => directive ++ ": invalid directive"
  | .program => directive ++ ": invalid conversion specification"

def directiveSize (dialect : Dialect) (cs : List Char) (p : Printing) :
    Int × List Char × Printing :=
  match cs with
  | '*' :: r =>
    let (n, p) := p.takeWhole dialect true
    (n, r, p)
  | _ =>
    let ds := cs.takeWhile Char.isDigit
    (valueOf 10 ds, cs.drop ds.length, p)

def printDirective (dialect : Dialect) (cs : List Char) (p : Printing) : List Char × Printing :=
  let flags := cs.takeWhile ['#', '-', '+', ' ', '0'].contains
  let (width, rest, p) := directiveSize dialect (cs.drop flags.length) p
  let (precision, rest, p) := match rest with
    | '.' :: r =>
      let (n, rest, p) := directiveSize dialect r p
      (if n < 0 then none else some n.toNat, rest, p)
    | _ => (none, rest, p)
  let rest := if dialect = .program then rest.dropWhile ['l', 'h', 'L', 'q', 'j', 'z', 't'].contains
    else rest
  let d : Directive := {
    left := flags.contains '-' || width < 0
    plus := flags.contains '+'
    space := flags.contains ' '
    alternate := flags.contains '#'
    zero := flags.contains '0'
    width := width.natAbs
    precision := precision }
  match rest with
  | [] =>
    let said := if dialect = .builtin then "missing format character"
      else dialect.invalid (String.ofList ('%' :: cs))
    ([], { p with failure := some said })
  | c :: rest =>
    if c = 's' then
      let (arg, p) := p.take
      (rest, p.put (d.text arg))
    else if c = 'b' then
      let (arg, p) := p.take
      let (text, stops) := unescaped dialect (arg.length + 1) arg.toList
      (rest, { p.put (d.text (String.ofList text)) with stopped := stops })
    else if c = 'c' then
      let (arg, p) := p.take
      (rest, p.put (d.place false "" (String.singleton (arg.toList.headD '\x00'))))
    else if ['d', 'i', 'o', 'u', 'x', 'X'].contains c then
      let (n, p) := p.takeWhole dialect (c = 'd' || c = 'i')
      (rest, p.put (d.number c n))
    else if ['e', 'E', 'f', 'F', 'g', 'G'].contains c then
      let (x, p) := p.takeDecimal dialect
      (rest, p.put (d.decimal c x))
    else
      let shown := cs.take (cs.length - rest.length)
      (rest, { p with failure := some (dialect.invalid (String.ofList ('%' :: shown))) })

def printOnce (dialect : Dialect) : Nat → List Char → Printing → Printing
  | 0, _, p => p
  | _, [], p => p
  | fuel + 1, c :: r, p =>
    if p.stopped || p.failure.isSome then p
    else if c = '\\' then
      match formatEscape dialect r with
      | .stop => { p with stopped := true }
      | .text cs rest => printOnce dialect fuel rest (p.put (String.ofList cs))
    else if c ≠ '%' then printOnce dialect fuel r (p.put (String.singleton c))
    else if r.head? = some '%' then printOnce dialect fuel (r.drop 1) (p.put "%")
    else
      let (rest, p) := printDirective dialect r p
      printOnce dialect fuel rest p

def printAll (dialect : Dialect) (format : List Char) : Nat → Printing → Printing
  | 0, p => p
  | fuel + 1, p =>
    let p := printOnce dialect (format.length + 1) format { p with used := false }
    if p.stopped || p.failure.isSome || p.args.isEmpty || !p.used then p
    else printAll dialect format fuel p

def printed (dialect : Dialect) (format : String) (args : List String) : Printing :=
  printAll dialect format.toList (args.length + 1) ⟨args, false, [], [], false, none⟩

def Printing.output (p : Printing) : String := String.join p.text.reverse

end DumpWorkbench.Shell
