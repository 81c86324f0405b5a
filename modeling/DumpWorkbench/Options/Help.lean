import DumpWorkbench.Options.Key

namespace DumpWorkbench.Options

def programName : String := "dumpsift"

def programVersion : String := "1.0.0"

def versionLine : String := programName ++ " " ++ programVersion ++ "\n"

namespace Help

def summary : String :=
  "Extract memory maps and sift memory dumps with radare2 and luau-sifter"

def introduction : String :=
  "DumpSift keeps memory dumps, radare2 section maps and luau-sifter results in a fixed layout " ++
    "under a base directory (bins/, mem/, searches/) and runs the external tools against a " ++
    "named dump."

def usage : String := "\n\nUsage: " ++ programName ++ " [OPTIONS]\n\nOptions:\n"

def examples : String :=
  "EXAMPLES:\n" ++
  "  dumpsift -c --base-dir ./analysis --bin-name crash1\n" ++
  "  dumpsift --radare --base-dir ./analysis --bin-name crash1\n" ++
  "  dumpsift --radare --sifter --base-dir ./analysis --bin-name crash1.DMP --num-threads 8\n" ++
  "  dumpsift --sifter --sifter-bin ~/luau-sifter/target/release/luau-sifter " ++
  "--base-dir ./analysis --bin-name crash1\n"

def spelling (k : Key) : String :=
  (match k.letter? with
    | some c => "  -" ++ String.ofList [c] ++ ", "
    | none => "      ") ++ k.display

def column : Nat := (Key.all.map fun k => (spelling k).length).foldl max 0 + 2

def aliasNote (k : Key) : String :=
  match k.alias? with
  | some a => "[alias: --" ++ a ++ "]"
  | none => ""

def defaultNote : String := "[default: human]"

def valuesNote (k : Key) : String :=
  "[possible values: " ++ ", ".intercalate k.possibleValues ++ "]"

def shortAbout (k : Key) : String :=
  match k with
  | .help => k.about ++ " (see more with '--help')"
  | .outputFormat => k.about ++ " " ++ defaultNote ++ " " ++ valuesNote k
  | _ => if k.alias?.isSome then k.about ++ " " ++ aliasNote k else k.about

def shortLine (k : Key) : String :=
  let name := spelling k
  name ++ String.ofList (List.replicate (column - name.length) ' ') ++ shortAbout k ++ "\n"

def short : String := summary ++ usage ++ String.join (Key.all.map shortLine) ++ "\n" ++ examples

def indent : String := "          "

def detailLines (k : Key) : List String :=
  match k with
  | .help => [k.about ++ " (see a summary with '-h')"]
  | .outputFormat =>
    [k.about, "\nPossible values:", "- human: Human-readable colored output",
      "- json:  JSON formatted output", "- plain: Plain text output", "", defaultNote]
  | _ => if k.alias?.isSome then [k.about, "", aliasNote k] else [k.about]

/-- A line of the detailed form; a line end in front of it stands before the space. -/
def detailLine (text : String) : String :=
  match text.toList with
  | '\n' :: r => "\n" ++ indent ++ String.ofList r ++ "\n"
  | _ => indent ++ text ++ "\n"

def detail (k : Key) : String :=
  spelling k ++ "\n" ++ String.join ((detailLines k).map detailLine) ++ "\n"

def detailed : String := introduction ++ usage ++ String.join (Key.all.map detail) ++ examples

end Help
end DumpWorkbench.Options
