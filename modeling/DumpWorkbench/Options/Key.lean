namespace DumpWorkbench.Options

inductive Key where
  | createLayout
  | radare
  | sifter
  | sifterBin
  | radareBin
  | baseDir
  | binName
  | threads
  | extension
  | config
  | logDir
  | outputFormat
  | verbose
  | quiet
  | dryRun
  | generateConfig
  | help
  | version
deriving DecidableEq, Repr

namespace Key

def all : List Key :=
  [.createLayout, .radare, .sifter, .sifterBin, .radareBin, .baseDir, .binName, .threads,
    .extension, .config, .logDir, .outputFormat, .verbose, .quiet, .dryRun, .generateConfig, .help,
    .version]

def name : Key → String
  | .createLayout => "create-output-structure"
  | .radare => "radare"
  | .sifter => "sifter"
  | .sifterBin => "sifter-bin"
  | .radareBin => "radare-bin"
  | .baseDir => "base-dir"
  | .binName => "bin-name"
  | .threads => "num-threads"
  | .extension => "dmp-ext"
  | .config => "config"
  | .logDir => "log-dir"
  | .outputFormat => "output-format"
  | .verbose => "verbose"
  | .quiet => "quiet"
  | .dryRun => "dry-run"
  | .generateConfig => "generate-config"
  | .help => "help"
  | .version => "version"

def alias? : Key → Option String
  | .radare => some "map-extraction"
  | .sifter => some "sift"
  | _ => none

def hiddenAlias? : Key → Option String
  | .sifterBin => some "luau_sifter_bin"
  | .baseDir => some "base_dir"
  | .binName => some "bin_name"
  | .threads => some "num_threads"
  | .extension => some "dmp_ext"
  | _ => none

def names (k : Key) : List String := k.name :: (k.alias?.toList ++ k.hiddenAlias?.toList)

def letter? : Key → Option Char
  | .createLayout => some 'c'
  | .verbose => some 'v'
  | .quiet => some 'q'
  | .help => some 'h'
  | .version => some 'V'
  | _ => none

def valueName? : Key → Option String
  | .sifterBin | .radareBin => some "PATH"
  | .baseDir | .logDir => some "DIR"
  | .binName => some "NAME"
  | .threads => some "NUM_THREADS"
  | .extension => some "EXT"
  | .config => some "CONFIG"
  | .outputFormat => some "OUTPUT_FORMAT"
  | _ => none

def takesValue (k : Key) : Bool := k.valueName?.isSome

def possibleValues : Key → List String
  | .outputFormat => ["human", "json", "plain"]
  | _ => []

def display (k : Key) : String :=
  "--" ++ k.name ++
    match k.valueName? with
    | some v => " <" ++ v ++ ">"
    | none => if k = .verbose then "..." else ""

def about : Key → String
  | .createLayout => "Create the bins/, mem/ and searches/ directories under the base directory"
  | .radare => "Extract the memory section map with radare2 and store it under mem/"
  | .sifter => "Run luau-sifter against the dump, writing into searches/<bin-name>/"
  | .sifterBin => "Path to the luau-sifter executable"
  | .radareBin => "Path to the radare2 executable"
  | .baseDir => "Base directory for analysis"
  | .binName => "Dump name to analyze, with or without its extension"
  | .threads => "Number of sifter threads (default 3030)"
  | .extension => "Extension of the dump file (default DMP)"
  | .config => "Path to TOML configuration file"
  | .logDir => "Directory holding the rolling log file"
  | .outputFormat => "Output format for results"
  | .verbose => "Verbose output level (-v, -vv)"
  | .quiet => "Quiet mode (suppress non-essential output)"
  | .dryRun => "Dry run (show resolved paths and commands without executing)"
  | .generateConfig => "Generate a sample configuration file"
  | .help => "Print help"
  | .version => "Print version"

def ofName? (name : String) : Option Key := all.find? (·.names.contains name)

def ofLetter? (c : Char) : Option Key := all.find? (·.letter? == some c)

end Key
end DumpWorkbench.Options
