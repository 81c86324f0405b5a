import DumpWorkbench.Console
import DumpWorkbench.Settings

namespace DumpWorkbench

structure Options where
  createLayout : Bool := false
  radare : Bool := false
  sifter : Bool := false
  sifterBin : Option Path := none
  radareBin : Option Path := none
  baseDir : Option Path := none
  binName : Option String := none
  threads : Option UInt32 := none
  extension : Option String := none
  config : Option Path := none
  logDir : Option Path := none
  mode : Console.Mode := .human
  verbose : Nat := 0
  quiet : Bool := false
  dryRun : Bool := false
  generateConfig : Bool := false
deriving DecidableEq, Repr

namespace Options

def operations (o : Options) : List Operation :=
  (if o.createLayout then [.createLayout] else []) ++
  (if o.radare then [.mapExtraction] else []) ++
  (if o.sifter then [.sift] else [])

/-- Quietness takes all verbosity back. -/
def verbosity (o : Options) : Nat := if o.quiet then 0 else o.verbose

def anchored (directory p : Path) : Path := if p.isAbsolute then p else directory.join p.text

/-- What replaces the settings; the base directory becomes absolute. -/
def overrides (o : Options) (directory : Path) : Settings.Overrides where
  baseDirectory := o.baseDir.map (anchored directory)
  extension := o.extension
  radare := o.radareBin
  sifter := o.sifterBin
  threads := o.threads
  logDirectory := o.logDir

def console (o : Options) (terminal : Bool) : Console := ⟨o.mode, o.verbosity, o.quiet, terminal⟩

end Options
end DumpWorkbench
