import DumpWorkbench.Shell.Launcher.Launch
import Std.Time.DateTime

namespace DumpWorkbench

/-- Calls on the system, with the place where log lines go. -/
abbrev Live := ReaderT (IO.Ref (Option Log.Sink)) IO

namespace Live

def errorCode : IO.Error → Nat
  | .alreadyExists _ n _ | .otherError n _ | .resourceBusy n _ | .resourceVanished n _
  | .unsupportedOperation n _ | .hardwareFault n _ | .unsatisfiedConstraints n _
  | .illegalOperation n _ | .protocolError n _ | .timeExpired n _ | .interrupted _ n _
  | .noFileOrDirectory _ n _ | .invalidArgument _ n _ | .permissionDenied _ n _
  | .resourceExhausted _ n _ | .inappropriateType _ n _ | .noSuchThing _ n _ => n.toNat
  | .unexpectedEof | .userError _ => 5

/-- The outcome of a call on a path. A zero byte in the path is found before the system is asked. -/
def attempt (p : Path) (call : IO α) : IO (Except IoFault α) := do
  if p.text.toList.contains '\x00' then return .error .zeroByteInPath
  try return .ok (← call) catch e => return .error (.system (errorCode e))

def present (p : Path) : IO Bool := do
  match ← attempt p (IO.FS.realPath p.text) with
  | .ok found => found.pathExists
  | .error _ => return false

def directory (p : Path) : IO Bool := do
  match ← attempt p (IO.FS.realPath p.text) with
  | .ok found => found.isDir
  | .error _ => return false

instance : Files Live where
  makeDirectories p := attempt p (IO.FS.createDirAll p.text)
  writeFile p content := attempt p (IO.FS.writeBinFile p.text ⟨content.toArray⟩)
  appendFile p content :=
    attempt p (IO.FS.withFile p.text .append fun h => h.write ⟨content.toArray⟩)
  readFile p := attempt p do return (← IO.FS.readBinFile p.text).toList
  isDirectory p := directory p
  isPresent p := present p
  isExecutable p := do return (← present p) && !(← directory p)
  remove p := do
    if ← directory p then attempt p (IO.FS.removeDirAll p.text)
    else attempt p (IO.FS.removeFile p.text)
  rename p q := attempt p (IO.FS.rename p.text q.text)
  setExecutable p executable := attempt p (IO.setAccessRights p.text
    ⟨⟨true, true, executable⟩, ⟨true, false, executable⟩, ⟨true, false, executable⟩⟩)
  list p := attempt p do
    let entries ← (← (← IO.FS.realPath p.text).readDir).toList.mapM fun e => do
      return (e.fileName, (← e.path.metadata).modified)
    return (entries.mergeSort fun a b => (compare a.2 b.2).isLE).map (·.1)
  workingDirectory := do return ⟨(← IO.currentDir).toString⟩

def now : IO Timestamp := do
  let n := (← Std.Time.Timestamp.now).toNanosecondsSinceUnixEpoch.val
  let second : Int := Duration.second
  return ⟨n / second, (n % second).toNat⟩

def printTo (channel : Channel) (text : String) : IO Unit := do
  match channel with
  | .stdout => (← IO.getStdout).putStr text
  | .stderr => (← IO.getStderr).putStr text

def writeLog (sink : Log.Sink) (e : Log.Entry) : IO Unit := do
  if sink.filter.admits e then
    let line := e.line (← now)
    let _ ← attempt sink.file (IO.FS.withFile sink.file.text .append fun h => h.putStr line)
    if sink.console.passes e.severity then printTo .stderr line

def environment : IO (List (String × String)) :=
  ["PATH", "HOME"].filterMapM fun name => return (← IO.getEnv name).map (name, ·)

instance : Host Live where
  launch words := do Shell.launch (← environment) words
  enter _ _ := return ()
  tell _ _ := return ()
  print channel text := printTo channel text
  log e := do
    match ← (← read).get with
    | some sink => writeLog sink e
    | none => return ()
  openLog sink := do (← read).set (some sink)
  closeLog := do (← read).set none
  now := now
  clock := do return ⟨← IO.monoNanosNow⟩
  environment name := IO.getEnv name
  terminal := do (← IO.getStdout).isTty

end Live
end DumpWorkbench
