import LintBridge.Cli.Program
/-!
The command line on a real machine. The files that a run can look at are read beforehand,
the run itself is computed, and then its texts, its log records and the files that it
changed are written. This layer starts no processes, so that every linter counts as one
that could not be started, and it has no transport for the editor protocol.
-/
namespace LintBridge.Main

/-- The variables that are looked at. -/
def variableNames : List String :=
  Config.sections.flatMap fun name =>
    let lead := "LUTELS__" ++ name.toUpper
    lead :: (Config.sectionFields name).map fun field => lead ++ "__" ++ field.1.toUpper

def readEnvironment : IO Config.Environment := do
  let found ← variableNames.mapM fun name => do
    return (← IO.getEnv name).map fun value => (name, value)
  return found.filterMap id

/-- Words that may name a file or a directory: each word, and what is attached to an option. -/
def candidates (words : List String) : List String :=
  "." :: words.flatMap fun w =>
    [w, ((Cli.splitEquals w).2).getD "", String.ofList (w.toList.drop 2)].filter fun s => !s.isEmpty

/-- What a session looks at below a workspace. -/
def workspaceFiles (root : FilePath) : List FilePath :=
  [Config.workspaceFile root, RuntimeState.path root, root.child "foreman.toml"]

/-- Take what stands at a path into a view of the file system. -/
def observe (fs : FileSystem) (p : FilePath) : IO FileSystem := do
  let place := (← IO.currentDir) / p.text
  if ← place.isDir then return fs.addDirectory p
  else if ← place.pathExists then
    try
      return fs.addFile p (← IO.FS.readBinFile place).toList false
    catch _ => return fs
  else return fs

/-- Log records for the error stream. -/
def logLines (r : Cli.Run) : List String :=
  match r.log with
  | none => []
  | some setup => r.effects.flatMap fun e =>
    match e with
    | .report entry =>
      (setup.write .program entry.record ⟨"", none, none⟩).filterMap fun line =>
        if line.1 = .stderr then some line.2 else none
    | _ => []

/-- Write the files in which two views of the file system differ. -/
def store (before after : FileSystem) : IO Unit :=
  after.entries.forM fun (place, entry) => do
    if before.entries.get? place ≠ some entry then
      let path := (FilePath.mk 1 place).text
      match entry with
      | .directory => IO.FS.createDirAll path
      | .file octets _ => IO.FS.writeBinFile path ⟨octets.toArray⟩

/-- The end of every process here. -/
def noProcess : ProcessEnd := .refused ⟨38, "Function not implemented", none⟩

def run (words : List String) : IO UInt32 := do
  let cwd := FilePath.ofText (← IO.currentDir).toString
  let home := FilePath.ofText ((← IO.getEnv "HOME").getD "/")
  let userFile := FilePath.ofText "/.config/lutels/config.yaml"
  let around : Surroundings :=
    { userFile := ⟨home.slashes, home.parts ++ userFile.parts⟩
      environment := ← readEnvironment
      packaged := ((FilePath.ofText (← IO.appPath).toString).parent.child "lute").text
      console := Console.terminal (· = ['(', ')']) 80 }
  let named := (candidates words).map FilePath.ofText
  let linters := [FilePath.ofText around.packaged, home.join (.ofText ".foreman/bin/lute")]
  let fs ← (around.userFile :: linters ++ named ++ named.flatMap workspaceFiles).foldlM observe
    ({ entries := [], workingDirectory := cwd, home } : FileSystem)
  let r := Cli.run around fs (List.replicate (2 * words.length) noProcess) words
  let stdout ← IO.getStdout
  let stderr ← IO.getStderr
  stdout.putStr r.stdout
  (logLines r).forM stderr.putStrLn
  stderr.putStr r.stderr
  store fs r.files
  match r.ending with
  | .status n => return UInt32.ofNat n
  | .failed f =>
    stderr.putStrLn f.message
    return 1

end LintBridge.Main

def main (words : List String) : IO UInt32 := LintBridge.Main.run words
