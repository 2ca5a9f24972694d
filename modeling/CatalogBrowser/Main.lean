import CatalogBrowser.Command.Run

/-!
# The program

Runs the command line on the files of the machine, prints what comes of it,
and tells the causes of a failure on the standard error output.
-/

namespace CatalogBrowser

/-- The fault with an error number, which is also found with its sign
turned. -/
def FileFault.ofNumber (number : UInt32) (message : String) : FileFault :=
  if number = 20 || number = -20 then .notADirectory
  else if number = 21 || number = -21 then .isADirectory
  else if number = 36 || number = -36 then .nameTooLong
  else .other message

/-- The fault an error of the machine stands for. -/
def FileFault.ofError (e : IO.Error) : FileFault :=
  match e with
  | .noFileOrDirectory .. => .notFound
  | .alreadyExists .. => .alreadyExists
  | .inappropriateType _ number _ | .invalidArgument _ number _ =>
    .ofNumber number (toString e)
  | _ => .other (toString e)

/-- What is at a path of the machine. -/
def lookAt (path : String) : IO (Bool × Except FileFault String) := do
  try
    pure (true, textOfBytes (← IO.FS.readBinFile path))
  catch e =>
    let fault := FileFault.ofError e
    -- Something can be there and still not be read.
    pure (fault ∉ [.notFound, .notADirectory, .nameTooLong], .error fault)

/-- The directory a path lies in. -/
def directoryOf? (path : String) : Option String :=
  match (FilePath.ofString path).parent? with
  | some parent =>
    if parent.isEmpty then none
    else some ((if parent.isAbsolute then "/" else "") ++ "/".intercalate parent.names)
  | none => none

/-- Makes a directory of the machine, and those it lies in. Where that cannot
be done, the fault is that of the directory itself. -/
def ensureDirectory (path : String) : IO Unit := do
  try IO.FS.createDir path
  catch e =>
    match e with
    | .noFileOrDirectory .. => IO.FS.createDirAll path
    | _ => try IO.FS.createDirAll path catch _ => throw e

/-- Appends lines to a file of the machine. -/
def appendTo (path : String) (lines : List String) : IO (Except FileFault Unit) := do
  try
    if let some directory := directoryOf? path then ensureDirectory directory
    let handle ← IO.FS.Handle.mk path .append
    handle.putStr (String.join (lines.map (· ++ "\n")))
    pure (.ok ())
  catch e => pure (.error (FileFault.ofError e))

/-- The files of the machine. -/
def machineDisk : Disk IO where
  look paths := paths.foldlM (fun view path => do
    let (holds, text) ← lookAt path
    pure (view.override path holds text)) FileView.empty
  append := appendTo

/-- The directory of the user's configuration files. -/
def configDirectory? : IO (Option String) := do
  match ← IO.getEnv "XDG_CONFIG_HOME" with
  | some directory => if directory.startsWith "/" then pure (some directory) else fromHome
  | none => fromHome
where
  /-- The directory below the user's own. -/
  fromHome : IO (Option String) := do
    pure ((← IO.getEnv "HOME").map (· ++ "/.config"))

/-- The variables that count. -/
def variableNames : List String :=
  ["LAKEVIEW_CATALOG", "LAKEVIEW_STOP_AT_DATASETS", "LAKEVIEW_SHOW_WIKI", "LAKEVIEW_LOCALE",
    "LAKEVIEW_LOG", "LAKEVIEW_LOG_FILE", "RUST_LOG"]

/-- What a command finds around it on the machine. -/
def surroundings : IO Surroundings := do
  let values ← variableNames.mapM fun name => do
    pure (name, ← IO.getEnv name)
  let environment : Environment := fun name => (values.lookup name).join
  pure { environment, configDirectory := ← configDirectory? }

end CatalogBrowser

open CatalogBrowser in
/-- Runs the command line. -/
def main (arguments : List String) : IO UInt32 := do
  let outcome ← Command.run machineDisk (← surroundings) arguments
  IO.print outcome.text
  match outcome with
  | .failed causes => causes.forM fun cause => IO.eprintln cause
  | _ => pure ()
  pure outcome.exitCode.toUInt32
