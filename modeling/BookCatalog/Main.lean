import BookCatalog.Command.Run

/-!
# The program

Reads the arguments, the variables that matter and the files that may, performs the command and
writes what it says.  There is no connection to a network: to the program every catalog is one that
cannot be reached.
-/

namespace BookCatalog

/-- What is at a path: something that can be opened but not read is a folder. -/
def entryAt (path : String) : IO (Option Entry) := do
  let opened ← try pure (some (← IO.FS.Handle.mk path .read)) catch _ => pure none
  match opened with
  | none => return none
  | some opened =>
    try pure (some (.file (← opened.readBinToEnd).toList)) catch _ => pure (some .folder)

/-- Adds what is at a path and around it, as far as it is there. -/
def observe (files : Files) (path : String) : IO Files := do
  let mut known := files
  for place in Files.upward ((Path.steps path).filter (!Path.isIdle ·)).reverse do
    let around := if Path.isAbsolute path then place else place ++ files.start
    if let some entry ← entryAt ("/" ++ Text.join "/" around.reverse) then
      known := known.put around entry
  return known

def store (before after : Files) : IO Unit := do
  for (place, entry) in after.entries.reverse do
    if before.at? place ≠ some entry then
      let path := "/" ++ Text.join "/" place.reverse
      match entry with
      | .folder => IO.FS.createDirAll path
      | .file bytes => IO.FS.writeBinFile path ⟨bytes.toArray⟩

/-- The home of the account with a number, in a list with a line of seven parts for each account. -/
def homeOf? (accounts number : String) : Option String :=
  (accounts.splitOn "\n").findSome? fun line =>
    match line.splitOn ":" with
    | [_, _, other, _, _, home, _] => if other = number then some home else none
    | _ => none

/-- The number of the account that a program runs for, in what the system says of the program. -/
def accountIn? (status : String) : Option String :=
  (status.splitOn "\n").findSome? fun line =>
    match line.splitOn "\t" with
    | "Uid:" :: number :: _ => some number
    | _ => none

/-- The home that the system keeps of the account, as far as its files say. -/
def homeOfAccount : IO (Option String) := do
  try
    let number := accountIn? (← IO.FS.readFile "/proc/self/status")
    return number.bind (homeOf? (← IO.FS.readFile "/etc/passwd"))
  catch _ => return none

/-- The variables that matter, and the home of the account. -/
def environment : IO Environment := do
  let names := ["API_URI", "BOOKSHELF_CONFIG_DIR", "XDG_CONFIG_HOME", "HOME"]
  let named ← names.filterMapM fun name => do return (← IO.getEnv name).map (name, ·)
  let home := (← homeOfAccount).map (Environment.accountHome, ·)
  return ⟨named ++ home.toList⟩

end BookCatalog

open BookCatalog

def main (args : List String) : IO UInt32 := do
  let env ← environment
  let start := ((Path.steps (← IO.currentDir).toString).filter (!Path.isIdle ·)).reverse
  let explicit := (Invocation.read args).toOption.bind Invocation.settings
  let paths := (explicit <|> env.settingsPath?).toList
  let files ← paths.foldlM observe (Files.withFolder start)
  let ((after, ending), _) := (Command.run (fun _ => .unreachable) files env args).run []
  store files after
  IO.print ending.output
  IO.eprint ending.failure
  return ending.code.toUInt32
