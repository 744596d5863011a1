import PlainPage.Consulted

/-!
# The program

Gathers what a run may look at, lets the run decide, and carries its outcome out.
-/

open PlainPage

/-- Everything that a stream holds. -/
partial def readAll (stream : IO.FS.Stream) (read : ByteArray) : IO ByteArray := do
  let chunk ← stream.read 65536
  if chunk.isEmpty then return read else readAll stream (read ++ chunk)

/-- What stands at a path, if anything does. -/
def probe (path : Path) : IO (Option Node) := do
  try
    let content ← IO.FS.readBinFile (String.ofList path)
    return some (.file content.toList)
  catch
    | .inappropriateType .. => return some .directory
    | _ => return none

/-- The surroundings with everything at the given paths. -/
def gather (surroundings : Surroundings) (paths : List Path) : IO Surroundings :=
  paths.eraseDups.foldlM (fun surroundings path => do
    match ← probe path with
    | some node => return surroundings.observe path node
    | none => return surroundings) surroundings

/-- The home directory, as the user names it. -/
def homeDirectory : IO (Option Path) := do
  let home ← IO.getEnv "HOME"
  let profile ← IO.getEnv "USERPROFILE"
  return (home <|> profile).map String.toList

/-- Write the page of a run to the file that the command line names. -/
def writeOutput (surroundings : Surroundings) (options : Options) (outcome : Outcome) :
    IO Unit := do
  if let some path := options.output then
    if let some content := outcome.tree.file? (surroundings.place path) then
      if outcome.code == 0 then
        IO.FS.writeBinFile (String.ofList path) content.toByteArray

/-- Print and report what a run leaves behind. -/
def deliverOutcome (outcome : Outcome) : IO UInt32 := do
  let stdout ← IO.getStdout
  stdout.write (Text.utf8 outcome.printed).toByteArray
  stdout.flush
  let stderr ← IO.getStderr
  stderr.write (Text.utf8 (outcome.report ++ outcome.usage)).toByteArray
  return outcome.code.toUInt32

/-- Run the program on its command line. -/
def main (arguments : List String) : IO UInt32 := do
  let arguments := arguments.map String.toList
  let current := Surroundings.locationOf (← IO.currentDir).toString.toList
  let surroundings : Surroundings :=
    { tree := ⟨[(current, .directory)]⟩, current, home := ← homeDirectory }
  match Options.ofArguments arguments with
  | .error _ => deliverOutcome (surroundings.run [] arguments)
  | .ok options =>
    let surroundings ← gather surroundings (surroundings.consulted options)
    let stdin ←
      if options.takesStdin then readAll (← IO.getStdin) ByteArray.empty
      else pure ByteArray.empty
    let outcome := surroundings.run stdin.toList arguments
    writeOutput surroundings options outcome
    deliverOutcome outcome
