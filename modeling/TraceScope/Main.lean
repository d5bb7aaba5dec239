import TraceScope.CommandLine.Run
import TraceScope.Reference.Items

/-!
# The program

The program runs the command on the files that its arguments name.
-/

namespace TraceScope

inductive Found
  | file (bytes : ByteArray)
  | folder
  | nothing

/-- The code of the system for a folder in the place of a file. -/
def folderCode : UInt32 := 21

def look (path : String) : IO Found := do
  match ← (IO.FS.readBinFile path).toBaseIO with
  | .ok bytes => return .file bytes
  | .error (.noFileOrDirectory ..) => return .nothing
  | .error (.inappropriateType _ code _) =>
    return if code = folderCode then .folder else .nothing
  | .error e => throw e

def diskPath (place : Place) : String := "/" ++ (Text.intercalate "/" place).shown

def placeOf (path : String) : Place :=
  (Path.ofText path).steps.filterMap fun
    | .enter name => some name
    | _ => none

def placesOn (place : Place) : List PathStep → List Place
  | [] => [place]
  | .stay :: rest => placesOn place rest
  | .up :: rest => place :: placesOn place.dropLast rest
  | .enter name :: rest => place :: placesOn (place ++ [name]) rest

def addPlace (folder : Folder) (place : Place) : IO Folder := do
  match ← look (diskPath place) with
  | .file bytes => return folder.write place bytes
  | .folder => return { folder with folders := place :: folder.folders }
  | .nothing => return folder

def addPath (folder : Folder) (path : Text) : IO Folder :=
  let p := Path.ofText path
  (placesOn (folder.start p) p.steps).foldlM addPlace folder

def CommandLine.pathsOf (args : List Text) : List Text :=
  match parse args with
  | .settings inventory segments s =>
    [inventory, segments, s.output].filterMap fun v => (pathOf v).toOption
  | _ => []

/-- Runs the command and writes the files that it changed. -/
def execute (args : List String) : IO UInt32 := do
  let args : List Text := args.map Text.ofString
  let folder : Folder := { location := placeOf (← IO.currentDir).toString }
  let folder ← (CommandLine.pathsOf args).foldlM addPath folder
  let outcome := CommandLine.run { items := Reference.items } args folder
  for (place, _) in outcome.folder.files.entries do
    if let some bytes := outcome.folder.get? place then
      unless (folder.get? place).map (·.data) = some bytes.data do
        IO.FS.writeBinFile (diskPath place) bytes
  IO.print outcome.printed.shown
  return outcome.exitCode.toUInt32

end TraceScope

def main (args : List String) : IO UInt32 := TraceScope.execute args
