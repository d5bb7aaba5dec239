import TraceScope.Inventory.Document
import TraceScope.Json.Reader
import TraceScope.Web.Options
import TraceScope.Web.Response

/-!
# Uploaded files

Segments and their inventory can be uploaded as files. The segment file is kept in a folder under a
plain name while it is analysed, and removed afterwards.
-/

namespace TraceScope

structure SentFile where
  name : String
  content : ByteArray

structure Form where
  files : List (String × SentFile) := []
  fields : List (String × String) := []

namespace Upload

def segmentsName : String := "file"

def inventoryName : String := "inventory"

def options (form : Form) : Value :=
  .object (form.fields.map fun field => (field.1, .text field.2))

/-- Whether a name ends in the extension of JSON files. -/
def isJsonName (name : String) : Bool :=
  let cs := name.toList
  cs.contains '.' &&
    (Text.ofChars (cs.reverse.takeWhile (· ≠ '.')).reverse).lower = "json"

def readSetup (stack : Stack) (form : Form) (inventory : ByteArray) :
    Except Fault (Config × Inventory) := do
  let config ← Config.ofOptions stack (options form)
  let inventory ← Inventory.ofValue (← Json.readBytes stack inventory)
  return (config, inventory)

def removeFrom (server : Server) (path : Text) (folder : Folder) : Folder × Option Fault :=
  match folder.entry path with
  | .error f => (folder, some f)
  | .ok place =>
    match server.removing place with
    | some f => (folder, some f)
    | none => (folder.remove place, none)

/-- Stores the segment file, answers the analysis of it, and removes it whatever the answer is. A
file that cannot be stored to its end is not removed. -/
def respondToFiles (server : Server) (folder : Folder) (form : Form)
    (segments inventory : SentFile) : Folder × Response :=
  match readSetup server.stack form inventory.content with
  | .error f => (folder, server.unreadable f)
  | .ok (config, inv) =>
    let name : Text := server.plainName segments.name
    match folder.target name with
    | .error _ => (folder, .serverError)
    | .ok place =>
      match folder.store (server.storing place segments.content) place segments.content with
      | (folder, some _) => (folder, .serverError)
      | (folder, none) =>
        let answer := server.ofAnalysis inv config (server.process folder name)
        match removeFrom server name folder with
        | (folder, none) => (folder, answer)
        | (folder, some _) => (folder, .serverError)

def respondToForm (server : Server) (folder : Folder) (form : Form) : Folder × Response :=
  match form.files.lookup segmentsName, form.files.lookup inventoryName with
  | some segments, some inventory =>
    if segments.name.isEmpty || inventory.name.isEmpty then
      (folder, server.problem 400 "No file selected")
    else if isJsonName segments.name && isJsonName inventory.name then
      respondToFiles server folder form segments inventory
    else (folder, server.problem 400 "Invalid file type. Only JSON files are allowed.")
  | _, _ => (folder, server.problem 400 "Both a segment file and an inventory file are required")

/-- Answers an upload, and tells what is in the folder afterwards. -/
def respond (server : Server) (folder : Folder) (request : Incoming Form) : Folder × Response :=
  match request.taken with
  | .ok form => respondToForm server folder form
  | .error refusal => (folder, refusal)

end Upload

end TraceScope
