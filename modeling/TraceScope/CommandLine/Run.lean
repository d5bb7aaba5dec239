import TraceScope.CommandLine.Arguments
import TraceScope.Host
import TraceScope.Inventory.Document
import TraceScope.Json.Reader
import TraceScope.Json.Writer
import TraceScope.Report

/-!
# The command line

The command reads an inventory and a segment file from a folder, analyses the segments and writes
the report to a file in the folder. It prints the configuration before it reads the files, and the
number of records of each scope after it wrote the report. Whatever fails on the way ends it, a line
that cannot be printed too.
-/

namespace TraceScope

/-- What a command runs on. A line may be refused, depending on what was printed before. -/
structure Console extends Host where
  refuses : Text → Text → Option Fault := fun _ _ => none

namespace CommandLine

structure Desk where
  printed : Text := ""
  folder : Folder

structure Outcome extends Desk where
  exitCode : Nat

def say (c : Console) (line : Text) : Step Desk := fun d =>
  match c.refuses d.printed line with
  | none => ({ d with printed := d.printed ++ line }, none)
  | some f => (d, some f)

def configurationLines (inventory segments length : Value) (thresholds : Thresholds) : List Text :=
  ["\nConfiguration:\n", "  Inventory file: " ++ inventory.display ++ "\n",
    "  Segment file: " ++ segments.display ++ "\n",
    "  Max slow SQL length: " ++ length.display ++ "\n",
    "  Slow DB thresholds: " ++ thresholds.toValue.display ++ "\n\n"]

/-- The lines that tell how many records there are of each scope, in the order of their names. -/
def countLines (r : Report) : List Text :=
  (r.counts.mergeSort fun a b => decide (a.1.name ≤ b.1.name)).map fun c =>
    "  " ++ c.1.name ++ ": " ++ Integer.text c.2 ++ "\n"

def resultLines (r : Report) (output : Text) : List Text :=
  ("Processed " ++ Integer.text r.segmentCount ++ " segments\n" : Text) :: countLines r ++
    ["\n✓ Analysis complete! Results written to " ++ output ++ "\n"]

def faultLine : Fault → Text
  | .noFile path => "Error: File '" ++ path ++ "' not found.\n"
  | f => "Error: " ++ f.message ++ "\n"

def pathOf : Value → Except Fault Text
  | .text path => .ok path
  | v => .error (.notPath v.kind)

def readInventory (stack : Stack) (folder : Folder) (path : Text) : Except Fault Inventory := do
  let text ← (Text.ofUtf8 (← folder.read path)).mapError .misencoded
  match Json.read stack text with
  | .ok doc => Inventory.ofValue doc
  | .error (.malformedJson ..) => .error (.notJson .inventory path)
  | .error f => .error f

def report (host : Host) (inventory segments : Value) (config : Config) (folder : Folder) :
    Except Fault Report := do
  let inv ← readInventory host.stack folder (← pathOf inventory)
  let path ← pathOf segments
  match host.process folder path { inventory := inv, config } with
  | (a, none) => Report.ofAnalyzer a
  | (_, some f) => .error f

/-- Writes a report to a file. The file holds what was written before a fault. -/
def writeReport (host : Host) (r : Report) (output : Text) (folder : Folder) :
    Folder × Option Fault :=
  match folder.target output with
  | .error f => (folder, some f)
  | .ok place =>
    let (text, unwritten) := Json.write host.stack r.toValue ""
    let (folder, unstored) :=
      folder.store (host.storing place text.toUTF8) place text.toUTF8
    (folder, unstored.or unwritten)

def process (c : Console) (inventory segments : Value) (config : Config) (output : Value) :
    Step Desk := fun d =>
  match do return (← report c.toHost inventory segments config d.folder, ← pathOf output) with
  | .error f => (d, some f)
  | .ok (r, path) =>
    (Step.zoom (·.folder) (fun folder d => { d with folder })
      (writeReport c.toHost r path)).andThen (.each (say c) (resultLines r path)) d

def work (c : Console) (inventory segments : Value) (s : Settings) : Step Desk :=
  .ofExcept (Config.ofValues c.stack s.maxLength s.thresholds) fun config =>
    (Step.each (say c) (configurationLines inventory segments s.maxLength
      config.thresholds)).andThen (process c inventory segments config s.output)

def runWith (c : Console) (inventory segments : Value) (s : Settings) (folder : Folder) :
    Outcome :=
  match work c inventory segments s { folder } with
  | (d, none) => { d with exitCode := 0 }
  | (d, some f) => { (say c (faultLine f) d).1 with exitCode := 1 }

def usage : Text :=
  "usage: tracescope [-h] [-o OUTPUT] [--max-slow-sql-length N] [--slow-db-threshold TYPES]\n" ++
    "                  inventory_file segment_file\n"

def run (c : Console) (args : List Text) (folder : Folder) : Outcome :=
  match parse args with
  | .settings inventory segments s => runWith c inventory segments s folder
  | .help => { exitCode := 0, printed := usage, folder }
  | .misused => { exitCode := 2, folder }

end CommandLine

end TraceScope
