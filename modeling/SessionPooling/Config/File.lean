import SessionPooling.Config.Document
import SessionPooling.Config.Path
import SessionPooling.Log
import SessionPooling.Toml.Codec

/-! Settings kept in files. A folder knows what stands at each place below it; the three
operations load settings, write the standard file once, and save settings. -/
namespace SessionPooling

inductive FileNode where
  /-- A file with its text, or without one when its bytes are no UTF-8. -/
  | file (text : Option String)
  | folder
deriving DecidableEq

structure Folder where
  /-- How messages name the folder. -/
  name : String
  nodes : List (Place × FileNode)
deriving DecidableEq

namespace Folder

def empty (name : String) : Folder := ⟨name, []⟩

/-- A path as messages show it, which is as it was given. -/
def shown (folder : Folder) (path : String) : String := folder.name ++ "/" ++ path

/-- What stands at a place. The folder itself and those around it are always there. -/
def look (folder : Folder) (place : Place) : Except FileProblem FileNode :=
  if place.isAround then .ok .folder
  else if place.isTooLong then .error .nameTooLong
  else
    match lookup? place folder.nodes with
    | none => .error .notFound
    | some node => .ok node

/-- The place that a path leads to. All that it leads through must be folders, and at its end
there may be nothing. -/
def follow (folder : Folder) : Place → List PathPart → Except FileProblem Place
  | place, [] => .ok place
  | place, part :: rest =>
    match folder.look place with
    | .error cause => .error cause
    | .ok (.file _) => .error .notDirectory
    | .ok .folder => folder.follow (place.next part) rest

def find (folder : Folder) (path : String) : Except FileProblem FileNode := do
  let route ← Route.ofText folder.name path
  let node ← folder.look (← folder.follow [] route.parts)
  match node with
  | .folder => .ok .folder
  | .file text => if route.asksFolder then .error .notDirectory else .ok (.file text)

def has (folder : Folder) (path : String) : Bool := (folder.find path).toBool

def read (folder : Folder) (path : String) : Except FileProblem String := do
  match ← folder.find path with
  | .folder => .error .isDirectory
  | .file none => .error .notUtf8
  | .file (some text) => .ok text

def put (folder : Folder) (place : Place) (node : FileNode) : Folder :=
  { folder with nodes := (place, node) :: folder.nodes.filter fun n => n.1 != place }

def write (folder : Folder) (path : String) (text : Option String) :
    Except FileProblem Folder := do
  let route ← Route.ofText folder.name path
  let place ← folder.follow [] route.parts
  if route.asksFolder then .error .isDirectory
  else
    match folder.look place with
    | .ok .folder => .error .isDirectory
    | .ok (.file _) | .error .notFound => .ok (folder.put place (.file text))
    | .error cause => .error cause

/-- Makes the folders that are missing on a way, up to the first part that leads nowhere. -/
def pave (folder : Folder) : Place → List PathPart → Folder
  | _, [] => folder
  | place, part :: rest =>
    let place := place.next part
    match folder.look place with
    | .ok .folder => folder.pave place rest
    | .error .notFound => (folder.put place .folder).pave place rest
    | _ => folder

/-- Makes a folder, and those around it that are missing. -/
def addFolder (folder : Folder) (path : String) : Folder :=
  match Route.ofText folder.name path with
  | .ok route => folder.pave [] route.parts
  | .error _ => folder

end Folder

def Settings.logTarget : String := "spool::config"

namespace Codec

def load (codec : Codec) (folder : Folder) (path : String) :
    Except ConfigProblem Settings × List LogEntry :=
  let shown := folder.shown path
  match folder.read path with
  | .error cause => (.error (.unreadable shown cause), [])
  | .ok text =>
    match codec.parse text with
    | .error cause => (.error (.rejected shown cause), [])
    | .ok settings =>
      (.ok settings,
        [⟨.debug, Settings.logTarget, "Loaded config",
          [("path", .text shown), ("kind", .text settings.pool.kind.name)]⟩])

/-- Saves settings to a file. Nothing is written when the settings have no text. -/
def save (codec : Codec) (settings : Settings) (folder : Folder) (path : String) :
    Outcome Unit × Folder :=
  match codec.print settings with
  | .error e => (.error e, folder)
  | .panic => (.panic, folder)
  | .ok text =>
    match folder.write path (some text) with
    | .error cause => (.error (.config (.unwritable (folder.shown path) cause)), folder)
    | .ok folder => (.ok (), folder)

end Codec

namespace Settings

def ofText : String → Except ConfigProblem Settings := Toml.countingCodec.parse

def load : Folder → String → Except ConfigProblem Settings × List LogEntry :=
  Toml.countingCodec.load

def save : Settings → Folder → String → Outcome Unit × Folder := Toml.countingCodec.save

/-- Writes the standard file, unless something stands there already. -/
def writeStandard (folder : Folder) (path : String) :
    Except ConfigProblem Unit × Folder × List LogEntry :=
  if folder.has path then (.ok (), folder, [])
  else
    let shown := folder.shown path
    match folder.write path (some standardText) with
    | .error cause => (.error (.unwritableDefault shown cause), folder, [])
    | .ok folder =>
      (.ok (), folder, [⟨.info, logTarget, "Wrote default config", [("path", .text shown)]⟩])

end Settings
end SessionPooling
