import ToolAuthoring.Files.Location
import ToolAuthoring.KeyMap

/-!
# File stores

The files that a command works on, by location, and devices that look like files. A folder exists as
soon as a file or a device lies in it; other folders are listed.
-/

namespace ToolAuthoring

/-- What a file holds: a text, or bytes that encode none. -/
inductive FileContent where
  | text (s : String)
  | bytes (data : List UInt8)
deriving DecidableEq

/-- The content with these bytes. -/
def FileContent.ofBytes (data : List UInt8) : FileContent :=
  match String.fromUTF8? ⟨data.toArray⟩ with
  | some s => .text s
  | none => .bytes data

/-- What looks like a file and holds nothing: the null device swallows what is written to it, and a
full one has no room for anything. -/
inductive Device where
  | null
  | full
deriving DecidableEq, Repr

/-- Why a file cannot be read or written. -/
inductive FileError where
  | missing
  | notFolder
  | isFolder
  | notText
  | noSpace
  | longName
deriving DecidableEq, Repr

/-- The text of a file error. -/
def FileError.message : FileError → String
  | .missing => "No such file or directory (os error 2)"
  | .notFolder => "Not a directory (os error 20)"
  | .isFolder => "Is a directory (os error 21)"
  | .notText => "stream did not contain valid UTF-8"
  | .noSpace => "No space left on device (os error 28)"
  | .longName => "File name too long (os error 36)"

/-- Files by location, folders that need not hold any, and devices. -/
structure FileStore where
  files : KeyMap Location FileContent
  folders : List Location
  devices : List (Location × Device)

namespace FileStore

/-- The store without files. -/
def empty : FileStore := ⟨.empty, [], []⟩

/-- The store of these files, under their paths. -/
def ofFiles (files : List (String × FileContent)) : FileStore :=
  ⟨.ofList (files.map fun f => (Location.ofPath f.1, f.2)), [], []⟩

/-- The places of the usual devices. -/
def usualDevices : List (Location × Device) :=
  [(["/", "dev", "null"], .null), (["/", "dev", "full"], .full)]

/-- A store with the usual devices. -/
def withDevices (store : FileStore) : FileStore :=
  { store with devices := usualDevices }

/-- Where files and devices are. -/
def occupied (store : FileStore) : List Location :=
  store.files.keys ++ store.devices.map (·.1)

/-- Whether a folder is there. The folders in which paths start and those around them always are. -/
def isFolder (store : FileStore) (here : Location) : Bool :=
  here == Location.root || here.all (· == "..") || store.folders.any here.isPrefixOf
    || store.occupied.any fun l => here.isPrefixOf l && l != here

/-- Follow the steps of a path; each is taken in a folder. -/
def follow (store : FileStore) : Location → List String → Except FileError Location
  | here, [] => .ok here
  | here, step :: steps =>
    if store.isFolder here then
      if Location.nameLimit < step.utf8ByteSize then .error .longName
      else follow store (here.enter step) steps
    else if store.occupied.contains here then .error .notFolder
    else .error .missing

/-- The location of a file that is, or could be, at the end of a path. -/
def locate (store : FileStore) (path : String) : Except FileError Location := do
  if Location.pathLimit < path.utf8ByteSize then throw .longName
  let l ← store.follow (Location.start path) (Location.steps path)
  if store.isFolder l then throw .isFolder
  return l

/-- The text of a file. -/
def read (store : FileStore) (path : String) : Except FileError String := do
  let l ← store.locate path
  match store.devices.lookup l with
  | some .null => return ""
  | some .full => throw .noSpace
  | none =>
    match store.files.get? l with
    | some (.text s) => return s
    | some (.bytes _) => throw .notText
    | none => throw .missing

/-- Write a text to a file, which is made if its folder is there. -/
def write (store : FileStore) (path s : String) : Except FileError FileStore := do
  let l ← store.locate path
  match store.devices.lookup l with
  | some .null => return store
  | some .full => throw .noSpace
  | none => return { store with files := store.files.insert l (.text s) }

/-- The files that `after` holds and `before` does not, with their plain paths. -/
def changes (before after : FileStore) : List (String × FileContent) :=
  (after.files.entries.filter fun f => before.files.get? f.1 != some f.2).map fun f =>
    (Location.path f.1, f.2)

end FileStore

end ToolAuthoring
