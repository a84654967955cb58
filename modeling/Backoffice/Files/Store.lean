import Backoffice.Files.Pathname
import Backoffice.Text.Utf8

/-!
# Files

A store of files in directories, and what a pathname leads to in it. Every name of a
pathname but the last must be that of a directory that exists, even if two dots lead
back from there. Only what saving and loading needs is here.

What the names allow, the *disk* may still refuse. It is sound unless another one is
given: a sound disk refuses nothing.

* `Files.walk`: the directory that names lead to;
* `Files.find`: what a pathname leads to;
* `Disk`: what a disk refuses, and where it gives up;
* `Files.makeDirectory`, `Files.makeDirectories`: a directory made, and all that are
  missing on the way to one;
* `Files.read`, `Files.write`: the text of a file.
-/

namespace Backoffice

/-- What a path leads to. -/
inductive Entry where
  | file (content : ByteArray)
  | directory

instance : DecidableEq Entry
  | .file a, .file b =>
    decidable_of_iff (a.data = b.data) (by rw [Entry.file.injEq, ByteArray.ext_iff])
  | .file _, .directory => isFalse nofun
  | .directory, .file _ => isFalse nofun
  | .directory, .directory => isTrue rfl

/-- What the paths of a store lead to; the root is always a directory. -/
structure Files where
  entries : List (Path × Entry)

namespace Files

/-- Why something cannot be done with files. -/
inductive Fault where
  | missing
  | isDirectory
  | notDirectory
  | alreadyExists
  | nameTooLong
  | holdsNul
  | notText
  /-- What the disk says. -/
  | disk (cause : Text)
  deriving DecidableEq, Repr

/-- The fault in words. -/
def Fault.message : Fault → Text
  | .missing => "No such file or directory (os error 2)"
  | .isDirectory => "Is a directory (os error 21)"
  | .notDirectory => "Not a directory (os error 20)"
  | .alreadyExists => "File exists (os error 17)"
  | .nameTooLong => "File name too long (os error 36)"
  | .holdsNul => "file name contained an unexpected NUL byte"
  | .notText => "stream did not contain valid UTF-8"
  | .disk cause => cause

end Files

/-- What a disk does not do, each with what it says then. -/
structure Disk where
  /-- Why it makes no directory at a path. -/
  noDirectory? : Path → Option Text
  /-- Why it does not open the file of a path for writing. -/
  noFile? : Path → Option Text
  /-- The number of octets after which it gives up writing the file of a path. -/
  room? : Path → Option (Nat × Text)

/-- The disk that refuses nothing and never gives up. -/
def Disk.sound : Disk :=
  ⟨fun _ => none, fun _ => none, fun _ => none⟩

namespace Files

/-- No file and no directory but the root. -/
def empty : Files :=
  ⟨[]⟩

/-- What a path leads to, if anything. -/
def entry? (files : Files) (path : Path) : Option Entry :=
  if path.isEmpty then some .directory
  else files.entries.findSome? fun e => if e.1 = path then some e.2 else none

/-- The store with a path leading to an entry, whatever it led to before. -/
def put (files : Files) (path : Path) (entry : Entry) : Files :=
  ⟨(path, entry) :: files.entries.filter fun e => e.1 ≠ path⟩

/-- The content of every file, by path. -/
def contents (files : Files) : List (Path × ByteArray) :=
  files.entries.filterMap fun e =>
    match e.2 with
    | .file content => some (e.1, content)
    | .directory => none

/-! ### Following a pathname -/

/-- The greatest number of octets of a name. -/
def greatestName : Nat :=
  255

/-- The greatest number of octets of a pathname. -/
def greatestPathname : Nat :=
  4095

/-- The path that a name leads to from a directory, and what is there. -/
def step (files : Files) (here : Path) (name : Text) : Except Fault (Path × Option Entry) :=
  if name = Pathname.dot then .ok (here, some .directory)
  else if name = Pathname.dots then .ok (here.dropLast, some .directory)
  else if greatestName < Text.octets name then .error .nameTooLong
  else .ok (here ++ [name], files.entry? (here ++ [name]))

/-- The directory that names lead to from the directory `here`. -/
def walk (files : Files) (here : Path) : (names : List Text) → Except Fault Path
  | [] => .ok here
  | name :: names =>
    match files.step here name with
    | .error fault => .error fault
    | .ok (there, some .directory) => walk files there names
    | .ok (_, some (.file _)) => .error .notDirectory
    | .ok (_, none) => .error .missing

/-- The directory in which the last name of a pathname is looked up, and this name. The
    root is a dot in itself. -/
def approach (files : Files) (working : Path) (pathname : Text) : Except Fault (Path × Text) :=
  if pathname.contains '\x00' then .error .holdsNul
  else if greatestPathname < Text.octets pathname then .error .nameTooLong
  else if pathname.isEmpty then .error .missing
  else
    let names := Pathname.names pathname
    (files.walk (Pathname.start working pathname) names.dropLast).map fun here =>
      (here, names.getLast?.getD Pathname.dot)

/-- What a pathname leads to. -/
def find (files : Files) (working : Path) (pathname : Text) : Except Fault Entry :=
  match files.approach working pathname with
  | .error fault => .error fault
  | .ok (here, name) =>
    match files.step here name with
    | .error fault => .error fault
    | .ok (_, none) => .error .missing
    | .ok (_, some .directory) => .ok .directory
    | .ok (_, some (.file content)) =>
      if Pathname.endsInSlash pathname then .error .notDirectory else .ok (.file content)

/-- Whether a pathname leads to a directory. -/
def hasDirectory (files : Files) (working : Path) (pathname : Text) : Bool :=
  files.find working pathname matches .ok .directory

/-! ### Making directories -/

/-- Makes the directory of a pathname in one that exists. -/
def makeDirectory (files : Files) (working : Path) (pathname : Text) (disk : Disk := .sound) :
    Except Fault Files :=
  match files.approach working pathname with
  | .error fault => .error fault
  | .ok (here, name) =>
    match files.step here name with
    | .error fault => .error fault
    | .ok (_, some _) => .error .alreadyExists
    | .ok (there, none) =>
      match disk.noDirectory? there with
      | some cause => .error (.disk cause)
      | none => .ok (files.put there .directory)

/-- Makes the directory of a pathname unless there is one. -/
def ensureDirectory (files : Files) (working : Path) (pathname : Text) (disk : Disk := .sound) :
    Except Fault Files :=
  match files.makeDirectory working pathname disk with
  | .ok made => .ok made
  | .error fault =>
    if fault = .alreadyExists ∧ files.hasDirectory working pathname then .ok files
    else .error fault

/-- Makes the directory at the end of a trail. Where the one that it belongs in is
    missing, that is made first, so a fault may come after some have been made. -/
def makeBack (files : Files) (working : Path) (anchor : Text) (back : List Text)
    (disk : Disk := .sound) : Except Fault Unit × Files :=
  match back with
  | [] => (.ok (), files)
  | name :: outer =>
    if Pathname.Trail.isIdle name then makeBack files working anchor outer disk
    else
      let pathname := Pathname.Trail.pathname ⟨anchor, name :: outer⟩
      match files.ensureDirectory working pathname disk with
      | .ok made => (.ok (), made)
      | .error .missing =>
        match makeBack files working anchor outer disk with
        | (.error fault, made) => (.error fault, made)
        | (.ok (), made) =>
          match made.ensureDirectory working pathname disk with
          | .ok made => (.ok (), made)
          | .error fault => (.error fault, made)
      | .error fault => (.error fault, files)

/-- Makes the directory of a trail, and all on the way that are missing. -/
def makeDirectories (files : Files) (working : Path) (trail : Pathname.Trail)
    (disk : Disk := .sound) : Except Fault Unit × Files :=
  files.makeBack working trail.anchor trail.back disk

/-! ### Reading and writing -/

/-- The text of a file, or nothing if a pathname leads nowhere. -/
def read (files : Files) (working : Path) (pathname : Text) : Except Fault (Option Text) :=
  match files.find working pathname with
  | .error _ => .ok none
  | .ok .directory => .error .isDirectory
  | .ok (.file content) =>
    match Text.ofOctets? content with
    | some t => .ok (some t)
    | none => .error .notText

/-- The path of the file that a pathname leads to, which may still be missing. -/
def filePath (files : Files) (working : Path) (pathname : Text) : Except Fault Path :=
  match files.approach working pathname with
  | .error fault => .error fault
  | .ok (here, name) =>
    if Pathname.endsInSlash pathname then .error .isDirectory
    else
      match files.step here name with
      | .error fault => .error fault
      | .ok (_, some .directory) => .error .isDirectory
      | .ok (there, _) => .ok there

/-- What a file has after octets were written to it, and whether it has them all. -/
def fill (disk : Disk) (path : Path) (octets : ByteArray) : Except Fault Unit × ByteArray :=
  match disk.room? path with
  | some (room, cause) =>
    if room < octets.size then (.error (.disk cause), octets.extract 0 room) else (.ok (), octets)
  | none => (.ok (), octets)

/-- Writes a text to a file. Opening the file takes away what was in it, so where the
    disk gives up, the file is left with a beginning of the text. -/
def write (files : Files) (working : Path) (pathname t : Text) (disk : Disk := .sound) :
    Except Fault Unit × Files :=
  match files.filePath working pathname with
  | .error fault => (.error fault, files)
  | .ok path =>
    match disk.noFile? path with
    | some cause => (.error (.disk cause), files)
    | none =>
      let (filled, content) := fill disk path (Text.toOctets t)
      (filled, files.put path (.file content))

end Files

end Backoffice
