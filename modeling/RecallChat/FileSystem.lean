import RecallChat.Fault
import RecallChat.Path

/-!
# A file system

Directories, files of bytes and database files, by their places.  A place is the list of names from
the root; relative paths start at a working directory.  A path is walked name by name, so a missing
or a non-directory name on the way is noticed where it stands.  Main operations: `lookup`,
`readBytes`, `makeDirectories`, `append`.
-/

namespace RecallChat

open RecallChat.Text

set_option autoImplicit false

/-- The names from the root to a file or directory. -/
abbrev Place := List CodePoints

/-- What a place holds; a database file holds data of its own type. -/
inductive FileEntry (δ : Type) where
  | directory
  | file (content : ByteArray)
  | database (content : δ)

/-- A tree of entries; the root is there without being listed. -/
structure FileSystem (δ : Type) where
  entries : List (Place × FileEntry δ)

/-- Why a file operation is refused. -/
inductive FileTrouble where
  | absent
  | present
  | isDirectory
  | notDirectory
  | nameTooLong
  | nulInName
  | unnameable
  deriving DecidableEq, Repr

/-- The fault of a refused file operation. -/
def FileTrouble.fault (trouble : FileTrouble) (path : CodePoints) : Fault :=
  let system (kind : OutsideKind) (number : Nat) (text : String) : Fault :=
    .outside kind
      ("[Errno " ++ toString number ++ "] " ++ text ++ ": " ++ path.quoted)
  match trouble with
  | .absent => system .fileMissing 2 "No such file or directory"
  | .present => system .fileExists 17 "File exists"
  | .isDirectory => system .isDirectory 21 "Is a directory"
  | .notDirectory => system .notDirectory 20 "Not a directory"
  | .nameTooLong => system .operatingSystem 36 "File name too long"
  | .nulInName => .outside .wrongValue "a file name with a null character"
  | .unnameable => .outside .unencodable "a file name with a surrogate"

namespace FileSystem

variable {δ : Type}

/-- The working directory, from which relative paths start. -/
def workingPlace : Place := [.ofString "tmp", .ofString "work"]

/-- A file system with an empty working directory. -/
def empty : FileSystem δ :=
  ⟨[([.ofString "tmp"], .directory), (workingPlace, .directory)]⟩

/-- What a place holds. -/
def entry? (files : FileSystem δ) (place : Place) : Option (FileEntry δ) :=
  if place = [] then some .directory
  else (files.entries.find? fun entry => entry.1 == place).map Prod.snd

/-- A file system with one place set. -/
def set (files : FileSystem δ) (place : Place) (entry : FileEntry δ) : FileSystem δ :=
  if files.entries.any fun old => old.1 == place then
    ⟨files.entries.map fun old => if old.1 == place then (place, entry) else old⟩
  else ⟨files.entries ++ [(place, entry)]⟩

/-- A place below the root holds what was set there. -/
theorem entry?_set (files : FileSystem δ) {place : Place} (below : place ≠ [])
    (entry : FileEntry δ) : entry? (files.set place entry) place = some entry := by
  have replaced : ∀ entries : List (Place × FileEntry δ),
      (entries.any fun old => old.1 == place) = true →
      ((entries.map fun old => if old.1 == place then (place, entry) else old).find?
        fun old => old.1 == place) = some (place, entry) := by
    intro entries present
    induction entries with
    | nil => cases present
    | cons old rest ih =>
      rw [List.map_cons, List.find?_cons]
      by_cases same : (old.1 == place) = true
      · rw [if_pos same]
        simp
      · rw [Bool.not_eq_true] at same
        rw [List.any_cons, same, Bool.false_or] at present
        rw [same, if_neg Bool.false_ne_true, same]
        exact ih present
  unfold entry? set
  rw [if_neg below]
  split
  next present => rw [replaced files.entries present]; rfl
  next absent =>
    have nothing : (files.entries.find? fun old => old.1 == place) = none := by
      refine List.find?_eq_none.mpr fun old member same => absent ?_
      exact List.any_eq_true.mpr ⟨old, member, same⟩
    simp [List.find?_append, nothing]

/-! ## Walking a path -/

/-- One step of a walk from a place that has to be a directory. -/
def step (files : FileSystem δ) (place : Place) (name : CodePoints) : Except FileTrouble Place :=
  match files.entry? place with
  | none => .error .absent
  | some .directory =>
    if name = Path.up then .ok place.dropLast
    else if 255 < name.byteSize then .error .nameTooLong
    else .ok (place ++ [name.fileName])
  | some _ => .error .notDirectory

/-- The place that a path leads to; the last name need not exist. -/
def walk (files : FileSystem δ) (path : Path) : Except FileTrouble Place :=
  if path.points.any CodePoints.isUnnameable then .error .unnameable
  else if path.points.contains 0 then .error .nulInName
  else if 4096 ≤ path.points.byteSize then .error .nameTooLong
  else path.parts.foldlM files.step (if path.isAbsolute then [] else workingPlace)

/-- The place and the entry that a path leads to. -/
def lookup (files : FileSystem δ) (path : Path) : Except FileTrouble (Place × FileEntry δ) := do
  let place ← files.walk path
  match files.entry? place with
  | some entry => return (place, entry)
  | none => throw .absent

/-- What a path leads to, if anything; a name that is too long is a fault even here. -/
def find? (files : FileSystem δ) (path : Path) : Except Fault (Option (FileEntry δ)) :=
  match files.lookup path with
  | .ok (_, entry) => .ok (some entry)
  | .error .nameTooLong => .error (FileTrouble.nameTooLong.fault path.points)
  | .error _ => .ok none

/-- Whether a path leads to anything. -/
def pathExists (files : FileSystem δ) (path : Path) : Except Fault Bool :=
  (files.find? path).map Option.isSome

/-- Those of several paths that lead to nothing. -/
def absent (files : FileSystem δ) (paths : List Path) : Except Fault (List Path) :=
  paths.filterM fun path => (files.pathExists path).map not

/-- Whether a path leads to a file. -/
def isFile (files : FileSystem δ) (path : Path) : Except Fault Bool :=
  (files.find? path).map fun entry => entry matches some (.file _) | some (.database _)

/-- The bytes of the file that a path leads to; a database file shows as bytes that are no text. -/
def readBytes (files : FileSystem δ) (path : Path) : Except FileTrouble ByteArray := do
  match (← files.lookup path).2 with
  | .directory => throw .isDirectory
  | .file content => return content
  | .database _ => return ⟨#[0xff]⟩

/-- A text with every line break of two characters, and every lone carriage return, as a line
feed. -/
def plainBreaks : List Char → List Char
  | '\r' :: '\n' :: rest => '\n' :: plainBreaks rest
  | '\r' :: rest => '\n' :: plainBreaks rest
  | c :: rest => c :: plainBreaks rest
  | [] => []

/-- The text of the file that a path leads to, just as it is. -/
def readExact (files : FileSystem δ) (path : Path) : Except Fault String :=
  match files.readBytes path with
  | .error trouble => .error (trouble.fault path.points)
  | .ok bytes =>
    match String.fromUTF8? bytes with
    | some text => .ok text
    | none => .error (.outside .undecodable "invalid bytes")

/-- The text of the file that a path leads to, with plain line breaks. -/
def readText (files : FileSystem δ) (path : Path) : Except Fault String :=
  (files.readExact path).map fun text => String.ofList (plainBreaks text.toList)

/-! ## Changes -/

/-- A file system in which the directory of a path exists; its parents must exist already. -/
def makeDirectory (files : FileSystem δ) (path : Path) : Except FileTrouble (FileSystem δ) := do
  let place ← files.walk path
  match files.entry? place with
  | some .directory => return files
  | some _ => throw .present
  | none => return files.set place .directory

/-- A file system in which the directories of a path exist, along the list of its components. -/
def makeDirectoriesUpTo (files : FileSystem δ) (path : Path) :
    Nat → Except FileTrouble (FileSystem δ)
  | 0 => files.makeDirectory { path with parts := [] }
  | count + 1 =>
    let prefixPath : Path := { path with parts := path.parts.take (count + 1) }
    match files.makeDirectory prefixPath with
    | .error .absent => do
      let files ← files.makeDirectoriesUpTo path count
      files.makeDirectory prefixPath
    | result => result

/-- A file system in which the directory of a path and all its parents exist. -/
def makeDirectories (files : FileSystem δ) (path : Path) : Except FileTrouble (FileSystem δ) :=
  files.makeDirectoriesUpTo path path.parts.length

/-- A file system in which the file of a path exists, empty if it is new, with its place. -/
def openForAppend (files : FileSystem δ) (path : Path) :
    Except FileTrouble (Place × FileSystem δ) := do
  let place ← files.walk path
  match files.entry? place with
  | some .directory => throw .isDirectory
  | some _ => return (place, files)
  | none =>
    match files.entry? place.dropLast with
    | some .directory => return (place, files.set place (.file .empty))
    | some _ => throw .notDirectory
    | none => throw .absent

/-- A file system in which the file of a path is there and empty. -/
def emptyFile (files : FileSystem δ) (path : Path) : Except Fault (FileSystem δ) :=
  match files.openForAppend path with
  | .ok (place, files) => .ok (files.set place (.file .empty))
  | .error trouble => .error (trouble.fault path.points)

/-- A file system with bytes added at the end of a file. -/
def append (files : FileSystem δ) (place : Place) (bytes : ByteArray) : FileSystem δ :=
  match files.entry? place with
  | some (.file content) => files.set place (.file (content ++ bytes))
  | _ => files

/-- A file system with bytes added at the end of the files of several places. -/
def appendAll (files : FileSystem δ) (places : List Place) (bytes : ByteArray) : FileSystem δ :=
  places.foldl (fun files place => files.append place bytes) files

/-- A file system with an entry put at a path, whose parents are made. -/
def put (files : FileSystem δ) (path : Path) (entry : FileEntry δ) : FileSystem δ :=
  match files.makeDirectories path.parent with
  | .error _ => files
  | .ok made =>
    match made.walk path with
    | .error _ => made
    | .ok place => made.set place entry

/-- The texts of the relative paths of everything in the working directory. -/
def listing (files : FileSystem δ) : List CodePoints :=
  files.entries.filterMap fun (place, _) =>
    if workingPlace.isPrefixOf place && place != workingPlace then
      some ([Path.slash].intercalate (place.drop workingPlace.length))
    else none

/-- A place as a path from the root. -/
def pathOfPlace (place : Place) : Path := ⟨1, place⟩

/-! ## Absolute paths

Two ways to find the absolute path of a path: over its text, and over its names.  No entry of a file
system is a link, so names can be taken away without a look at what they lead to. -/

/-- The text of an absolute path without `..`; a relative one starts at the working directory. -/
def absolutePoints (points : CodePoints) : CodePoints :=
  Path.settledPoints <|
    if (Path.ofPoints points).isAbsolute then points
    else (pathOfPlace workingPlace).points ++ Path.slash :: points

/-- The absolute path of a path; a second slash at the root is dropped. -/
def resolved (path : Path) : Path :=
  ⟨1, path.parts.foldl Path.keep (if path.isAbsolute then [] else workingPlace)⟩

/-- The place of a path by its names alone. -/
def plainPlace (path : Path) : Place := (resolved path).parts.map CodePoints.fileName

end FileSystem

end RecallChat
