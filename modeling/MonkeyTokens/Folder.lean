/- # Folders and paths

A working folder holds files by their names; a name with slashes leads through folders that exist
for it.  A path is walked name by name from the working folder, or from the root when it starts
with a slash.  Outside the working folder no file is known.

Main statement: `Folder.walk_behind_file` (nothing lies behind a file, wherever it was met).
-/
import MonkeyTokens.Fault

namespace MonkeyTokens

/-- What a working folder holds.  The names by which something is reached, one after the other,
say where it is. -/
structure Folder where
  files : List (List Text × List UInt8)
  /-- The folders, the working folder itself among them. -/
  folders : List (List Text)
deriving DecidableEq

namespace Folder

/-! ## 1. Folders made for files -/

/-- A name that leads nowhere: the empty one, as between two slashes, and a single dot. -/
def staysPut (name : Text) : Bool := name = [] || name = ['.']

/-- The name that leads to the folder above. -/
def above : Text := ['.', '.']

/-- Where a name leads when every folder on the way is made. -/
def enter (place : List Text) (name : Text) : List Text :=
  if staysPut name then place else if name = above then place.dropLast else place ++ [name]

/-- The places that names lead through, before the last of them. -/
def passedOn (place : List Text) : List Text → List (List Text)
  | [] => []
  | name :: names => place :: passedOn (enter place name) names

/-- The folder of files given by their names, in which slashes separate folders. -/
def ofNames (files : List (Text × List UInt8)) : Folder where
  files := files.map fun (name, bytes) => ((name.splitOn '/').foldl enter [], bytes)
  folders := [] :: files.flatMap fun (name, _) => passedOn [] (name.splitOn '/')

/-! ## 2. Walks -/

/-- Where a walk along a path can stand. -/
inductive Place
  /-- In the folder that these names lead to from the working folder. -/
  | folder (names : List Text)
  /-- In a folder from which no name leads to a known file. -/
  | outside
  | file (bytes : List UInt8)
deriving DecidableEq

/-- The longest name of a file or folder, in bytes. -/
def nameLimit : Nat := 255

/-- The longest path, in bytes. -/
def pathLimit : Nat := 4095

/-- What a list of names leads to from the working folder. -/
def find? (f : Folder) (names : List Text) : Option Place :=
  match f.files.lookup names with
  | some bytes => some (.file bytes)
  | none => if names ∈ f.folders then some (.folder names) else none

/-- One step of a walk.  It starts from a folder; from a file there is none, not even to stay. -/
def step (f : Folder) (place : Place) (name : Text) : Except Cause Place :=
  match place with
  | .file _ => .error .notDirectory
  | .folder names =>
    if staysPut name then .ok (.folder names)
    else if name = above then .ok (if names = [] then .outside else .folder names.dropLast)
    else if nameLimit < name.extent then .error .nameTooLong
    else
      match f.find? (names ++ [name]) with
      | some place => .ok place
      | none => .error .noSuchFile
  | .outside =>
    if staysPut name ∨ name = above then .ok .outside
    else if nameLimit < name.extent then .error .nameTooLong
    else .error .noSuchFile

/-- The walk along a list of names. -/
def walk (f : Folder) (place : Place) : List Text → Except Cause Place
  | [] => .ok place
  | name :: names => (f.step place name).bind fun place => f.walk place names

/-- The bytes of the file at a path. -/
def read (f : Folder) (path : Text) : Except Cause (List UInt8) :=
  if '\x00' ∈ path then .error .nulInName
  else if path = [] then .error .noSuchFile
  else if pathLimit < path.extent then .error .nameTooLong
  else
    let origin := if path.head? = some '/' then Place.outside else .folder []
    (f.walk origin (path.splitOn '/')).bind fun place =>
      match place with
      | .file bytes => .ok bytes
      | _ => .error .isDirectory

/-! ## 3. Laws -/

/-- **A walk goes on from where its first part ends.** -/
theorem walk_append (f : Folder) (place : Place) (names more : List Text) :
    f.walk place (names ++ more) =
      (f.walk place names).bind fun place => f.walk place more := by
  induction names generalizing place with
  | nil => rfl
  | cons name names ih =>
    simp only [List.cons_append, walk]
    cases f.step place name with
    | error cause => rfl
    | ok next => exact ih next

/-- **Nothing lies behind a file**: a walk that has reached one and goes on fails, whatever the
names behind it are. -/
theorem walk_behind_file {f : Folder} {place : Place} {names : List Text} {bytes : List UInt8}
    (h : f.walk place names = .ok (.file bytes)) (name : Text) (more : List Text) :
    f.walk place (names ++ name :: more) = .error .notDirectory := by
  rw [walk_append, h]
  rfl

end Folder

end MonkeyTokens
