import LootRules.RuleFile

/-!
# A folder of files

Files by name, in a single folder without further folders in it, and the paths to them. A path
is followed from its start, one name at a time, and each name with another one behind it has to
be a folder. So only the folder itself and those around it can be gone through.

The folders around this one can be named, but the files in them are not held: none is found
there, and none can be put there.
-/

namespace LootRules

/-- The files of a folder, by name. -/
structure Folder where
  files : List (Text × ByteArray) := []
  deriving Inhabited

/-- What a path leads to. -/
inductive Place where
  /-- This folder, or one around it. -/
  | folder
  /-- A name in this folder if `inside`, else in one around it. A name that is `slashed` has
  a slash behind it, which asks for a folder of that name. -/
  | entry (inside : Bool) (name : Text) (slashed : Bool)
  deriving DecidableEq, Repr

namespace Folder

/-- The parts of a path between its slashes. -/
def parts : Text → List Text
  | [] => [[]]
  | c :: s =>
    if c = '/' then [] :: parts s
    else
      match parts s with
      | [] => [[c]]
      | p :: ps => (c :: p) :: ps

/-- Whether there is a file of that name. -/
def has (folder : Folder) (name : Text) : Bool := folder.files.any (·.1 = name)

/-- Where the parts of a path lead, from this folder if `inside`, else from one around it. Empty
parts and single dots stay where they are, and two dots go one folder up. The last name may be
missing; an earlier one is no folder, whether it is there or not. -/
def walk (folder : Folder) (inside : Bool) : List Text → Except FileFault Place
  | [] => .ok .folder
  | part :: rest =>
    if part.isEmpty || part = ['.'] then folder.walk inside rest
    else if part = ['.', '.'] then folder.walk false rest
    else if rest.all List.isEmpty then .ok (.entry inside part !rest.isEmpty)
    else .error (if inside && folder.has part then .notDirectory else .notFound)

/-- Where a path leads. A slash in front starts from the outermost folder. -/
def place (folder : Folder) (path : Text) : Except FileFault Place :=
  if path.contains '\x00' then .error .nullCharacter
  else folder.walk (path.head? != some '/') (parts path)

/-- The bytes of a file. A missing file is missing with a slash behind it too, and a file that is
there is no folder. -/
def read (folder : Folder) (path : Text) : Except FileFault ByteArray := do
  match ← folder.place path with
  | .folder => .error .isDirectory
  | .entry false _ _ => .error .notFound
  | .entry true name slashed =>
    match folder.files.find? (·.1 = name) with
    | none => .error .notFound
    | some (_, bytes) => if slashed then .error .notDirectory else .ok bytes

/-- The folder with a file written, in place of an earlier one of that name. A name with a slash
behind it is refused as a folder's, whether there is a file of that name or not. -/
def write (folder : Folder) (path : Text) (bytes : ByteArray) : Except FileFault Folder := do
  match ← folder.place path with
  | .folder => .error .isDirectory
  | .entry _ _ true => .error .isDirectory
  | .entry false _ false => .error .notFound
  | .entry true name false => .ok ⟨(name, bytes) :: folder.files.filter (·.1 ≠ name)⟩

/-- The bytes of the file that a whole path names. The empty path names none; as a name in a
folder it stands for the folder itself. -/
def readPath (folder : Folder) (path : Text) : Except FileFault ByteArray :=
  if path.isEmpty then .error .notFound else folder.read path

/-- The lines of a file, within the limits. -/
def readLines (folder : Folder) (path : Text) (limits : Limits) :
    Except LoadError (List Text) :=
  RuleFile.load limits path (folder.read path)

/-- The folder with a file of these lines. -/
def writeLines (folder : Folder) (path : Text) (lines : List Text) :
    Except LoadError Folder :=
  match folder.write path (RuleFile.encode lines) with
  | .ok folder => .ok folder
  | .error fault => .error (.file path fault)

end Folder

end LootRules
