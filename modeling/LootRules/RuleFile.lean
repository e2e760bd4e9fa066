import LootRules.Text.Decimal

/-!
# Rule files

A rule file is plain text with one line per rule, condition or comment. Reading a file into
lines checks two limits; writing puts a line feed behind every line. The lines themselves
are kept as they are.
-/

namespace LootRules

/-- The limits on what is edited. -/
structure Limits where
  maxLines : Nat := 3000
  /-- The length of the longest line. -/
  maxLineLength : Nat := 1024
  /-- The rows that are visible at once. -/
  pageRows : Nat := 20
  deriving DecidableEq, Repr, Inhabited

/-- What keeps a file from being read or written. -/
inductive FileFault where
  | notFound
  | isDirectory
  /-- A file is named where a folder has to be. -/
  | notDirectory
  /-- The path has a null character, which no name can have. -/
  | nullCharacter
  | notText
  | other (reason : Text)
  deriving DecidableEq, Repr

/-- What keeps the lines of a file from being loaded or saved. -/
inductive LoadError where
  | file (path : Text) (fault : FileFault)
  | lineTooLong (line length : Nat)
  | tooManyLines (limit : Nat)
  deriving DecidableEq, Repr

namespace FileFault

/-- The fault in words. -/
def message : FileFault → Text
  | notFound => "No such file or directory (os error 2)"
  | isDirectory => "Is a directory (os error 21)"
  | notDirectory => "Not a directory (os error 20)"
  | nullCharacter => "file name contained an unexpected NUL byte"
  | notText => "stream did not contain valid UTF-8"
  | other reason => reason

end FileFault

namespace LoadError

/-- The error in words. -/
def message : LoadError → Text
  | file path fault => path ++ ": ".toList ++ fault.message
  | lineTooLong line length =>
    "line ".toList ++ Text.decimal line ++ " is ".toList ++ Text.decimal length ++
      " characters long".toList
  | tooManyLines limit =>
    "rule file has more than ".toList ++ Text.decimal limit ++ " lines".toList

end LoadError

namespace RuleFile

/-- Checks lines against the limits, the first of them having the index `index`. Of two limits
that are exceeded, the one exceeded first counts, and on one line its length comes first. -/
def checkFrom (limits : Limits) (index : Nat) : List Text → Except LoadError Unit
  | [] => .ok ()
  | line :: lines =>
    if limits.maxLineLength < line.length then .error (.lineTooLong (index + 1) line.length)
    else if index = limits.maxLines then .error (.tooManyLines limits.maxLines)
    else checkFrom limits (index + 1) lines

/-- The lines of a text, if they are within the limits. -/
def splitLines (limits : Limits) (text : Text) : Except LoadError (List Text) := do
  checkFrom limits 0 (Text.lines text)
  return Text.lines text

/-- The text of a file, from its bytes. -/
def decode? (bytes : ByteArray) : Option Text := (String.fromUTF8? bytes).map String.toList

/-- The bytes of a file with these lines. -/
def encode (lines : List Text) : ByteArray := (String.ofList (Text.unlines lines)).toUTF8

/-- The lines of a file, from what reading its bytes came to. -/
def load (limits : Limits) (path : Text) (contents : Except FileFault ByteArray) :
    Except LoadError (List Text) :=
  match contents with
  | .error fault => .error (.file path fault)
  | .ok bytes =>
    match decode? bytes with
    | none => .error (.file path .notText)
    | some text => splitLines limits text

end RuleFile

end LootRules
