import TimelineLisp.Script

/-!
# Folders

A folder of files, looked up by path as a file system does.  A path is followed part by part: `.`
and empty parts stay in the folder, `..` leaves it, and a path through a file leads nowhere.  A path
that starts with a slash is followed from outside the folder.

Nothing is known of the world outside.  It is taken for a folder without files, which `..` does not
leave again.
-/

namespace TimelineLisp

namespace CommandLine

/-- Files by name. -/
abbrev Folder := List (String × ByteArray)

namespace Folder

/-- The world outside a folder. -/
def outside : Folder := []

/-- The parts of a path between slashes. -/
def parts (path : String) : List String :=
  (path.toList.splitOn '/').map String.ofList

/-- The part stays in the same folder. -/
def isIdle (part : String) : Bool :=
  part.isEmpty || part = "."

/-- The most bytes that a part of a path may have. -/
def longestPart : Nat := 255

/-- The most bytes that a path may have. -/
def longestPath : Nat := 4095

/-- The bytes of the file to which the parts of a path lead from the folder.  The first part that
leads nowhere decides the error. -/
def follow (folder : Folder) : List String → Except InputError ByteArray
  | [] => .error .directory
  | part :: rest =>
    if isIdle part then folder.follow rest
    else if part = ".." then outside.follow rest
    else if longestPart < part.utf8ByteSize then .error .nameTooLong
    else
      match folder.lookup part with
      | some bytes => if rest.isEmpty then .ok bytes else .error .notDirectory
      | none => .error .noFile

/-- The bytes of the file at a path, seen from the folder.  An empty path names no file. -/
def read (folder : Folder) (path : String) : Except InputError ByteArray :=
  if path.isEmpty then .error .noFile
  else if longestPath < path.utf8ByteSize then .error .nameTooLong
  else
    let start := if path.toList.head? = some '/' then outside else folder
    start.follow (parts path)

end Folder

end CommandLine

end TimelineLisp
