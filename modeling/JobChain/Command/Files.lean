import JobChain.Text.Quoted

/-!
# Files in a directory

A path is looked up step by step in a directory of files and further directories.  Where a path is
shown or opened, empty steps and those that stay in place are left out first.  Paths and their steps
have a greatest length, counted in bytes, and no path holds the character zero.

* `Folder.lookup`: what a path leads to.
* `cleanPath`: a path without needless steps.
-/

namespace JobChain.Command

/-- What a path leads to. -/
inductive Target where
  | file (content : List UInt8)
  | directory
  | missing
  | throughFile
  | tooLong
  | unusable
deriving DecidableEq, Repr

/-- The steps of a path. -/
def stepsOf (path : String) : List String := path.splitOn "/"

/-- A path without the steps that stay in place. -/
def cleanPath (path : String) : String :=
  let steps := (stepsOf path).filter fun s => s != "" && s != "."
  let cleaned := "/".intercalate steps
  if path.startsWith "//" && !path.startsWith "///" then "//" ++ cleaned
  else if path.startsWith "/" then "/" ++ cleaned
  else if cleaned = "" then "." else cleaned

/-- The greatest length of a path, in bytes. -/
def longestPath : Nat := 4095

/-- The greatest length of a step, in bytes. -/
def longestStep : Nat := 255

/-- A directory: its files by path, and the paths of the directories in it. -/
structure Folder where
  files : List (String × List UInt8) := []
  folders : List String := []

namespace Folder

/-- Whether a path is that of a directory: one of its own or one that a file is in. -/
def hasFolder (folder : Folder) (path : String) : Bool :=
  folder.folders.contains path || folder.files.any fun file => file.1.startsWith (path ++ "/")

/-- What the steps of a path below `here` lead to. -/
def walk (folder : Folder) (here : List String) : List String → Target
  | [] => .directory
  | step :: rest =>
    if step = "" ∨ step = "." then walk folder here rest
    else if step = ".." then
      if !here.isEmpty then walk folder here.dropLast rest
      else if rest.all fun s => s = "" ∨ s = "." ∨ s = ".." then .directory
      else .missing
    else if longestStep < step.utf8ByteSize then .tooLong
    else
      let path := "/".intercalate (here ++ [step])
      match folder.files.lookup path with
      | some content => if rest.isEmpty then .file content else .throughFile
      | none => if folder.hasFolder path then walk folder (here ++ [step]) rest else .missing

/-- What a path leads to.  Nothing is known of what lies outside the directory but that its root is
a directory too, and the empty path leads nowhere. -/
def lookup (folder : Folder) (path : String) : Target :=
  if path.contains (Char.ofNat 0) then .unusable
  else if longestPath < path.utf8ByteSize then .tooLong
  else if path = "" then .missing
  else if path.startsWith "/" then
    if (stepsOf path).all fun s => s = "" ∨ s = "." ∨ s = ".." then .directory else .missing
  else folder.walk [] (stepsOf path)

end Folder

/-- Why a file cannot be read, in words. -/
def Target.fault (path : String) : Target → String
  | directory => "[Errno 21] Is a directory: " ++ Text.quoted path
  | throughFile => "[Errno 20] Not a directory: " ++ Text.quoted path
  | tooLong => "[Errno 36] File name too long: " ++ Text.quoted path
  | _ => "[Errno 2] No such file or directory: " ++ Text.quoted path

end JobChain.Command
