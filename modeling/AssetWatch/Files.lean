import AssetWatch.Text.Utf8

/-!
# Files

What the program can learn about files: the content under a path, or why there is none. A
tree of directories answers as an operating system does that resolves a path step by step.
-/

namespace AssetWatch

/-- Why the content of a file cannot be had as text. -/
inductive ReadFailure
  | notFound
  | notADirectory
  | isADirectory
  | nameTooLong
  /-- The path holds a character that no name may hold. -/
  | invalidName
  /-- The content is no text. -/
  | notText
  /-- Anything else, in words. -/
  | other (description : String)
deriving DecidableEq, Repr

/-- The reason in words. -/
def ReadFailure.message : ReadFailure → String
  | notFound => "No such file or directory (os error 2)"
  | notADirectory => "Not a directory (os error 20)"
  | isADirectory => "Is a directory (os error 21)"
  | nameTooLong => "File name too long (os error 36)"
  | invalidName => "file name contained an unexpected NUL byte"
  | notText => "stream did not contain valid UTF-8"
  | other description => description

/-- The files that the program can see. -/
structure Files where
  /-- The content under a path. -/
  read : String → Except ReadFailure (List UInt8)
  /-- Whether anything stands under a path. -/
  present : String → Bool

/-- Whether a failure to read a path means that nothing stands there. -/
def ReadFailure.meansAbsent : ReadFailure → Bool
  | notFound | notADirectory | nameTooLong | invalidName => true
  | isADirectory | notText | other _ => false

/-- The files of which only one has been looked at, with what was found there. -/
def Files.single (found : Except ReadFailure (List UInt8)) : Files where
  read _ := found
  present _ := match found with
    | .ok _ => true
    | .error failure => !failure.meansAbsent

/-- The text under a path. -/
def Files.text (files : Files) (path : String) : Except ReadFailure (List Char) := do
  match Text.Utf8.decode (← files.read path) with
  | .ok text => return text
  | .error _ => .error .notText

/-- A tree of directories. -/
inductive FileTree
  | file (content : List UInt8)
  | directory (entries : List (String × FileTree))
deriving Inhabited

namespace FileTree

/-- The longest name of a file, in bytes. -/
def maxNameSize : Nat := 255

/-- The size that a path must stay below, in bytes. -/
def pathSizeLimit : Nat := 4096

/-- The steps of a path, which are empty where slashes meet. -/
def steps (path : String) : List String :=
  (path.toList.splitOn '/').map String.ofList

/-- Follows steps from a place in the tree, given with the places above it. -/
def walk : List FileTree → FileTree → List String → Except ReadFailure FileTree
  | _, here, [] => .ok here
  | _, file _, _ :: _ => .error .notADirectory
  | above, directory entries, step :: rest =>
    if step = "" || step = "." then walk above (directory entries) rest
    else if step = ".." then
      match above with
      | [] => walk [] (directory entries) rest
      | parent :: above => walk above parent rest
    else if maxNameSize < step.utf8ByteSize then .error .nameTooLong
    else
      match entries.find? (fun entry => entry.1 = step) with
      | some entry => walk (directory entries :: above) entry.2 rest
      | none => .error .notFound

/-- What stands under a path; a relative one begins at the working directory. -/
def resolve (root : FileTree) (workingDirectory path : String) :
    Except ReadFailure FileTree :=
  if path.isEmpty then .error .notFound
  else if path.toList.contains '\x00' then .error .invalidName
  else if pathSizeLimit ≤ path.utf8ByteSize then .error .nameTooLong
  else if path.toList.head? = some '/' then walk [] root (steps path)
  else walk [] root (steps workingDirectory ++ steps path)

/-- The files of a tree, as a program in the given working directory sees them. -/
def files (root : FileTree) (workingDirectory : String) : Files where
  read path := do
    match ← resolve root workingDirectory path with
    | file content => return content
    | directory _ => .error .isADirectory
  present path := (resolve root workingDirectory path).isOk

/-- Puts a tree under the given steps, with the directories that lead to it. -/
def plant (tree : FileTree) : List String → FileTree → FileTree
  | [], _ => tree
  | step :: rest, here =>
    let entries := match here with
      | directory entries => entries
      | file _ => []
    let inner := ((entries.find? (fun entry => entry.1 = step)).map (·.2)).getD (directory [])
    directory ((step, plant tree rest inner) :: entries.filter (fun entry => entry.1 ≠ step))

end FileTree

end AssetWatch
