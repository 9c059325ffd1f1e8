/-!
A directory of files that are known by their paths from it, and what reading a path gives. Every
directory on the way to a file exists. Paths are slash-separated names; the empty name and `.` stay
in a directory, and `..` leaves it.
-/

namespace Lox.Command

/-- Why a file cannot be read. -/
inductive FileFault where
  | notFound
  | notADirectory
  | isADirectory
  | nameTooLong
deriving DecidableEq, Repr

def FileFault.text : FileFault → String
  | .notFound =>
    "Os \x7b code: 2, kind: NotFound, message: \"No such file or directory\" \x7d"
  | .notADirectory =>
    "Os \x7b code: 20, kind: NotADirectory, message: \"Not a directory\" \x7d"
  | .isADirectory => "Os \x7b code: 21, kind: IsADirectory, message: \"Is a directory\" \x7d"
  | .nameTooLong => "Os \x7b code: 36, kind: InvalidFilename, message: \"File name too long\" \x7d"

inductive Node where
  | file (content : List UInt8)
  | directory
deriving DecidableEq, Repr

/-- Files and directories, each with the names on the way to it. -/
structure Directory where
  nodes : List (List String × Node)
deriving DecidableEq, Repr

namespace Directory

/-- Whether a name stays in the directory that it is looked up in. -/
def isStaying (name : String) : Bool := name == "" || name == "."

/-- The names on the way to the end of a path, and the directories that the path leaves again. -/
def resolve (path : String) : List String × List (List String) :=
  (path.splitOn "/").foldl (fun (place, left) name =>
    if isStaying name then (place, left)
    else if name = ".." then (place.dropLast, place :: left)
    else (place ++ [name], left)) ([], [])

/-- The directory in which nodes were put at paths, in turn. A later node takes the place of an
earlier one. -/
def ofPaths (nodes : List (String × Node)) : Directory :=
  ⟨nodes.reverse.flatMap fun (path, node) =>
    let (place, left) := resolve path
    (place, node) :: left.map (·, .directory)⟩

/-- The node at a path, which may be a directory only because something lies below it. -/
def find? (directory : Directory) (path : List String) : Option Node :=
  match directory.nodes.lookup path with
  | some node => some node
  | none => if directory.nodes.any (path.isPrefixOf ·.1) then some .directory else none

/-- The greatest number of bytes in a name. -/
def maximalName : Nat := 255

/-- The greatest number of bytes in a path. -/
def maximalPath : Nat := 4095

/-- Follow names among the directories above: nothing but directories is known of them. -/
def followOutside : List String → Except FileFault (List UInt8)
  | [] => .error .isADirectory
  | name :: names =>
    if isStaying name || name == ".." then followOutside names
    else if maximalName < name.utf8ByteSize then .error .nameTooLong
    else .error .notFound

/-- Follow names from the directory at `place`. Only a directory has names below it, also those that
stay in it or leave it. -/
def follow (directory : Directory) (place : List String) :
    List String → Except FileFault (List UInt8)
  | [] => .error .isADirectory
  | name :: names =>
    if isStaying name then directory.follow place names
    else if name = ".." then
      if place = [] then followOutside names else directory.follow place.dropLast names
    else if maximalName < name.utf8ByteSize then .error .nameTooLong
    else match directory.find? (place ++ [name]) with
      | none => .error .notFound
      | some .directory => directory.follow (place ++ [name]) names
      | some (.file content) => if names = [] then .ok content else .error .notADirectory

/-- The bytes of the file at a path. The empty path leads nowhere, and one that begins with a slash
leads out of the directory. -/
def read (directory : Directory) (path : String) : Except FileFault (List UInt8) :=
  if maximalPath < path.utf8ByteSize then .error .nameTooLong
  else match path.splitOn "/" with
    | [""] => .error .notFound
    | "" :: names => followOutside names
    | names => directory.follow [] names

/-- The names directly in the directory, in byte order. -/
def names (directory : Directory) : List String :=
  (directory.nodes.filterMap (·.1.head?)).eraseDups.mergeSort (· ≤ ·)

end Directory

end Lox.Command
