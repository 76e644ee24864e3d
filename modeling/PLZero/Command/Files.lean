/-! Files in directories, and what a path leads to among them.

A path is followed segment by segment, from the root if it begins with a slash, else from the
working directory. Every segment, also an empty one or a dot, needs a directory to stand in, so a
path that ends in a slash leads to no file. Two dots lead to the directory above, and from the root
to the root. Segments and paths have a greatest length. -/
namespace PLZero
set_option autoImplicit false

/-- Why a file gives no text. -/
inductive ReadFailure where
  | notFound
  | notDirectory
  | isDirectory
  | nameTooLong
  | notText
  /-- Any other reason, in the words of the system. -/
  | other (reason : String)
  deriving DecidableEq, Repr

def ReadFailure.reason : ReadFailure → String
  | notFound => "No such file or directory (os error 2)"
  | notDirectory => "Not a directory (os error 20)"
  | isDirectory => "Is a directory (os error 21)"
  | nameTooLong => "File name too long (os error 36)"
  | notText => "stream did not contain valid UTF-8"
  | other reason => reason

inductive FileTree.Node where
  | file (content : ByteArray)
  | directory

/-- The root directory, given by the nodes below it with their paths. -/
structure FileTree where
  nodes : List (List String × FileTree.Node)

namespace FileTree

def segments (path : String) : List String :=
  (path.toList.splitOn '/').map String.ofList

/-- Whether a segment names a node in its directory. -/
def isProper (segment : String) : Bool := segment != "" && segment != "."

/-- The directories that every system has. -/
def systemDirectories : List (List String) :=
  (["bin", "dev", "etc", "home", "lib", "media", "mnt", "opt", "proc", "root", "run", "sbin", "srv",
    "sys", "tmp", "usr", "var"].map fun d => [d])
  ++ (["bin", "lib", "local", "sbin", "share"].map fun d => ["usr", d])
  ++ (["cache", "lib", "log", "tmp"].map fun d => ["var", d])

/-- The working directory is a temporary one. What it is called is not known, so it has a name that
is no segment of any path. -/
def workingDirectory : List String := ["tmp", "/"]

/-- What is known of a system with nothing in the working directory: the directories that every
system has, and the null device, which is empty. -/
def empty : FileTree :=
  ⟨(["dev", "null"], .file .empty) :: (workingDirectory, .directory)
    :: systemDirectories.map fun d => (d, .directory)⟩

/-- Adds a node by its path from the working directory. -/
def add (t : FileTree) (path : String) (n : Node) : FileTree :=
  ⟨t.nodes ++ [(workingDirectory ++ (segments path).filter isProper, n)]⟩

/-- The node at a path, where every node has the directories on the way to it. -/
def node? (t : FileTree) (path : List String) : Option Node :=
  match t.nodes.find? fun e => e.1 == path with
  | some e => some e.2
  | none =>
    if path.isEmpty || t.nodes.any (fun e => path.isPrefixOf e.1) then some .directory else none

/-- The greatest length of a segment in bytes. -/
def maxSegment : Nat := 255

/-- The greatest length of a path in bytes. -/
def maxPath : Nat := 4095

/-- Where a segment leads to from a place, given by its path from the root. -/
def enter (t : FileTree) (place : List String) (segment : String) :
    Except ReadFailure (List String) :=
  match t.node? place with
  | none => .error .notFound
  | some (.file _) => .error .notDirectory
  | some .directory =>
    if maxSegment < segment.utf8ByteSize then .error .nameTooLong
    else if !isProper segment then .ok place
    else if segment = ".." then .ok place.dropLast
    else .ok (place ++ [segment])

def bytes (t : FileTree) (path : String) : Except ReadFailure ByteArray := do
  if maxPath < path.utf8ByteSize then throw .nameTooLong
  let start := if path.startsWith "/" then [] else workingDirectory
  let place ← (segments path).foldlM t.enter start
  match t.node? place with
  | none => .error .notFound
  | some .directory => .error .isDirectory
  | some (.file content) => .ok content

end FileTree

/-- The text that bytes encode. -/
def decodeText (content : ByteArray) : Except ReadFailure String :=
  match String.fromUTF8? content with
  | some s => .ok s
  | none => .error .notText

def FileTree.read (t : FileTree) (path : String) : Except ReadFailure String :=
  t.bytes path >>= decodeText

end PLZero
