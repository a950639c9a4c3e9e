/-
# File systems

A command reads a file and may write one; what else files are is left open. A file tree
that is kept in memory is one answer. Its root is the working directory, and it knows no
links and no permissions.
-/

namespace ApiHeader.Command

/-- Files that can be read and written. -/
class FileSystem (Files : Type) where
  /-- The content of the file at a path, if there is one to be read. -/
  read? : Files → String → Option ByteArray
  /-- Whether a content was written to the file at a path, and what the attempt leaves. -/
  write : Files → String → ByteArray → Bool × Files

/-- The names of a file and of the folders it lies in, from the root on. -/
abbrev Path := List String

/-- Cut characters at each slash. -/
def cutPath (collected : List Char) : List Char → Path
  | [] => [String.ofList collected.reverse]
  | c :: rest =>
    if c == '/' then String.ofList collected.reverse :: cutPath [] rest
    else cutPath (c :: collected) rest

/-- Whether a part of a path stays where it is. -/
def staysHere (part : String) : Bool :=
  part.isEmpty || part == "."

/-- The parts of a path that lead somewhere. A path that ends like that of a folder names
no file. -/
def filePath? (text : String) : Option Path :=
  let parts := cutPath [] text.toList
  if parts.getLast?.any fun part => staysHere part || part == ".." then none
  else some (parts.filter fun part => !staysHere part)

/-- A file tree. An empty name stands for the folder itself, so that a folder without any
files can be listed. -/
structure Directory where
  files : List (Path × ByteArray)

namespace Directory

/-- Whether a path is that of the root or of a folder in which something is listed. -/
def isFolder (directory : Directory) (path : Path) : Bool :=
  path.isEmpty || directory.files.any fun file => path.isPrefixOf file.1 && path != file.1

/-- Where a part of a path leads to from a folder. Above the root is the root. -/
def enter? (directory : Directory) (folder : Path) (part : String) : Option Path :=
  if !directory.isFolder folder then none
  else if part == ".." then some folder.dropLast
  else some (folder ++ [part])

/-- The place that a path leads to. -/
def locate? (directory : Directory) (text : String) : Option Path :=
  (filePath? text).bind fun parts => parts.foldlM directory.enter? []

/-- The content of the file at a path. -/
def read? (directory : Directory) (text : String) : Option ByteArray :=
  (directory.locate? text).bind fun path => directory.files.lookup path

/-- Put a file at a place. -/
def put (directory : Directory) (path : Path) (content : ByteArray) : Directory :=
  ⟨(path, content) :: directory.files.filter fun file => file.1 != path⟩

/-- Write a file; a folder cannot be written. -/
def write (directory : Directory) (text : String) (content : ByteArray) : Bool × Directory :=
  match directory.locate? text with
  | none => (false, directory)
  | some path =>
    if directory.isFolder path then (false, directory) else (true, directory.put path content)

instance : FileSystem Directory where
  read? := read?
  write := write

end Directory

end ApiHeader.Command
