import Blocklist.Files.Tree

/-! # Access to files

The three operations on files that the program needs. They are carried out on the disk, or on a tree
of files that is passed along.
-/

namespace Blocklist

/-- Programs in `m` can read and write files. -/
class FileAccess (m : Type → Type) where
  /-- Reads a file as text. -/
  readText (path : String) : m (Except FileError String)
  /-- Makes a folder and all that are missing above it. -/
  createFolders (path : String) : m (Except FileError Unit)
  /-- Writes a file anew. -/
  writeText (path text : String) : m (Except FileError Unit)

/-- Replaces the tree by the result of an operation, unless it fails. -/
def FileTree.update (operation : FileTree → Except FileError FileTree) :
    StateM FileTree (Except FileError Unit) := fun tree =>
  match operation tree with
  | .ok changed => (.ok (), changed)
  | .error e => (.error e, tree)

instance : FileAccess (StateM FileTree) where
  readText path := fun tree => (tree.readText path, tree)
  createFolders path := fun tree => tree.createFolders path
  writeText path text := FileTree.update (·.writeText path text)

/-- Makes the folders above a path that are missing. -/
def createParents {m : Type → Type} [Monad m] [FileAccess m] (path : String) :
    m (Except String Unit) :=
  match parentPath? path with
  | none => return .ok ()
  | some parent => do
    let created ← FileAccess.createFolders parent
    return created.mapError fun e => "Failed to create '" ++ parent ++ "': " ++ e.message

/-- Writes a file and makes the folders that are missing above it. A failure tells the path that it
is about and what was tried there. -/
def writeWithFolders {m : Type → Type} [Monad m] [FileAccess m] (path text : String) :
    m (Except String Unit) := do
  match ← createParents path with
  | .error message => return .error message
  | .ok () =>
    let written ← FileAccess.writeText path text
    return written.mapError fun e => "Failed to write '" ++ path ++ "': " ++ e.message

end Blocklist
