import Blocklist.Files.Error
import Blocklist.Files.Path

/-! # Trees of files

The files and folders of a system, and what reading and writing do to them. An operation that fails
leaves all files as they were. The folders that it made before it failed stay.
-/

namespace Blocklist

/-- What a path can lead to. -/
inductive Entry where
  | folder
  | file (bytes : ByteArray)

/-- What can be wanted of the end of a path. -/
inductive FileUse where
  | read
  | write
  /-- Make a folder there. -/
  | make
  deriving Repr, DecidableEq

/-- Files and folders by the names that lead to them from the root. This is less than what a disk
can hold: there are no links, so other names never lead to the same file, and no special files such
as devices and pipes. Nor can a write stop half way: it replaces all that a file holds, or it fails.
-/
structure FileTree where
  entries : List (List String × Entry) := []
  /-- The names of the folder where a path begins unless a slash stands in front of it. -/
  home : List String := []
  /-- What the system refuses for reasons that the entries do not tell, such as a missing permission
  or a full disk. -/
  refusal : FileUse → List String → Option FileError := fun _ _ => none

/-- The names that one more part of a path leads to. There is nothing above the root. -/
def followPart (names : List String) (part : String) : List String :=
  if isIdlePart part then names
  else if part = ".." then names.dropLast
  else names ++ [part]

namespace FileTree

/-- What the names lead to. The root, `home` and the folders between them are always there. -/
def find? (tree : FileTree) (names : List String) : Option Entry :=
  if names.isPrefixOf tree.home then some .folder else tree.entries.lookup names

/-- Makes the names lead to an entry. -/
def put (tree : FileTree) (names : List String) (entry : Entry) : FileTree :=
  { tree with entries := (names, entry) :: tree.entries.filter (·.1 ≠ names) }

/-- Putting an entry changes what its names lead to and nothing else. -/
theorem find?_put {tree : FileTree} {names other : List String} {entry : Entry}
    (h : tree.find? names ≠ some .folder) :
    (tree.put names entry).find? other =
      if other = names then some entry else tree.find? other := by
  have hnames : names.isPrefixOf tree.home = false :=
    Bool.eq_false_iff.mpr fun hhome => h (if_pos hhome)
  by_cases ho : other = names
  · subst ho
    simp [find?, put, hnames]
  · by_cases hn : other.isPrefixOf tree.home
    · simp [find?, put, hn, ho]
    · have hb : (other == names) = false := by simpa using ho
      simp only [find?, put, hn, ho, if_false, List.lookup_cons, hb]
      induction tree.entries with
      | nil => rfl
      | cons e rest ih =>
        rcases e with ⟨key, value⟩
        by_cases hk : key = names
        · simpa [hk, hb, List.lookup_cons] using ih
        · simp only [List.filter_cons, ne_eq, hk, not_false_eq_true, decide_true, if_true,
            List.lookup_cons]
          split <;> simp_all

/-- Makes sure that the names lead to a folder. -/
def checkFolder (tree : FileTree) (names : List String) : Except FileError Unit :=
  match tree.find? names with
  | some .folder => .ok ()
  | some (.file _) => .error .notDirectory
  | none => .error .notFound

/-- Makes sure that the system does not refuse the use. -/
def checkUse (tree : FileTree) (use : FileUse) (names : List String) : Except FileError Unit :=
  match tree.refusal use names with
  | none => .ok ()
  | some e => .error e

/-- Largest size of a name, in bytes. -/
def nameLimit : Nat := 255

/-- Size that a whole path has to stay below, in bytes. -/
def pathLimit : Nat := 4096

/-- Makes sure that the path can be looked up at all. -/
def checkPath (path : String) : Except FileError Unit :=
  if path.contains '\x00' then .error .invalidName
  else if path.utf8ByteSize ≥ pathLimit then .error .nameTooLong
  else .ok ()

/-- Makes sure that a part of a path is not too long for a name. -/
def checkName (part : String) : Except FileError Unit :=
  if part.utf8ByteSize > nameLimit then .error .nameTooLong else .ok ()

/-- The names to which the parts of a path lead from a folder. All folders on the way have to
exist. -/
def follow (tree : FileTree) (names : List String) : List String → Except FileError (List String)
  | [] => .ok names
  | part :: rest => do
    tree.checkFolder names
    checkName part
    tree.follow (followPart names part) rest

/-- The names of the folder where a path with these parts begins. With a slash in front it begins
at the root. -/
def start (tree : FileTree) : List String → List String
  | first :: _ :: _ => if first = "" then [] else tree.home
  | _ => tree.home

/-- The names to which a path leads. The empty path leads nowhere. A path of idle parts alone leads
to where it begins. -/
def locate (tree : FileTree) (path : String) : Except FileError (List String) := do
  checkPath path
  if path = "" then throw .notFound
  else tree.follow (tree.start (pathParts path)) (pathParts path)

/-- Text of a file. -/
def readText (tree : FileTree) (path : String) : Except FileError String := do
  let names ← tree.locate path
  match tree.find? names with
  | none => throw .notFound
  | some entry =>
    tree.checkUse .read names
    match entry with
    | .folder => throw .isDirectory
    | .file bytes =>
      match String.fromUTF8? bytes with
      | some text => return text
      | none => throw .invalidText

/-- Writes a file, whose folder has to exist. What was in the file before is gone. A path with a
slash at its end cannot be that of a file. -/
def writeText (tree : FileTree) (path text : String) : Except FileError FileTree := do
  checkPath path
  let front := withoutLastSlashes path
  if path ≠ front then
    tree.checkFolder (← tree.follow (tree.start (pathParts front)) (pathParts front).dropLast)
    throw .isDirectory
  let names ← tree.locate path
  match tree.find? names with
  | some .folder => throw .isDirectory
  | _ =>
    tree.checkUse .write names
    return tree.put names (.file text.toUTF8)

/-- Makes the folders that are missing on the way along the parts of a path. The whole path is
looked up first. Once a folder was `made`, those behind it are made one by one. -/
def makeFolders (tree : FileTree) (names : List String) (made : Bool) :
    List String → Except FileError Unit × FileTree
  | [] => (.ok (), tree)
  | part :: rest =>
    let inner := followPart names part
    match checkName part, tree.find? inner with
    | .error e, _ => (.error e, tree)
    | .ok (), some .folder => tree.makeFolders inner made rest
    | .ok (), some (.file _) =>
      -- Looking up a path behind a file fails in another way than making a folder in its place.
      (.error (if made ∨ rest = [] then .alreadyExists else .notDirectory), tree)
    | .ok (), none =>
      match tree.checkUse .make inner with
      | .error e => (.error e, tree)
      | .ok () => (tree.put inner .folder).makeFolders inner true rest

/-- Makes a folder and all that are missing above it. The empty path asks for no folder. -/
def createFolders (tree : FileTree) (path : String) : Except FileError Unit × FileTree :=
  match checkPath path with
  | .error e => (.error e, tree)
  | .ok () => tree.makeFolders (tree.start (pathParts path)) false (pathParts path)

end FileTree

end Blocklist
