import Mathlib.Data.List.Basic
import Blocklist.Files.Access
import Blocklist.Proofs.Fallible

/-! # What operations on files change

Making folders adds folders where nothing was, and writing a file changes what is at the end of its
path. So does an attempt at both, however far it gets. What changes is told by a relation between
the tree before and the tree after, which every step keeps and which goes on from step to step.

* `parentPath?_eq_some`: a path goes on behind the folder that it lies in;
* `EntryChange`, `FileTree.ChangesOnly`: what may differ at one place, and in the whole tree;
* `FileTree.ChangesOnly.locate`: a path that could be looked up still leads to the same place;
* `FileTree.changesOnly_makeFolders`: making folders, whether it succeeds or not;
* `FileTree.changesOnly_writeText`, `FileTree.holds_of_writeText`: writing a file;
* `FileTree.attempted`: what an attempt to write a file with the folders above it leaves behind.
-/

namespace Blocklist

/-- The second of two steps starts in the state that the first one leaves behind. -/
theorem run_bind {α β : Type} (first : StateM FileTree α) (second : α → StateM FileTree β)
    (tree : FileTree) :
    (first >>= second).run tree = (second (first.run tree).1).run (first.run tree).2 :=
  rfl

/-- A file is written in the state, unless that fails. -/
theorem run_writeText (path text : String) (tree : FileTree) :
    (FileAccess.writeText path text : StateM FileTree (Except FileError Unit)).run tree =
      match tree.writeText path text with
      | .ok changed => (.ok (), changed)
      | .error e => (.error e, tree) :=
  rfl

/-! ## The folder that a path lies in -/

theorem withoutIdleEnd_prefix (parts : List String) : withoutIdleEnd parts <+: parts := by
  cases parts with
  | nil => exact List.prefix_refl []
  | cons first rest =>
    refine ⟨(rest.reverse.takeWhile isIdlePart).reverse, ?_⟩
    rw [withoutIdleEnd, List.cons_append, ← List.reverse_append, List.takeWhile_append_dropWhile,
      List.reverse_reverse]

/-- The last part that is left is not idle, unless it is the only one. -/
theorem isIdlePart_of_withoutIdleEnd {parts front : List String} {last : String}
    (h : withoutIdleEnd parts = front ++ [last]) (hfront : front ≠ []) :
    isIdlePart last = false := by
  rcases parts with _ | ⟨first, rest⟩
  · cases front <;> cases h
  · rcases front with _ | ⟨head, front⟩
    · exact absurd rfl hfront
    · rw [withoutIdleEnd, List.cons_append, List.cons.injEq] at h
      -- Read backwards, the last part is the first one that is not skipped.
      have hdrop : rest.reverse.dropWhile isIdlePart = last :: front.reverse := by
        rw [List.reverse_eq_iff.mp h.2]
        simp
      have hhead := List.head?_dropWhile_not isIdlePart rest.reverse
      rw [hdrop] at hhead
      simpa using hhead

/-- A path of some parts is cut into these parts again. -/
theorem pathParts_joined {parts : List String} (hne : parts ≠ [])
    (h : ∀ part ∈ parts, '/' ∉ part.toList) : pathParts (Text.joined "/" parts) = parts := by
  have hsame : String.ofList ∘ String.toList = id := funext fun _ => String.ofList_toList
  rw [pathParts, Text.pieces_joined rfl hne h, List.map_map, hsame, List.map_id]

theorem not_slash_of_mem_pathParts (path : String) {part : String} (h : part ∈ pathParts path) :
    '/' ∉ part.toList := by
  rcases List.mem_map.mp h with ⟨piece, hpiece, rfl⟩
  rw [String.toList_ofList]
  exact Text.not_mem_of_mem_pieces hpiece

/-- The parts of the folder that some parts lie in go on, and not only with idle parts. -/
theorem exists_behind_dropLast (parts : List String)
    (h : withoutIdleEnd (withoutIdleEnd parts).dropLast ≠ []) :
    ∃ back, parts = withoutIdleEnd (withoutIdleEnd parts).dropLast ++ back ∧
      ∃ part ∈ back, isIdlePart part = false := by
  rcases withoutIdleEnd_prefix parts with ⟨idle, hidle⟩
  rcases withoutIdleEnd_prefix (withoutIdleEnd parts).dropLast with ⟨inner, hinner⟩
  have hfront : (withoutIdleEnd parts).dropLast ≠ [] := by
    intro hnil
    rw [hnil] at h
    exact h rfl
  have hne : withoutIdleEnd parts ≠ [] := by
    intro hnil
    rw [hnil] at hfront
    exact hfront rfl
  have hlast := List.dropLast_append_getLast hne
  refine ⟨inner ++ [(withoutIdleEnd parts).getLast hne] ++ idle, ?_,
    (withoutIdleEnd parts).getLast hne, by simp, ?_⟩
  · rw [← List.append_assoc, ← List.append_assoc, hinner, hlast, hidle]
  · exact isIdlePart_of_withoutIdleEnd hlast.symm hfront

/-- A path goes on behind the folder that it lies in, and not only with idle parts. -/
theorem parentPath?_eq_some {path parent : String} (h : parentPath? path = some parent) :
    pathParts parent ≠ [""] ∧ ∃ back, pathParts path = pathParts parent ++ back ∧
      ∃ part ∈ back, isIdlePart part = false := by
  have hbehind := exists_behind_dropLast (pathParts path)
  unfold parentPath? at h
  dsimp only at h
  split at h
  · cases h
  · cases h
  · next parts hne hroot =>
    rcases hbehind hne with ⟨back, hback, hname⟩
    have hparent :
        pathParts parent = withoutIdleEnd (withoutIdleEnd (pathParts path)).dropLast := by
      rw [← Option.some.inj h]
      apply pathParts_joined hne
      intro part hpart
      apply not_slash_of_mem_pathParts path
      rw [hback]
      exact List.mem_append_left _ hpart
    rw [hparent]
    exact ⟨hroot, back, hback, hname⟩

/-! ## What may differ between two trees -/

/-- What some names lead to, before and after. A file may come there if that is allowed, but not in
the place of a folder, and a folder only where nothing was. -/
inductive EntryChange (mayWrite mayMake : Prop) : Option Entry → Option Entry → Prop where
  | same {entry : Option Entry} : EntryChange mayWrite mayMake entry entry
  | written {entry : Option Entry} {bytes : ByteArray} :
      mayWrite → entry ≠ some .folder → EntryChange mayWrite mayMake entry (some (.file bytes))
  | made : mayMake → EntryChange mayWrite mayMake none (some .folder)

namespace EntryChange

variable {mayWrite mayMake : Prop} {first second third : Option Entry}

theorem trans (h : EntryChange mayWrite mayMake first second)
    (hnext : EntryChange mayWrite mayMake second third) :
    EntryChange mayWrite mayMake first third := by
  cases h with
  | same => exact hnext
  | written hwrite hfirst =>
    cases hnext with
    | same => exact .written hwrite hfirst
    | written _ _ => exact .written hwrite hfirst
  | made hmake =>
    cases hnext with
    | same => exact .made hmake
    | written _ hfolder => exact absurd rfl hfolder

theorem mono {mayWriteToo mayMakeToo : Prop} (hwrite : mayWrite → mayWriteToo)
    (hmake : mayMake → mayMakeToo) (h : EntryChange mayWrite mayMake first second) :
    EntryChange mayWriteToo mayMakeToo first second := by
  cases h with
  | same => exact .same
  | written h hfirst => exact .written (hwrite h) hfirst
  | made h => exact .made (hmake h)

/-- A folder stays a folder. -/
theorem folder (h : EntryChange mayWrite mayMake (some .folder) second) :
    second = some .folder := by
  cases h with
  | same => rfl
  | written _ hfolder => exact absurd rfl hfolder

/-- A file is only changed if that is allowed. -/
theorem file {bytes : ByteArray} (h : EntryChange mayWrite mayMake (some (.file bytes)) second)
    (hwrite : ¬ mayWrite) : second = some (.file bytes) := by
  cases h with
  | same => rfl
  | written hmay _ => exact absurd hmay hwrite

end EntryChange

namespace FileTree

/-- All that differs are entries at some names: files that may have been written at `files`, and
folders that may have been made at `folders`. -/
structure ChangesOnly (files folders : List String → Prop) (before after : FileTree) : Prop where
  home : after.home = before.home
  refusal : after.refusal = before.refusal
  entry : ∀ names,
    EntryChange (files names) (folders names) (before.find? names) (after.find? names)

/-- The names that a path leads to when all folders on its way are there. -/
def target (tree : FileTree) (path : String) : List String :=
  (pathParts path).foldl followPart (tree.start (pathParts path))

/-- The folder is on the way to what a path leads to: its first parts lead to the folder, and the
parts behind them are not all idle. -/
def OnWayTo (tree : FileTree) (path : String) (folder : List String) : Prop :=
  ∃ front back, pathParts path = front ++ back ∧ (∃ part ∈ back, isIdlePart part = false) ∧
    folder = front.foldl followPart (tree.start (pathParts path))

/-- The path leads to a file with this text. -/
def Holds (tree : FileTree) (path text : String) : Prop :=
  ∃ names, tree.locate path = .ok names ∧ tree.find? names = some (.file text.toUTF8)

variable {tree before middle after : FileTree} {files folders : List String → Prop}
  {path text : String} {names found parts : List String}

/-- A path leads somewhere just if it can be looked up, is not empty and can be followed. -/
theorem locate_eq_ok_iff : tree.locate path = .ok names ↔
    checkPath path = .ok () ∧ path ≠ "" ∧
      tree.follow (tree.start (pathParts path)) (pathParts path) = .ok names := by
  unfold locate
  constructor
  · intro h
    rcases exists_ok_of_bind h with ⟨_, hpath, h⟩
    split at h
    · cases h
    · next hempty => exact ⟨hpath, hempty, h⟩
  · rintro ⟨hpath, hempty, hfollow⟩
    rw [hpath, ok_bind, if_neg hempty]
    exact hfollow

namespace ChangesOnly

theorem refl (tree : FileTree) : ChangesOnly files folders tree tree :=
  ⟨rfl, rfl, fun _ => .same⟩

theorem trans (h : ChangesOnly files folders before middle)
    (hnext : ChangesOnly files folders middle after) : ChangesOnly files folders before after where
  home := hnext.home.trans h.home
  refusal := hnext.refusal.trans h.refusal
  entry names := (h.entry names).trans (hnext.entry names)

theorem mono {filesToo foldersToo : List String → Prop}
    (hfiles : ∀ names, files names → filesToo names)
    (hfolders : ∀ names, folders names → foldersToo names)
    (h : ChangesOnly files folders before after) :
    ChangesOnly filesToo foldersToo before after where
  home := h.home
  refusal := h.refusal
  entry names := (h.entry names).mono (hfiles names) (hfolders names)

theorem start (h : ChangesOnly files folders before after) (parts : List String) :
    after.start parts = before.start parts := by
  unfold FileTree.start
  rw [h.home]

theorem target (h : ChangesOnly files folders before after) (path : String) :
    after.target path = before.target path := by
  rw [FileTree.target, h.start, FileTree.target]

theorem onWayTo (h : ChangesOnly files folders before after) (path : String) :
    after.OnWayTo path = before.OnWayTo path := by
  funext folder
  rw [OnWayTo, h.start, OnWayTo]

/-- Folders stay where they are, so a way along them is not lost. -/
theorem follow (h : ChangesOnly files folders before after)
    (hfollow : before.follow names parts = .ok found) : after.follow names parts = .ok found := by
  induction parts generalizing names with
  | nil => exact hfollow
  | cons part rest ih =>
    rw [FileTree.follow] at hfollow ⊢
    rcases exists_ok_of_bind hfollow with ⟨_, hcheck, hrest⟩
    rcases exists_ok_of_bind hrest with ⟨_, hname, hrest⟩
    have hfolder : before.find? names = some .folder := by
      unfold checkFolder at hcheck
      split at hcheck
      · next hfound => exact hfound
      · cases hcheck
      · cases hcheck
    have hchange := h.entry names
    rw [hfolder] at hchange
    have hcheckAfter : after.checkFolder names = .ok () := by
      rw [checkFolder, hchange.folder]
    rw [hcheckAfter, ok_bind, hname, ok_bind]
    exact ih hrest

theorem locate (h : ChangesOnly files folders before after)
    (hlocate : before.locate path = .ok names) : after.locate path = .ok names := by
  rcases locate_eq_ok_iff.mp hlocate with ⟨hpath, hempty, hfollow⟩
  rw [← h.start] at hfollow
  exact locate_eq_ok_iff.mpr ⟨hpath, hempty, h.follow hfollow⟩

end ChangesOnly

/-! ## Making folders -/

/-- An entry that is put in the place of one that may change is all that differs. -/
theorem changesOnly_put {entry : Entry} (hfolder : tree.find? names ≠ some .folder)
    (hchange : EntryChange (files names) (folders names) (tree.find? names) (some entry)) :
    ChangesOnly files folders tree (tree.put names entry) where
  home := rfl
  refusal := rfl
  entry other := by
    rw [find?_put hfolder]
    by_cases hother : other = names
    · rw [if_pos hother, hother]
      exact hchange
    · rw [if_neg hother]
      exact .same

/-- Folders are made along the parts only, whether all of them can be made or not. -/
theorem changesOnly_makeFolders (tree : FileTree) (names : List String) (made : Bool)
    (parts : List String) :
    ChangesOnly (fun _ => False)
      (fun folder => ∃ front back, parts = front ++ back ∧ folder = front.foldl followPart names)
      tree (tree.makeFolders names made parts).2 := by
  induction parts generalizing tree names made with
  | nil => exact .refl tree
  | cons part rest ih =>
    have hrest : ∀ folder,
        (∃ front back, rest = front ++ back ∧
          folder = front.foldl followPart (followPart names part)) →
        ∃ front back, part :: rest = front ++ back ∧ folder = front.foldl followPart names := by
      rintro folder ⟨front, back, rfl, rfl⟩
      exact ⟨part :: front, back, rfl, rfl⟩
    rw [makeFolders]
    split
    · exact .refl tree
    · exact (ih tree _ made).mono (fun _ => id) hrest
    · exact .refl tree
    · next _ hfree =>
      split
      · exact .refl tree
      · -- The folder at this part is made here, and the induction is about the tree that has it.
        refine ChangesOnly.trans (changesOnly_put ?_ ?_) ((ih _ _ true).mono (fun _ => id) hrest)
        · rw [hfree]
          exact nofun
        · rw [hfree]
          exact .made ⟨[part], rest, rfl, rfl⟩

/-- A path in a folder begins where the path of the folder begins. -/
theorem start_append {front : List String} (tree : FileTree) (hfront : front ≠ [])
    (hroot : front ≠ [""]) (back : List String) :
    tree.start (front ++ back) = tree.start front := by
  rcases front with _ | ⟨first, _ | ⟨second, more⟩⟩
  · exact absurd rfl hfront
  · -- A single part is no slash in front, so what follows makes no difference.
    have hfirst : first ≠ "" := by
      rintro rfl
      exact hroot rfl
    cases back with
    | nil => rfl
    | cons next rest => exact if_neg hfirst
  · rfl

theorem pathParts_ne_nil (path : String) : pathParts path ≠ [] := by
  intro h
  exact Text.pieces_ne_nil _ _ (List.map_eq_nil_iff.mp h)

/-- Making the folder that a path lies in makes folders on its way only. -/
theorem changesOnly_createFolders {parent : String} (tree : FileTree)
    (h : parentPath? path = some parent) :
    ChangesOnly (fun _ => False) (tree.OnWayTo path) tree (tree.createFolders parent).2 := by
  rcases parentPath?_eq_some h with ⟨hroot, back, hback, part, hpart, hidle⟩
  unfold createFolders
  split
  · exact .refl tree
  · refine (tree.changesOnly_makeFolders _ false _).mono (fun _ => id) ?_
    rintro folder ⟨front, rest, hfront, rfl⟩
    refine ⟨front, rest ++ back, ?_, ⟨part, List.mem_append_right rest hpart, hidle⟩, ?_⟩
    · rw [hback, hfront, List.append_assoc]
    · rw [hback, tree.start_append (pathParts_ne_nil parent) hroot]

/-! ## Writing a file -/

theorem follow_eq_ok (h : tree.follow names parts = .ok found) :
    found = parts.foldl followPart names := by
  induction parts generalizing names with
  | nil => exact (Except.ok.inj h).symm
  | cons part rest ih =>
    rw [follow] at h
    rcases exists_ok_of_bind h with ⟨_, -, h⟩
    rcases exists_ok_of_bind h with ⟨_, -, h⟩
    exact ih h

theorem locate_eq_ok (h : tree.locate path = .ok names) : names = tree.target path := by
  rcases locate_eq_ok_iff.mp h with ⟨-, -, hfollow⟩
  exact follow_eq_ok hfollow

/-- A file is written at the end of its path, where no folder is. -/
theorem exists_of_writeText (h : tree.writeText path text = .ok after) :
    ∃ names, tree.locate path = .ok names ∧ tree.find? names ≠ some .folder ∧
      after = tree.put names (.file text.toUTF8) := by
  rw [writeText] at h
  rcases exists_ok_of_bind h with ⟨_, -, h⟩
  dsimp only at h
  split at h
  · -- With a slash at its end, the path is refused after its folder was found.
    rcases exists_ok_of_bind h with ⟨_, -, h⟩
    rcases exists_ok_of_bind h with ⟨_, -, h⟩
    rcases exists_ok_of_bind h with ⟨_, h, -⟩
    cases h
  · rcases exists_ok_of_bind h with ⟨names, hlocate, h⟩
    split at h
    · cases h
    · next hfolder =>
      rcases exists_ok_of_bind h with ⟨_, -, h⟩
      exact ⟨names, hlocate, hfolder, (Except.ok.inj h).symm⟩

theorem changesOnly_writeText (h : tree.writeText path text = .ok after) :
    ChangesOnly (· = tree.target path) (fun _ => False) tree after := by
  rcases exists_of_writeText h with ⟨names, hlocate, hfolder, rfl⟩
  exact changesOnly_put hfolder (.written (locate_eq_ok hlocate) hfolder)

theorem holds_of_writeText (h : tree.writeText path text = .ok after) : after.Holds path text := by
  have hchanges := changesOnly_writeText h
  rcases exists_of_writeText h with ⟨names, hlocate, hfolder, rfl⟩
  refine ⟨names, hchanges.locate hlocate, ?_⟩
  rw [find?_put hfolder, if_pos rfl]

/-- What is not written keeps its text. -/
theorem ChangesOnly.holds (h : ChangesOnly files folders before after)
    (hholds : before.Holds path text) (hfile : ¬ files (before.target path)) :
    after.Holds path text := by
  rcases hholds with ⟨names, hlocate, hentry⟩
  have hchange := h.entry names
  rw [hentry] at hchange
  rw [← locate_eq_ok hlocate] at hfile
  exact ⟨names, h.locate hlocate, hchange.file hfile⟩

/-- A path without a NUL character that is not too long can be looked up. -/
theorem checkPath_eq_ok (hname : '\x00' ∉ path.toList)
    (hsize : path.utf8ByteSize < pathLimit) : checkPath path = .ok () := by
  unfold checkPath
  rw [String.contains_char_eq, decide_eq_false hname, if_neg Bool.false_ne_true,
    if_neg (Nat.not_le.mpr hsize)]

/-- Text that was written as a file can be read. -/
theorem readText_eq_ok (hlocate : tree.locate path = .ok names)
    (hfile : tree.find? names = some (.file text.toUTF8)) (huse : tree.refusal .read names = none) :
    tree.readText path = .ok text := by
  have htext : String.fromUTF8? text.toUTF8 = some text := by
    have hvalid : text.toUTF8.IsValidUTF8 := text.isValidUTF8
    exact dif_pos hvalid
  rw [readText, hlocate, ok_bind, hfile]
  dsimp only
  rw [checkUse, huse, htext]
  rfl

/-- A file can be written where there is none. -/
theorem writeText_eq_ok (hpath : checkPath path = .ok ())
    (hfront : path = withoutLastSlashes path) (hlocate : tree.locate path = .ok names)
    (hfree : tree.find? names = none) (huse : tree.refusal .write names = none) (text : String) :
    tree.writeText path text = .ok (tree.put names (.file text.toUTF8)) := by
  rw [writeText, hpath, ok_bind]
  dsimp only
  rw [if_neg (not_not_intro hfront), hlocate, ok_bind, hfree]
  dsimp only
  rw [checkUse, huse]
  rfl

/-! ## Folders and a file -/

/-- Writes a file on this tree and makes the folders above it. -/
def attempt (tree : FileTree) (path text : String) : Except String Unit × FileTree :=
  (writeWithFolders path text : StateM FileTree (Except String Unit)).run tree

/-- What is left behind when one file is to be written. -/
inductive Attempted (tree : FileTree) (path text : String) :
    Except String Unit × FileTree → Prop where
  /-- There may be new folders, but no file has changed. -/
  | failed {message : String} {after : FileTree} :
      ChangesOnly (fun _ => False) (tree.OnWayTo path) tree after →
      Attempted tree path text (.error message, after)
  | written {after : FileTree} :
      after.Holds path text → ChangesOnly (· = tree.target path) (tree.OnWayTo path) tree after →
      Attempted tree path text (.ok (), after)

theorem run_createParents (tree : FileTree) (path : String) :
    (createParents path : StateM FileTree (Except String Unit)).run tree =
      match parentPath? path with
      | none => (.ok (), tree)
      | some parent =>
        ((tree.createFolders parent).1.mapError fun e =>
          "Failed to create '" ++ parent ++ "': " ++ e.message, (tree.createFolders parent).2) := by
  unfold createParents
  cases parentPath? path <;> rfl

/-- The folders above the file are made first. If that fails, the file is not tried. -/
theorem attempt_eq (tree : FileTree) (path text : String) :
    tree.attempt path text =
      match (createParents path : StateM FileTree (Except String Unit)).run tree with
      | (.error message, inner) => (.error message, inner)
      | (.ok (), inner) =>
        match inner.writeText path text with
        | .error e => (.error ("Failed to write '" ++ path ++ "': " ++ e.message), inner)
        | .ok after => (.ok (), after) := by
  rw [attempt, writeWithFolders, run_bind]
  generalize (createParents path : StateM FileTree (Except String Unit)).run tree = created
  rcases created with ⟨message | _, inner⟩
  · rfl
  · dsimp only
    rw [run_bind, run_writeText]
    cases inner.writeText path text <;> rfl

theorem changesOnly_createParents (tree : FileTree) (path : String) :
    ChangesOnly (fun _ => False) (tree.OnWayTo path) tree
      ((createParents path : StateM FileTree (Except String Unit)).run tree).2 := by
  rw [run_createParents]
  split
  · exact .refl tree
  · next parent hparent => exact tree.changesOnly_createFolders hparent

theorem attempted (tree : FileTree) (path text : String) :
    tree.Attempted path text (tree.attempt path text) := by
  have hfolders := tree.changesOnly_createParents path
  rw [attempt_eq]
  generalize (createParents path : StateM FileTree (Except String Unit)).run tree = created at *
  rcases created with ⟨message | _, inner⟩
  · exact .failed hfolders
  · dsimp only at hfolders ⊢
    cases hwrite : inner.writeText path text with
    | error e => exact .failed hfolders
    | ok after =>
      apply Attempted.written (holds_of_writeText hwrite)
      -- The folders that were made do not move the end of the path.
      have hwritten := changesOnly_writeText hwrite
      rw [hfolders.target] at hwritten
      exact (hfolders.mono (fun _ => False.elim) fun _ => id).trans
        (hwritten.mono (fun _ => id) fun _ => False.elim)

/-- A file is written where nothing was, once the folders above it are there. -/
theorem attempt_eq_ok {inner : FileTree} {parent : String}
    (hparent : parentPath? path = some parent)
    (hfolders : tree.createFolders parent = (.ok (), inner)) (hpath : checkPath path = .ok ())
    (hfront : path = withoutLastSlashes path) (hlocate : inner.locate path = .ok names)
    (hfree : inner.find? names = none) (huse : inner.refusal .write names = none) (text : String) :
    tree.attempt path text = (.ok (), inner.put names (.file text.toUTF8)) := by
  rw [attempt_eq, run_createParents, hparent]
  dsimp only
  rw [hfolders]
  dsimp only [Except.mapError]
  rw [writeText_eq_ok hpath hfront hlocate hfree huse]

end FileTree

end Blocklist
