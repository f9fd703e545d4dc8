import Mathlib.Data.List.Basic
import Blocklist.Proofs.Statistics

/-! # What a run leaves behind

A command reads all its files before it writes one, so a bad file ends it with the tree as it was.
`convert` then writes its outputs with the folders above them, the rules first. Whatever fails on
the way, a run changes nothing but its outputs and the folders above them.

* `Arguments.not_hasBadFile`: what can be loaded stands in good files;
* `run_writeResult_of_error`, `run_writeResult_of_ok`: the rules are written before the reports;
* `FileTree.Writes.of_failed`, `FileTree.Writes.of_reports`: without the rules, and with them;
* `writes_writeResult`: what the writing of both leaves behind;
* `Arguments.footprint_of_error`, `Arguments.footprint_of_ok`: runs without and with a result;
* `run_footprint`: what each command leaves behind.
-/

namespace Blocklist

open Json (Reader)

/-! ## Reading before writing -/

/-- The file can be read, and what the reader reads stands in it. -/
def FileTree.Reads {α : Type} (tree : FileTree) (reader : Reader α) (path : String) : Prop :=
  ∃ text value, tree.readText path = .ok text ∧ Json.readText reader text = .ok value

/-- One of the files that a command reads, whichever it is, cannot be read or parsed. -/
inductive Arguments.HasBadFile (arguments : Arguments) (tree : FileTree) : Prop where
  | config {path : String} :
      arguments.config = some path → ¬ tree.Reads Options.read path → HasBadFile arguments tree
  | input {path : String} :
      path ∈ arguments.inputs → ¬ tree.Reads (Reader.list FilterInput.read) path →
      HasBadFile arguments tree

/-- If settings are loaded from a file, they stand in it. -/
theorem reads_of_loadOptions {tree : FileTree} {path : String} {options : Options}
    (h : loadOptions (some (tree.input path)) = .ok options) : tree.Reads Options.read path := by
  unfold loadOptions FileTree.input at h
  split at h
  · next heq => cases heq
  · cases h
  · next text heq =>
    split at h
    · next value hvalue =>
      exact ⟨text, value, (Prod.mk.inj (Option.some.inj heq)).2, hvalue⟩
    · cases h

/-- If filters are loaded from files, they stand in each of them. -/
theorem reads_of_loadFilters {tree : FileTree} {paths : List String} {loaded : Loaded}
    (h : (loadFilters (paths.map tree.input)).2 = .ok loaded) :
    ∀ path ∈ paths, tree.Reads (Reader.list FilterInput.read) path := by
  rcases accountsFor_of_loadFilters h with ⟨parts, hparts, -⟩
  rw [List.forall₂_map_left_iff] at hparts
  clear h
  induction hparts with
  | nil => exact nofun
  | cons hholds _ ih =>
    rcases hholds with ⟨text, htext, hvalue⟩
    exact List.forall_mem_cons.mpr ⟨⟨text, _, htext, hvalue⟩, ih⟩

/-- What can be loaded stands in good files. -/
theorem Arguments.not_hasBadFile {arguments : Arguments} {tree : FileTree}
    {result : Options × Loaded} (h : arguments.load tree = .ok result) :
    ¬ arguments.HasBadFile tree := by
  rcases exists_ok_of_bind h with ⟨options, hoptions, h⟩
  rcases exists_ok_of_bind h with ⟨loaded, hloaded, -⟩
  rintro (⟨hconfig, hbad⟩ | ⟨hmem, hbad⟩)
  · rw [hconfig] at hoptions
    exact hbad (reads_of_loadOptions hoptions)
  · exact hbad (reads_of_loadFilters hloaded _ hmem)

/-! ## Two outputs -/

section

variable {result : ConversionResult} {output : String} {sourceMap : Option String}
  {tree first : FileTree} {message : String}

/-- The rules are written first. If that fails, nothing else is tried. -/
theorem run_writeResult_of_error
    (h : tree.attempt output result.ruleSetText = (.error message, first)) :
    (writeResult result output sourceMap : StateM FileTree (Except String (List LogEntry))).run
      tree = (.error message, first) := by
  unfold FileTree.attempt at h
  unfold writeResult
  rw [run_bind, h]
  rfl

/-- The reports are written behind the rules. -/
theorem run_writeResult_of_ok (h : tree.attempt output result.ruleSetText = (.ok (), first)) :
    (writeResult result output sourceMap : StateM FileTree (Except String (List LogEntry))).run
      tree =
        match sourceMap with
        | none => (.ok [], first)
        | some path =>
          match first.attempt path result.sourceMapText with
          | (.error message, last) => (.error message, last)
          | (.ok (), last) => (.ok [⟨.info, "Wrote source map to '" ++ path ++ "'"⟩], last) := by
  unfold FileTree.attempt at h ⊢
  unfold writeResult
  rw [run_bind, h]
  cases sourceMap with
  | none => rfl
  | some path =>
    dsimp only
    rw [run_bind]
    generalize (writeWithFolders path result.sourceMapText :
      StateM FileTree (Except String Unit)).run first = written
    rcases written with ⟨message | _, last⟩
    · rfl
    · rfl

/-- Only outputs may have changed, and only folders on the way to them that were missing may be
new. -/
def FileTree.ChangesOutputsOnly (tree : FileTree) (outputs : List String) (after : FileTree) :
    Prop :=
  FileTree.ChangesOnly (fun names => ∃ path ∈ outputs, names = tree.target path)
    (fun folder => ∃ path ∈ outputs, tree.OnWayTo path folder) tree after

/-- What is left behind when rules are written to one file and then, if asked for, reports to
another. -/
structure FileTree.Writes (tree : FileTree) (result : ConversionResult) (output : String)
    (sourceMap : Option String) (error : Option String) (after : FileTree) : Prop where
  within : tree.ChangesOutputsOnly (output :: sourceMap.toList) after
  /-- If the rules cannot be written, no file is written at all. -/
  rulesFirst : ∀ message, (tree.attempt output result.ruleSetText).1 = .error message →
    error = some message ∧ FileTree.ChangesOnly (fun _ => False) (tree.OnWayTo output) tree after
  /-- If only the reports cannot be written, the rules are complete, and nothing else is written. -/
  reportsNext : ∀ first path message, tree.attempt output result.ruleSetText = (.ok (), first) →
    sourceMap = some path → (first.attempt path result.sourceMapText).1 = .error message →
    error = some message ∧ after.Holds output result.ruleSetText ∧
      FileTree.ChangesOnly (· = tree.target output)
        (fun folder => tree.OnWayTo output folder ∨ tree.OnWayTo path folder) tree after
  /-- Otherwise nothing fails. -/
  succeeds : ∀ first, tree.attempt output result.ruleSetText = (.ok (), first) →
    (∀ path, sourceMap = some path → (first.attempt path result.sourceMapText).1 = .ok ()) →
    error = none
  /-- If nothing fails, the reports are complete, and so are the rules unless they were in the same
  file. -/
  complete : error = none →
    (∀ path, sourceMap = some path → after.Holds path result.sourceMapText) ∧
    ((∀ path, sourceMap = some path → tree.target path ≠ tree.target output) →
      after.Holds output result.ruleSetText)

/-- The error of a result, if it is one. -/
def error? {ε α : Type} : Except ε α → Option ε
  | .error e => some e
  | .ok _ => none

theorem FileTree.Attempted.changesOutputsOnly {path text : String} {outputs : List String}
    {ended : Except String Unit × FileTree} (h : tree.Attempted path text ended)
    (hpath : path ∈ outputs) : tree.ChangesOutputsOnly outputs ended.2 := by
  cases h with
  | failed hchanges =>
    refine hchanges.mono (fun _ => False.elim) ?_
    intro folder hfolder
    exact ⟨path, hpath, hfolder⟩
  | written _ hchanges =>
    refine hchanges.mono ?_ ?_
    · intro names hnames
      exact ⟨path, hpath, hnames⟩
    · intro folder hfolder
      exact ⟨path, hpath, hfolder⟩

/-- Writing more outputs on what is left behind still changes outputs only. -/
theorem FileTree.ChangesOutputsOnly.trans {outputs : List String} {middle after : FileTree}
    (h : tree.ChangesOutputsOnly outputs middle) (hnext : middle.ChangesOutputsOnly outputs after) :
    tree.ChangesOutputsOnly outputs after := by
  unfold ChangesOutputsOnly at hnext
  simp only [ChangesOnly.target h, ChangesOnly.onWayTo h] at hnext
  exact ChangesOnly.trans h hnext

/-- Without the rules, nothing else is tried. -/
theorem FileTree.Writes.of_failed {after : FileTree}
    (hrules : tree.attempt output result.ruleSetText = (.error message, after))
    (hfolders : FileTree.ChangesOnly (fun _ => False) (tree.OnWayTo output) tree after)
    (hwithin : tree.ChangesOutputsOnly (output :: sourceMap.toList) after) :
    tree.Writes result output sourceMap (some message) after where
  within := hwithin
  rulesFirst other hother := by
    rw [hrules] at hother
    exact ⟨congrArg some (Except.error.inj hother), hfolders⟩
  reportsNext first path other hfirst := by
    cases hrules.symm.trans hfirst
  succeeds first hfirst := by
    cases hrules.symm.trans hfirst
  complete := nofun

/-- Once the rules are written, only what becomes of the reports matters. -/
theorem FileTree.Writes.of_rules {error : Option String} {after : FileTree}
    (hrules : tree.attempt output result.ruleSetText = (.ok (), first))
    (within : tree.ChangesOutputsOnly (output :: sourceMap.toList) after)
    (reportsNext : ∀ path message, sourceMap = some path →
      (first.attempt path result.sourceMapText).1 = .error message →
      error = some message ∧ after.Holds output result.ruleSetText ∧
        FileTree.ChangesOnly (· = tree.target output)
          (fun folder => tree.OnWayTo output folder ∨ tree.OnWayTo path folder) tree after)
    (succeeds : (∀ path, sourceMap = some path →
      (first.attempt path result.sourceMapText).1 = .ok ()) → error = none)
    (complete : error = none →
      (∀ path, sourceMap = some path → after.Holds path result.sourceMapText) ∧
      ((∀ path, sourceMap = some path → tree.target path ≠ tree.target output) →
        after.Holds output result.ruleSetText)) :
    tree.Writes result output sourceMap error after where
  within := within
  rulesFirst message hmessage := by
    rw [hrules] at hmessage
    cases hmessage
  reportsNext other path message hother hpath hmessage := by
    cases hrules.symm.trans hother
    exact reportsNext path message hpath hmessage
  succeeds other hother hreports := by
    cases hrules.symm.trans hother
    exact succeeds hreports
  complete := complete

/-- Once the rules are written and reports are asked for, the attempt at these settles the rest. -/
theorem FileTree.Writes.of_reports {path : String}
    (hrules : tree.attempt output result.ruleSetText = (.ok (), first))
    (hholds : first.Holds output result.ruleSetText)
    (hfile : FileTree.ChangesOnly (· = tree.target output) (tree.OnWayTo output) tree first)
    (hwithin : tree.ChangesOutputsOnly (output :: (some path).toList) first) :
    tree.Writes result output (some path) (error? (first.attempt path result.sourceMapText).1)
      (first.attempt path result.sourceMapText).2 := by
  have hsecond := first.attempted path result.sourceMapText
  have hboth := hwithin.trans (hsecond.changesOutputsOnly (by simp))
  generalize hreports : first.attempt path result.sourceMapText = last at hsecond hboth ⊢
  cases hsecond with
  | failed hfolders =>
    apply Writes.of_rules hrules hboth
    case reportsNext =>
      rintro _ message ⟨⟩ hmessage
      rw [hreports] at hmessage
      rw [hfile.onWayTo] at hfolders
      refine ⟨congrArg some (Except.error.inj hmessage), hfolders.holds hholds nofun, ?_⟩
      exact (hfile.mono (fun _ => id) fun _ => Or.inl).trans
        (hfolders.mono (fun _ => False.elim) fun _ => Or.inr)
    case succeeds =>
      intro hok
      have hpath := hok path rfl
      rw [hreports] at hpath
      cases hpath
    case complete => exact nofun
  | written hlater hchanges =>
    apply Writes.of_rules hrules hboth
    case reportsNext =>
      rintro _ message ⟨⟩ hmessage
      rw [hreports] at hmessage
      cases hmessage
    case succeeds => exact fun _ => rfl
    case complete =>
      refine fun _ => ⟨?_, ?_⟩
      · rintro _ ⟨⟩
        exact hlater
      · intro hdifferent
        -- The reports go elsewhere, so the rules stay what they were after the first attempt.
        apply hchanges.holds hholds
        rw [hfile.target, hfile.target]
        exact (hdifferent path rfl).symm

theorem writes_writeResult (result : ConversionResult) (output : String)
    (sourceMap : Option String) (tree : FileTree) :
    tree.Writes result output sourceMap
      (error? ((writeResult result output sourceMap :
        StateM FileTree (Except String (List LogEntry))).run tree).1)
      ((writeResult result output sourceMap :
        StateM FileTree (Except String (List LogEntry))).run tree).2 := by
  have hfirst := tree.attempted output result.ruleSetText
  have hwithin := hfirst.changesOutputsOnly (List.mem_cons_self (l := sourceMap.toList))
  generalize hrules : tree.attempt output result.ruleSetText = ended at hfirst hwithin
  cases hfirst with
  | failed hfolders =>
    rw [run_writeResult_of_error hrules]
    exact .of_failed hrules hfolders hwithin
  | @written first hholds hfile =>
    rw [run_writeResult_of_ok hrules]
    cases sourceMap with
    | none =>
      apply FileTree.Writes.of_rules hrules hwithin
      case reportsNext => exact nofun
      case succeeds => exact fun _ => rfl
      case complete => exact fun _ => ⟨nofun, fun _ => hholds⟩
    | some path =>
      have hwrites := FileTree.Writes.of_reports hrules hholds hfile hwithin
      dsimp only
      generalize first.attempt path result.sourceMapText = last at hwrites ⊢
      rcases last with ⟨message | _, last⟩
      · exact hwrites
      · exact hwrites

end

/-! ## Runs -/

/-- What a run of `convert` leaves behind. -/
structure Arguments.Footprint (arguments : Arguments) (tree : FileTree) (output : String)
    (sourceMap : Option String) (terminal : Terminal) (after : FileTree) : Prop where
  /-- If a file is bad, loading fails, and the run leaves the tree as it was. -/
  bad : arguments.HasBadFile tree → after = tree ∧ ∃ log e,
    arguments.load tree = .error e ∧ terminal = ⟨"", log, some e.message⟩
  /-- Whether a run fails or not, it leaves all the rest as it was. -/
  within : tree.ChangesOutputsOnly (output :: sourceMap.toList) after
  /-- A run that does not fail has converted what it has loaded. -/
  converted : terminal.error = none → ∃ options loaded run,
    arguments.load tree = .ok (options, loaded) ∧ convert options loaded.filters = .ok run
  /-- What is converted is written, and all of it comes from one result. -/
  writes : ∀ options loaded run, arguments.load tree = .ok (options, loaded) →
    convert options loaded.filters = .ok run →
    tree.Writes run.result output sourceMap terminal.error after

namespace Arguments

variable {arguments : Arguments} {tree : FileTree} {message : String} {converting : Converting}

theorem worksOut_eq_ok {options : Options} {loaded : Loaded} {run : Run}
    (hload : arguments.load tree = .ok (options, loaded))
    (hconvert : convert options loaded.filters = .ok run) :
    (arguments.worksOut tree).2 = .ok ⟨loaded, run⟩ := by
  rw [snd_worksOut, hload]
  dsimp only
  rw [hconvert]

theorem exists_of_worksOut (h : (arguments.worksOut tree).2 = .ok converting) :
    ∃ options, arguments.load tree = .ok (options, converting.loaded) ∧
      convert options converting.loaded.filters = .ok converting.run := by
  rw [snd_worksOut] at h
  split at h
  · cases h
  · next options loaded hload =>
    split at h
    · cases h
    · next run hconvert =>
      cases h
      exact ⟨options, hload, hconvert⟩

/-- Without a result, nothing is left behind. -/
theorem footprint_of_error (h : (arguments.worksOut tree).2 = .error message) (output : String)
    (sourceMap : Option String) :
    arguments.Footprint tree output sourceMap
      (arguments.runOn (.convert output sourceMap) tree).1
      (arguments.runOn (.convert output sourceMap) tree).2 := by
  rw [runOn_of_error h]
  constructor
  case bad =>
    intro hbad
    cases hload : arguments.load tree with
    | error e =>
      rw [snd_worksOut, hload] at h
      exact ⟨rfl, _, e, rfl, by rw [Except.error.inj h]⟩
    | ok result => exact absurd hbad (not_hasBadFile hload)
  case within => exact FileTree.ChangesOnly.refl tree
  case converted => exact nofun
  case writes =>
    intro options loaded run hload hconvert
    rw [worksOut_eq_ok hload hconvert] at h
    cases h

/-- With a result, the outputs are left behind as far as they could be written. -/
theorem footprint_of_ok (h : (arguments.worksOut tree).2 = .ok converting) (output : String)
    (sourceMap : Option String) :
    arguments.Footprint tree output sourceMap
      (arguments.runOn (.convert output sourceMap) tree).1
      (arguments.runOn (.convert output sourceMap) tree).2 := by
  rcases exists_of_worksOut h with ⟨options, hload, hconvert⟩
  have hwrites : tree.Writes converting.run.result output sourceMap
      (arguments.runOn (.convert output sourceMap) tree).1.error
      (arguments.runOn (.convert output sourceMap) tree).2 := by
    have hwritten := writes_writeResult converting.run.result output sourceMap tree
    rw [runOn_convert h]
    generalize (writeResult converting.run.result output sourceMap :
      StateM FileTree (Except String (List LogEntry))).run tree = written at hwritten ⊢
    rcases written with ⟨message | more, after⟩
    · exact hwritten
    · exact hwritten
  constructor
  case bad => exact fun hbad => absurd hbad (not_hasBadFile hload)
  case within => exact hwrites.within
  case converted => exact fun _ => ⟨options, _, _, hload, hconvert⟩
  case writes =>
    intro others loaded run hloadToo hconvertToo
    have hsame := (worksOut_eq_ok hloadToo hconvertToo).symm.trans h
    cases hsame
    exact hwrites

end Arguments

/-- Whatever the files and the arguments are, `convert` changes nothing but its outputs and the
folders on the way to them. It leaves everything as it was if a file that it reads is bad, writes no
reports if it cannot write the rules, and has written both in full if it succeeds, which it does
unless something cannot be loaded, converted or written. `stats` changes nothing at all. -/
theorem run_footprint (arguments : Arguments) (tree : FileTree) :
    (∀ output sourceMap, arguments.Footprint tree output sourceMap
      (arguments.runOn (.convert output sourceMap) tree).1
      (arguments.runOn (.convert output sourceMap) tree).2) ∧
    (arguments.runOn .stats tree).2 = tree := by
  cases hworks : (arguments.worksOut tree).2 with
  | error message =>
    refine ⟨Arguments.footprint_of_error hworks, ?_⟩
    rw [Arguments.runOn_of_error hworks]
  | ok converting =>
    refine ⟨Arguments.footprint_of_ok hworks, ?_⟩
    rw [Arguments.runOn_stats hworks]

/-! ## A tree with one file -/

/-- There is a folder, which was made for the rules. -/
def sampleTreeWithFolder : FileTree :=
  sampleTree.put ["out"] .folder

theorem checkPath_sampleOutput :
    ∀ path ∈ ["out", "out/../a.json", "out/rules.json", "out/map.json"],
      FileTree.checkPath path = .ok () := by
  intro path hpath
  apply FileTree.checkPath_eq_ok
  · revert path
    decide
  · revert path
    decide +kernel

/-- The file is where a folder ought to be, but the folder before it is there by then. -/
theorem attempt_sampleTree_of_error (text : String) :
    sampleTree.attempt "out/../a.json/rules.json" text =
      (.error "Failed to create 'out/../a.json': File exists (os error 17)",
        sampleTreeWithFolder) := by
  have hparent : parentPath? "out/../a.json/rules.json" = some "out/../a.json" := by decide +kernel
  have hfolders : sampleTree.createFolders "out/../a.json" =
      (.error .alreadyExists, sampleTreeWithFolder) := by
    unfold FileTree.createFolders
    rw [checkPath_sampleOutput "out/../a.json" (by decide)]
    rfl
  rw [FileTree.attempt_eq, FileTree.run_createParents, hparent]
  dsimp only
  rw [hfolders]
  rfl

theorem attempt_sampleRules (text : String) :
    sampleTree.attempt "out/rules.json" text =
      (.ok (), sampleTreeWithFolder.put ["out", "rules.json"] (.file text.toUTF8)) := by
  have hpath := checkPath_sampleOutput "out/rules.json" (by decide)
  have hfolders : sampleTree.createFolders "out" = (.ok (), sampleTreeWithFolder) := by
    rw [FileTree.createFolders, checkPath_sampleOutput "out" (by decide)]
    rfl
  have hlocate : sampleTreeWithFolder.locate "out/rules.json" = .ok ["out", "rules.json"] :=
    FileTree.locate_eq_ok_iff.mpr ⟨hpath, by decide, rfl⟩
  exact FileTree.attempt_eq_ok (by decide +kernel) hfolders hpath (by decide +kernel) hlocate
    rfl rfl text

theorem attempt_sampleReports (rules : ByteArray) (text : String) :
    (sampleTreeWithFolder.put ["out", "rules.json"] (.file rules)).attempt "out/map.json" text =
      (.ok (), (sampleTreeWithFolder.put ["out", "rules.json"] (.file rules)).put
        ["out", "map.json"] (.file text.toUTF8)) := by
  have hpath := checkPath_sampleOutput "out/map.json" (by decide)
  generalize hwritten : sampleTreeWithFolder.put ["out", "rules.json"] (.file rules) = written
  have hfolders : written.createFolders "out" = (.ok (), written) := by
    rw [FileTree.createFolders, checkPath_sampleOutput "out" (by decide), ← hwritten]
    rfl
  have hlocate : written.locate "out/map.json" = .ok ["out", "map.json"] := by
    rw [← hwritten]
    exact FileTree.locate_eq_ok_iff.mpr ⟨hpath, by decide, rfl⟩
  refine FileTree.attempt_eq_ok (by decide +kernel) hfolders hpath (by decide +kernel) hlocate
    ?_ ?_ text
  · rw [← hwritten]
    rfl
  · rw [← hwritten]
    rfl

/-- The reports are to lie in a folder, but that is the file of the rules. -/
theorem attempt_sampleReports_of_error (rules : ByteArray) (text : String) :
    (sampleTreeWithFolder.put ["out", "rules.json"] (.file rules)).attempt
        "out/rules.json/map.json" text =
      (.error "Failed to create 'out/rules.json': File exists (os error 17)",
        sampleTreeWithFolder.put ["out", "rules.json"] (.file rules)) := by
  have hparent : parentPath? "out/rules.json/map.json" = some "out/rules.json" := by
    decide +kernel
  generalize hwritten : sampleTreeWithFolder.put ["out", "rules.json"] (.file rules) = written
  have hfolders : written.createFolders "out/rules.json" = (.error .alreadyExists, written) := by
    rw [FileTree.createFolders, checkPath_sampleOutput "out/rules.json" (by decide), ← hwritten]
    rfl
  rw [FileTree.attempt_eq, FileTree.run_createParents, hparent]
  dsimp only
  rw [hfolders]
  rfl

/-- A second file that does not exist ends the run before anything is written. A file in the place
of a folder ends it before the rules are written, and the file of the rules in the place of a folder
ends it before the reports are. Otherwise both outputs are written. -/
theorem run_footprint_sample :
    (∃ log e, { sampleArguments with inputs := ["a.json", "b.json"] }.runOn
        (.convert "out/rules.json" (some "out/map.json")) sampleTree =
      (⟨"", log, some (LoadError.message e)⟩, sampleTree)) ∧
    (sampleArguments.runOn (.convert "out/../a.json/rules.json" (some "map.json"))
        sampleTree).1.error =
      some "Failed to create 'out/../a.json': File exists (os error 17)" ∧
    FileTree.ChangesOnly (fun _ => False) (sampleTree.OnWayTo "out/../a.json/rules.json") sampleTree
      (sampleArguments.runOn (.convert "out/../a.json/rules.json" (some "map.json"))
        sampleTree).2 ∧
    (sampleArguments.runOn (.convert "out/rules.json" (some "out/rules.json/map.json"))
        sampleTree).1.error =
      some "Failed to create 'out/rules.json': File exists (os error 17)" ∧
    (sampleArguments.runOn (.convert "out/rules.json" (some "out/rules.json/map.json"))
      sampleTree).2.Holds "out/rules.json" sampleConverting.run.result.ruleSetText ∧
    (sampleArguments.runOn (.convert "out/rules.json" (some "out/map.json"))
      sampleTree).1.error = none ∧
    (sampleArguments.runOn (.convert "out/rules.json" (some "out/map.json"))
      sampleTree).2.Holds "out/rules.json" sampleConverting.run.result.ruleSetText ∧
    (sampleArguments.runOn (.convert "out/rules.json" (some "out/map.json"))
      sampleTree).2.Holds "out/map.json" sampleConverting.run.result.sourceMapText := by
  have enough : convert {} sampleConverting.loaded.filters ≠ .error .idsExhausted := by
    decide +kernel
  have hrun : convert {} sampleConverting.loaded.filters = .ok sampleConverting.run :=
    (convert_eq_ok enough).1
  have hmissing : ¬ sampleTree.Reads (Reader.list FilterInput.read) "b.json" := by
    have hread : sampleTree.readText "b.json" = .error .notFound := by
      rw [FileTree.readText, FileTree.locate,
        FileTree.checkPath_eq_ok (by decide) (by decide +kernel)]
      rfl
    rintro ⟨text, value, htext, -⟩
    rw [hread] at htext
    cases htext
  rcases run_footprint { sampleArguments with inputs := ["a.json", "b.json"] } sampleTree with
    ⟨hlonger, -⟩
  rcases run_footprint sampleArguments sampleTree with ⟨hruns, -⟩
  have hwrites := fun output sourceMap =>
    (hruns output sourceMap).writes _ _ _ load_sampleArguments hrun
  rcases (hlonger "out/rules.json" (some "out/map.json")).bad
    (.input (List.mem_cons_of_mem _ List.mem_cons_self) hmissing) with
    ⟨hafter, log, e, -, hterminal⟩
  rcases (hwrites "out/../a.json/rules.json" (some "map.json")).rulesFirst _
    (congrArg Prod.fst (attempt_sampleTree_of_error _)) with ⟨hnoRules, hfolders⟩
  rcases (hwrites "out/rules.json" (some "out/rules.json/map.json")).reportsNext _ _ _
    (attempt_sampleRules _) rfl (congrArg Prod.fst (attempt_sampleReports_of_error _ _)) with
    ⟨hnoReports, hrulesOnly, -⟩
  have hsucceeds := (hwrites "out/rules.json" (some "out/map.json")).succeeds _
    (attempt_sampleRules _) (by
      rintro _ ⟨⟩
      exact congrArg Prod.fst (attempt_sampleReports _ _))
  rcases (hwrites "out/rules.json" (some "out/map.json")).complete hsucceeds with ⟨hreports, hrules⟩
  refine ⟨⟨log, e, Prod.ext hterminal hafter⟩, hnoRules, hfolders, hnoReports, hrulesOnly,
    hsucceeds, hrules ?_, hreports "out/map.json" rfl⟩
  rintro _ ⟨⟩
  decide +kernel

end Blocklist
