import Mathlib.Data.List.Basic
import Blocklist.Command
import Blocklist.Proofs.Conservation
import Blocklist.Proofs.FileChanges
import Blocklist.Proofs.Loading

/-! # What the commands report

Whatever the command, filters are loaded and converted in the same way. Both commands thus fail
together, and otherwise they report the same numbers. The numbers add up: every rule in the files is
skipped or in a group, and in the end it is in the source map, reported, negated, or a badfilter
rule.

* `Arguments.runOn_of_error`, `Arguments.runOn_stats`, `Arguments.runOn_convert`: what a command
  does once its files are read;
* `Converting.add_groupCount`: the groups divide the loaded rules;
* `length_survivors`: badfilter rules and those that they negate are missing among the survivors;
* `commands_agree`: both commands fail together or report the same numbers.
-/

namespace Blocklist

open Badfilter

/-! ## Commands on a tree of files -/

/-- A file with what is read from it. -/
def FileTree.input (tree : FileTree) (path : String) : InputFile :=
  (path, tree.readText path)

theorem run_mapM_readInput (paths : List String) (tree : FileTree) :
    (paths.mapM readInput : StateM FileTree (List InputFile)).run tree =
      (paths.map tree.input, tree) := by
  induction paths with
  | nil => rfl
  | cons path rest ih =>
    have hread : (readInput path : StateM FileTree InputFile).run tree =
        (tree.input path, tree) := rfl
    rw [List.mapM_cons, run_bind, hread, run_bind, ih]
    rfl

theorem run_option_mapM_readInput (path : Option String) (tree : FileTree) :
    (path.mapM readInput : StateM FileTree (Option InputFile)).run tree =
      (path.map tree.input, tree) := by
  cases path <;> rfl

namespace Arguments

/-- Runs a command with these arguments on a tree of files. -/
def runOn (arguments : Arguments) (command : Command) (tree : FileTree) : Terminal × FileTree :=
  ({ arguments with command }.run : StateM FileTree Terminal).run tree

/-- The settings and the filters that every command works with. The settings are loaded first. -/
def load (arguments : Arguments) (tree : FileTree) : Except LoadError (Options × Loaded) := do
  let options ← loadOptions (arguments.config.map tree.input)
  let loaded ← (loadFilters (arguments.inputs.map tree.input)).2
  return (arguments.override options, loaded)

/-- What a command has worked out when it has read its files. -/
def worksOut (arguments : Arguments) (tree : FileTree) : List LogEntry × Except String Converting :=
  convertFiles arguments (arguments.config.map tree.input) (arguments.inputs.map tree.input)

/-- What a command does with what it has worked out. -/
def finish (command : Command) :
    List LogEntry × Except String Converting → StateM FileTree Terminal
  | (log, .error message) => return ⟨"", log, some message⟩
  | (log, .ok converting) =>
    match command with
    | .stats => return ⟨converting.statistics, log, none⟩
    | .convert output sourceMap => do
      match ← writeResult converting.run.result output sourceMap with
      | .error message => return ⟨"", log ++ converting.warnings, some message⟩
      | .ok more => return ⟨converting.summary output, log ++ converting.warnings ++ more, none⟩

/-- What is worked out, apart from the log: loading may fail, and then converting may. -/
theorem snd_worksOut (arguments : Arguments) (tree : FileTree) :
    (arguments.worksOut tree).2 =
      match arguments.load tree with
      | .error e => .error e.message
      | .ok (options, loaded) =>
        match convert options loaded.filters with
        | .error e => .error e.message
        | .ok run => .ok ⟨loaded, run⟩ := by
  unfold worksOut convertFiles load
  cases loadOptions (arguments.config.map tree.input) with
  | error e => rfl
  | ok options =>
    dsimp only
    rw [ok_bind]
    rcases loadFilters (arguments.inputs.map tree.input) with ⟨log, e | loaded⟩
    · rfl
    · show (match convert (arguments.override options) loaded.filters with
        | .error e => _
        | .ok run => _ : List LogEntry × Except String Converting).2 = _
      rw [ok_bind]
      dsimp only [pure, Except.pure]
      cases convert (arguments.override options) loaded.filters <;> rfl

variable {arguments : Arguments} {tree : FileTree} {result : Except String Converting}
  {message : String} {converting : Converting}

/-- Nothing but the end of a run depends on the command. -/
theorem runOn_eq (h : (arguments.worksOut tree).2 = result) (command : Command) :
    arguments.runOn command tree =
      (finish command ((arguments.worksOut tree).1, result)).run tree := by
  have hrun : ({ arguments with command }.run : StateM FileTree Terminal) =
      arguments.config.mapM readInput >>= fun config =>
        arguments.inputs.mapM readInput >>= fun files =>
          finish command (convertFiles arguments config files) := by
    -- The arguments are the same for all commands, and what is worked out depends on nothing else.
    unfold run
    refine bind_congr fun config => bind_congr fun files => ?_
    show (match convertFiles arguments config files with
      | (log, .error message) => _
      | (log, .ok converting) => _) = _
    rcases convertFiles arguments config files with ⟨log, message | converting⟩
    · rfl
    · cases command <;> rfl
  rw [← h, runOn, hrun, run_bind, run_option_mapM_readInput, run_bind, run_mapM_readInput]
  rfl

/-- What cannot be worked out ends every command in the same way. -/
theorem runOn_of_error (h : (arguments.worksOut tree).2 = .error message) (command : Command) :
    arguments.runOn command tree = (⟨"", (arguments.worksOut tree).1, some message⟩, tree) :=
  runOn_eq h command

theorem runOn_stats (h : (arguments.worksOut tree).2 = .ok converting) :
    arguments.runOn .stats tree =
      (⟨converting.statistics, (arguments.worksOut tree).1, none⟩, tree) :=
  runOn_eq h .stats

theorem runOn_convert (h : (arguments.worksOut tree).2 = .ok converting) (output : String)
    (sourceMap : Option String) :
    arguments.runOn (.convert output sourceMap) tree =
      match (writeResult converting.run.result output sourceMap :
          StateM FileTree (Except String (List LogEntry))).run tree with
      | (.error message, after) =>
        (⟨"", (arguments.worksOut tree).1 ++ converting.warnings, some message⟩, after)
      | (.ok more, after) =>
        (⟨converting.summary output,
          (arguments.worksOut tree).1 ++ converting.warnings ++ more, none⟩, after) := by
  rw [runOn_eq h, finish, run_bind]
  generalize (writeResult converting.run.result output sourceMap :
    StateM FileTree (Except String (List LogEntry))).run tree = written
  obtain ⟨message | more, after⟩ := written
  · rfl
  · rfl

/-- Unless a file cannot be written, the summary is printed. -/
theorem stdout_runOn_convert (h : (arguments.worksOut tree).2 = .ok converting) {output : String}
    {sourceMap : Option String}
    (written : (arguments.runOn (.convert output sourceMap) tree).1.error = none) :
    (arguments.runOn (.convert output sourceMap) tree).1.stdout = converting.summary output := by
  rw [runOn_convert h] at written ⊢
  split at written
  · cases written
  · rfl

end Arguments

/-! ## Reports -/

/-- The numbers that both commands report. -/
structure Counts where
  filters : Nat
  total : Nat
  skipped : Nat
  rules : Nat
  regexpRules : Nat
  errors : Nat
  limitations : List String
  deriving Repr, DecidableEq

namespace Counts

/-- The counts of a conversion. -/
def of (converting : Converting) : Counts where
  filters := converting.loaded.filters.length
  total := converting.loaded.total
  skipped := converting.loaded.skipped
  rules := converting.run.result.rules.length
  regexpRules := converting.run.result.regexpRules
  errors := converting.run.result.errors.length
  limitations := converting.run.result.limitations.map Limitation.message

/-- The counts in the text of `convert`, which also tells the size of a file. -/
def summary (counts : Counts) (output : String) (bytes : Nat) : String :=
  unlines (
    ["Converted " ++ toString counts.filters ++ " filters to '" ++ output ++ "'",
     "  Rules:    " ++ toString counts.total ++ " loaded, " ++ toString counts.skipped ++
      " skipped -> " ++ toString counts.rules ++ " declarative (" ++
      toString counts.regexpRules ++ " regexp)",
     "  Errors:   " ++ toString counts.errors] ++
    counts.limitations.map ("  Limit:    " ++ ·) ++
    ["  Size:     " ++ toString bytes ++ " bytes (" ++ kilobytes bytes ++ " KB)"])

/-- The counts in the text of `stats`, which also tells the sizes of the groups and of the source
map. -/
def statistics (counts : Counts) (groups : Group → Nat) (sources : Nat) : String :=
  unlines (
    ["Filters:           " ++ toString counts.filters,
     "Source rules:      " ++ toString counts.total ++ " (" ++ toString counts.skipped ++
      " skipped)"] ++
    Group.all.map (fun group =>
      "  " ++ (group.name ++ ":").pushn ' ' (16 - (group.name.length + 1)) ++ " " ++
        toString (groups group)) ++
    ["Declarative rules: " ++ toString counts.rules,
     "  Regexp:          " ++ toString counts.regexpRules,
     "Source map:        " ++ toString sources,
     "Errors:            " ++ toString counts.errors] ++
    counts.limitations.map ("  " ++ ·))

end Counts

namespace Converting

theorem summary_eq (converting : Converting) (output : String) :
    converting.summary output =
      (Counts.of converting).summary output
        converting.run.result.ruleSetText.utf8ByteSize := by
  unfold summary Counts.summary Counts.of
  rw [List.map_map]
  rfl

theorem statistics_eq (converting : Converting) :
    converting.statistics =
      (Counts.of converting).statistics converting.groupCount
        converting.run.result.sourceMap.length := by
  unfold statistics Counts.statistics Counts.of
  rw [List.map_map]
  rfl

end Converting

/-! ## Sums -/

/-- Rules of a batch that are no badfilter rules and that one of its badfilter rules negates. -/
def negatedRules (filters : List Filter) : List SourceRule :=
  (filters.flatMap Filter.rules).filter fun r =>
    !r.rule.isBadfilter && negatedBy (negators filters) r.rule

/-- The numbers of a conversion add up. -/
structure Converting.Balanced (converting : Converting) : Prop where
  /-- A group has all its rules, those that are negated included. -/
  group : ∀ group, converting.groupCount group =
    (converting.loaded.filters.flatMap Filter.rules).countP fun r => Group.of r.rule = group
  groups : converting.groupCount .regular + converting.groupCount .csp +
    converting.groupCount .removeParam + converting.groupCount .removeHeader +
    converting.groupCount .badFilter + converting.loaded.skipped = converting.loaded.total
  /-- Without limits that cut, a rule that is left is in the source map or has an error of its
  own. -/
  sources : converting.run.Untrimmed →
    converting.run.result.sourceMap.length + converting.run.result.unsupported.length +
      converting.groupCount .badFilter + (negatedRules converting.loaded.filters).length +
      converting.loaded.skipped = converting.loaded.total

theorem Converting.groupCount_eq (converting : Converting) (group : Group) :
    converting.groupCount group =
      (converting.loaded.filters.flatMap Filter.rules).countP fun r =>
        Group.of r.rule = group := by
  unfold groupCount
  simp only [GroupedRules.get_ofRules]
  rw [← List.filter_flatMap, List.countP_eq_length_filter]

/-- The groups divide the rules between them. -/
theorem Converting.add_groupCount (converting : Converting) :
    converting.groupCount .regular + converting.groupCount .csp +
      converting.groupCount .removeParam + converting.groupCount .removeHeader +
      converting.groupCount .badFilter =
        (converting.loaded.filters.flatMap Filter.rules).length := by
  have hparts := GroupedRules.toList_ofRules_perm (converting.loaded.filters.flatMap Filter.rules)
  have hcount : ∀ group,
      ((GroupedRules.ofRules (converting.loaded.filters.flatMap Filter.rules)).get group).length =
        converting.groupCount group := by
    intro group
    rw [converting.groupCount_eq, GroupedRules.get_ofRules, List.countP_eq_length_filter]
  have hlength := hparts.length_eq
  simp only [GroupedRules.toList, Group.all, List.flatMap_cons, List.flatMap_nil,
    List.length_append, hcount, List.length_nil, Nat.add_zero] at hlength
  omega

/-- An element has the first property, only the second one, or none of them. -/
theorem countP_none_add_countP {α : Type} (p q : α → Bool) (xs : List α) :
    xs.countP (fun x => !(p x || q x)) + xs.countP p + xs.countP (fun x => !p x && q x) =
      xs.length := by
  induction xs with
  | nil => rfl
  | cons x rest ih =>
    rw [List.length_cons, ← ih]
    simp only [List.countP_cons]
    cases p x <;> cases q x <;> simp <;> omega

/-- Badfilter rules and those that they negate are missing among the survivors. -/
theorem length_survivors (filters : List Filter) :
    (survivors filters).length +
      (filters.flatMap Filter.rules).countP (fun r => Group.of r.rule = .badFilter) +
      (negatedRules filters).length = (filters.flatMap Filter.rules).length := by
  have hsurvivors : (survivors filters).length =
      (filters.flatMap Filter.rules).countP fun r => !isErased (negators filters) r.rule := by
    rw [List.countP_eq_length_filter, List.filter_flatMap, survivors, List.length_flatMap,
      List.length_flatMap]
    simp only [List.length_map]
  have hbad : (filters.flatMap Filter.rules).countP (fun r => Group.of r.rule = .badFilter) =
      (filters.flatMap Filter.rules).countP fun r => r.rule.isBadfilter := by
    refine List.countP_congr fun r _ => ?_
    rw [decide_eq_true_iff, Group.of_eq_badFilter_iff]
  rw [hsurvivors, hbad, negatedRules, ← List.countP_eq_length_filter]
  exact countP_none_add_countP (fun r : SourceRule => r.rule.isBadfilter)
    (fun r => negatedBy (negators filters) r.rule) _

/-- What is loaded and converted is counted without gaps. -/
theorem Converting.balanced {options : Options} {files : List InputFile} {converting : Converting}
    (hloaded : (loadFilters files).2 = .ok converting.loaded)
    (hrun : convert options converting.loaded.filters = .ok converting.run) :
    converting.Balanced := by
  obtain ⟨_, -, haccounts⟩ := accountsFor_of_loadFilters hloaded
  have htotal := haccounts.skipped
  constructor
  case group => exact converting.groupCount_eq
  case groups =>
    rw [converting.add_groupCount, htotal, Nat.add_comm]
  case sources =>
    intro untrimmed
    have enough : convert options converting.loaded.filters ≠ .error .idsExhausted := by
      intro h
      rw [hrun] at h
      cases h
    obtain ⟨hsame, hids⟩ := convert_eq_ok enough
    rw [Except.ok.inj (hrun.symm.trans hsame)] at untrimmed ⊢
    -- The survivors are counted in two ways: by what became of them, and by what is missing.
    have haccounted := (Options.ids_untrimmed_perm hids untrimmed).2.length_eq
    rw [List.length_append, List.length_map, List.length_map] at haccounted
    rw [converting.groupCount_eq, ← haccounted, length_survivors, htotal, Nat.add_comm]

/-! ## Agreement -/

theorem Arguments.loadFilters_of_load {arguments : Arguments} {tree : FileTree} {options : Options}
    {loaded : Loaded} (h : arguments.load tree = .ok (options, loaded)) :
    (loadFilters (arguments.inputs.map tree.input)).2 = .ok loaded := by
  obtain ⟨_, -, h⟩ := exists_ok_of_bind h
  obtain ⟨_, hloaded, h⟩ := exists_ok_of_bind h
  cases h
  exact hloaded

/-- Whatever the files, the settings and the arguments are, all commands fail together if something
cannot be loaded, or if there are not enough ids. Otherwise `stats` reports some numbers, and so
does `convert` if it can write its files. The numbers are the same, and they add up. -/
theorem commands_agree (arguments : Arguments) (tree : FileTree) :
    (∀ e, arguments.load tree = .error e → ∃ log, ∀ command,
      arguments.runOn command tree = (⟨"", log, some e.message⟩, tree)) ∧
    (∀ options loaded e, arguments.load tree = .ok (options, loaded) →
      convert options loaded.filters = .error e → ∃ log, ∀ command,
        arguments.runOn command tree = (⟨"", log, some e.message⟩, tree)) ∧
    ∀ (options : Options) (converting : Converting),
      arguments.load tree = .ok (options, converting.loaded) →
      convert options converting.loaded.filters = .ok converting.run →
        (∃ log, arguments.runOn .stats tree =
          (⟨(Counts.of converting).statistics converting.groupCount
              converting.run.result.sourceMap.length, log, none⟩, tree)) ∧
        (∀ output sourceMap,
          (arguments.runOn (.convert output sourceMap) tree).1.error = none →
            (arguments.runOn (.convert output sourceMap) tree).1.stdout =
              (Counts.of converting).summary output
                converting.run.result.ruleSetText.utf8ByteSize) ∧
        converting.Balanced := by
  have hworks := arguments.snd_worksOut tree
  refine ⟨fun e hload => ?_, fun options loaded e hload hconvert => ?_,
    fun options converting hload hrun => ?_⟩
  · rw [hload] at hworks
    exact ⟨_, Arguments.runOn_of_error hworks⟩
  · rw [hload] at hworks
    dsimp only at hworks
    rw [hconvert] at hworks
    exact ⟨_, Arguments.runOn_of_error hworks⟩
  · rw [hload] at hworks
    dsimp only at hworks
    rw [hrun] at hworks
    refine ⟨⟨(arguments.worksOut tree).1, ?_⟩, fun output sourceMap written => ?_, ?_⟩
    · rw [Arguments.runOn_stats hworks, Converting.statistics_eq]
    · rw [Arguments.stdout_runOn_convert hworks written, Converting.summary_eq]
    · exact Converting.balanced (Arguments.loadFilters_of_load hload) hrun

/-! ## A tree with one file -/

/-- Without a file for the reports and without a folder to make, one file is written. -/
theorem run_writeResult {result : ConversionResult} {output : String} {tree after : FileTree}
    (hparent : parentPath? output = none)
    (hwrites : tree.writeText output result.ruleSetText = .ok after) :
    (writeResult result output none : StateM FileTree (Except String (List LogEntry))).run tree =
      (.ok [], after) := by
  unfold writeResult writeWithFolders createParents
  rw [hparent]
  dsimp only
  rw [pure_bind, run_bind, run_bind, run_writeText, hwrites]
  rfl

/-- A rule, the badfilter rule that negates it, a policy, an empty policy and a parameter rule that
is not supported. -/
def sampleText : String :=
  "[[7,[[0,\"ads\",false,[]],[1,\"ads\",false,[\"badfilter\"]],[2,\"a\",false,[\"csp=sandbox\"]],
    [3,\"b\",false,[\"csp\"]],[4,\"c\",false,[\"removeparam=~x\"]]]]]"

/-- A folder with one file. -/
def sampleTree : FileTree where
  entries := [(["a.json"], .file sampleText.toUTF8)]

/-- A command that reads the file. -/
def sampleArguments : Arguments where
  command := .stats
  inputs := ["a.json"]

/-- What is loaded from the file, and what it is converted into. -/
def sampleConverting : Converting :=
  let filters :=
    [⟨7, [⟨0, { pattern := "ads", allowlist := false }⟩,
      ⟨1, { pattern := "ads", allowlist := false, flags := { badfilter := true } }⟩,
      ⟨2, { pattern := "a", allowlist := false, modifier := some (.csp "sandbox") }⟩,
      ⟨4, { pattern := "c", allowlist := false
            modifier := some (.removeParam "~x") }⟩]⟩]
  { loaded := { filters, total := 5, skipped := 1 }
    run := Options.runOn {} filters }

theorem load_sampleArguments :
    sampleArguments.load sampleTree = .ok ({}, sampleConverting.loaded) := by
  have hlocate : sampleTree.locate "a.json" = .ok ["a.json"] :=
    FileTree.locate_eq_ok_iff.mpr
      ⟨FileTree.checkPath_eq_ok (by decide) (by decide +kernel), by decide, by decide +kernel⟩
  have hread : sampleTree.input "a.json" = ("a.json", .ok sampleText) := by
    rw [FileTree.input, FileTree.readText_eq_ok hlocate rfl rfl]
  have hloaded : (loadFilters [("a.json", .ok sampleText)]).2 = .ok sampleConverting.loaded := by
    decide +kernel
  show (do
    let loaded ← (loadFilters [sampleTree.input "a.json"]).2
    return (({} : Options), loaded)) = _
  rw [hread, hloaded]
  rfl

/-- Each of the five rules is counted once, and both texts hold the same counts. -/
theorem commands_agree_sample :
    Counts.of sampleConverting = ⟨1, 5, 1, 1, 0, 1, []⟩ ∧
    (sampleArguments.runOn .stats sampleTree).1.stdout =
      unlines
        ["Filters:           1",
         "Source rules:      5 (1 skipped)",
         "  Regular:         1",
         "  Csp:             1",
         "  RemoveParam:     1",
         "  RemoveHeader:    0",
         "  BadFilter:       1",
         "Declarative rules: 1",
         "  Regexp:          0",
         "Source map:        1",
         "Errors:            1"] ∧
    (sampleArguments.runOn (.convert "out.json" none) sampleTree).1.error = none ∧
    (∃ bytes, (sampleArguments.runOn (.convert "out.json" none) sampleTree).1.stdout =
      (Counts.of sampleConverting).summary "out.json" bytes) ∧
    sampleConverting.run.Untrimmed ∧ sampleConverting.Balanced := by
  have enough : convert {} sampleConverting.loaded.filters ≠ .error .idsExhausted := by
    decide +kernel
  have hrun : convert {} sampleConverting.loaded.filters = .ok sampleConverting.run :=
    (convert_eq_ok enough).1
  have hworks : (sampleArguments.worksOut sampleTree).2 = .ok sampleConverting := by
    rw [sampleArguments.snd_worksOut, load_sampleArguments]
    dsimp only
    rw [hrun]
  have hpath : FileTree.checkPath "out.json" = .ok () :=
    FileTree.checkPath_eq_ok (by decide) (by decide +kernel)
  have hlocate : sampleTree.locate "out.json" = .ok ["out.json"] :=
    FileTree.locate_eq_ok_iff.mpr ⟨hpath, by decide, by decide +kernel⟩
  have hwrites : ∀ text, sampleTree.writeText "out.json" text =
      .ok (sampleTree.put ["out.json"] (.file text.toUTF8)) :=
    FileTree.writeText_eq_ok hpath (by decide +kernel) hlocate rfl rfl
  obtain ⟨-, -, hagree⟩ := commands_agree sampleArguments sampleTree
  obtain ⟨⟨log, hstats⟩, hsummary, hbalanced⟩ :=
    hagree {} sampleConverting load_sampleArguments hrun
  have hwritten : (sampleArguments.runOn (.convert "out.json" none) sampleTree).1.error = none := by
    rw [Arguments.runOn_convert hworks, run_writeResult (by decide +kernel) (hwrites _)]
  refine ⟨by decide +kernel, ?_, hwritten, ⟨_, hsummary "out.json" none hwritten⟩, ?_, hbalanced⟩
  · rw [hstats]
    dsimp only
    decide +kernel
  · unfold Run.Untrimmed
    decide +kernel

end Blocklist
