import Mathlib.Data.List.Basic
import Mathlib.Data.List.Forall2
import Blocklist.Proofs.Assembly

/-! # Loading file by file

Files are loaded one after the other, and the first that cannot be read ends it. So what is loaded
from some files and then from some others is what is loaded from all of them. A rule of a file is
in its filter then, or it is counted among those that were skipped.

* `loadFiles_eq`: all files are read, and what stands in them is built;
* `loadFiles_append`: loading some files and then some more;
* `builds_filterMap`: the rules of a filter are those of its inputs that can be built;
* `Loaded.accountsFor_ofInputs`: no rule is lost, and none is counted twice;
* `exists_builtBy_of_loadFilters`: the rules that are loaded are built by options;
* `loadFilters_append`: the same for the command, which wants one file at least.
-/

namespace Blocklist

open Json (Reader)

/-! ## What stands in files -/

/-- The file could be read, and these filters stand in it. -/
def FileHolds (file : InputFile) (inputs : List FilterInput) : Prop :=
  ∃ text, file.2 = .ok text ∧ Json.readText (Reader.list FilterInput.read) text = .ok inputs

/-- The filters that stand in a file, before any rule of them is built. -/
def inputsOf (file : InputFile) : Except LoadError (List FilterInput) :=
  match file.2 with
  | .error e => .error (.unreadable file.1 e)
  | .ok text =>
    match Json.readText (Reader.list FilterInput.read) text with
    | .error e => .error (.unparsable file.1 e)
    | .ok inputs => .ok inputs

theorem fileHolds_of_inputsOf {file : InputFile} {inputs : List FilterInput}
    (h : inputsOf file = .ok inputs) : FileHolds file inputs := by
  unfold inputsOf at h
  split at h
  · cases h
  · next text hcontent =>
    split at h
    · cases h
    · next read hread =>
      rw [← Except.ok.inj h]
      exact ⟨text, hcontent, hread⟩

/-- If several steps of one kind succeed, then each of them does. -/
theorem forall₂_of_mapM {ε α β : Type} {f : α → Except ε β} {xs : List α} {ys : List β}
    (h : xs.mapM f = .ok ys) : List.Forall₂ (fun x y => f x = .ok y) xs ys := by
  induction xs generalizing ys with
  | nil =>
    cases h
    exact .nil
  | cons x xs ih =>
    rw [List.mapM_cons] at h
    obtain ⟨y, hy, h⟩ := exists_ok_of_bind h
    obtain ⟨rest, hrest, h⟩ := exists_ok_of_bind h
    cases h
    exact .cons hy (ih hrest)

/-! ## What is loaded -/

namespace Loaded

theorem append_assoc (a b c : Loaded) : a ++ b ++ c = a ++ (b ++ c) := by
  have hfilters := List.append_assoc a.filters b.filters c.filters
  have htotal := Nat.add_assoc a.total b.total c.total
  have hskipped := Nat.add_assoc a.skipped b.skipped c.skipped
  exact Loaded.mk.injEq .. ▸ ⟨hfilters, htotal, hskipped⟩

/-- What is loaded if these filters stand in the files. -/
def ofInputs (inputs : List FilterInput) : Loaded :=
  inputs.foldr (fun input more => input.load ++ more) {}

theorem foldr_load (inputs : List FilterInput) (more : Loaded) :
    inputs.foldr (fun input more => input.load ++ more) more = ofInputs inputs ++ more := by
  induction inputs with
  | nil =>
    show more = ⟨[] ++ more.filters, 0 + more.total, 0 + more.skipped⟩
    rw [Nat.zero_add, Nat.zero_add]
    rfl
  | cons input rest ih =>
    rw [List.foldr_cons, ih]
    exact (append_assoc _ _ _).symm

theorem ofInputs_append (inputs others : List FilterInput) :
    ofInputs (inputs ++ others) = ofInputs inputs ++ ofInputs others := by
  rw [ofInputs, List.foldr_append]
  exact foldr_load inputs (ofInputs others)

end Loaded

/-- A file is read first, and then the files behind it are loaded. -/
theorem loadFiles_cons (file : InputFile) (rest : List InputFile) :
    (loadFiles (file :: rest)).2 = do
      let inputs ← inputsOf file
      let more ← (loadFiles rest).2
      return Loaded.ofInputs inputs ++ more := by
  obtain ⟨path, content⟩ := file
  cases content with
  | error e => rfl
  | ok text =>
    rw [loadFiles, inputsOf]
    dsimp only
    cases Json.readText (Reader.list FilterInput.read) text with
    | error e => rfl
    | ok inputs =>
      dsimp only
      rw [ok_bind]
      cases (loadFiles rest).2 with
      | error e => rfl
      | ok more => exact congrArg Except.ok (Loaded.foldr_load inputs more)

/-- All files are read, and what stands in them is built. -/
theorem loadFiles_eq (files : List InputFile) :
    (loadFiles files).2 =
      (files.mapM inputsOf).map fun parts => Loaded.ofInputs parts.flatten := by
  induction files with
  | nil => rfl
  | cons file rest ih =>
    rw [loadFiles_cons, List.mapM_cons, ih]
    cases inputsOf file with
    | error e => rfl
    | ok inputs =>
      cases rest.mapM inputsOf with
      | error e => rfl
      | ok parts => exact congrArg Except.ok (Loaded.ofInputs_append inputs parts.flatten).symm

/-- Some files and then some more are loaded like all of them. -/
theorem loadFiles_append (files others : List InputFile) :
    (loadFiles (files ++ others)).2 = do
      let first ← (loadFiles files).2
      let second ← (loadFiles others).2
      return first ++ second := by
  rw [loadFiles_eq, loadFiles_eq, loadFiles_eq, List.mapM_append]
  cases files.mapM inputsOf with
  | error e => rfl
  | ok parts =>
    cases others.mapM inputsOf with
    | error e => rfl
    | ok more =>
      have hparts : Loaded.ofInputs (parts ++ more).flatten =
          Loaded.ofInputs parts.flatten ++ Loaded.ofInputs more.flatten := by
        rw [List.flatten_append, Loaded.ofInputs_append]
      exact congrArg Except.ok hparts

/-! ## What becomes of rules -/

/-- An option as it is written, with its name and its value. -/
inductive ReadsAs : String → String × String → Prop where
  | name {option : String} : '=' ∉ option.toList → ReadsAs option (option, "")
  /-- The name ends before the first equals sign. -/
  | value {name value : String} : '=' ∉ name.toList → ReadsAs (name ++ "=" ++ value) (name, value)

theorem readsAs_splitOption (option : String) : ReadsAs option (splitOption option) := by
  unfold splitOption
  split
  · next name value hcut =>
    obtain ⟨htext, hfirst⟩ := Text.cutAt_eq_some_iff.mp hcut
    have hoption : option = String.ofList name ++ "=" ++ String.ofList value := by
      rw [← String.toList_inj, htext]
      simp
    rw [hoption]
    exact .value (by rwa [String.toList_ofList])
  · next hnone => exact .name (Text.cutAt_eq_none_iff.mp hnone)

/-- The rules in a file, and those that are built of them. Each rule is built on its own. -/
inductive Builds : List RuleInput → List SourceRule → Prop where
  | nil : Builds [] []
  | built {input : RuleInput} {options : List (String × String)} {rule : Rule}
      {inputs : List RuleInput} {rules : List SourceRule} :
      List.Forall₂ ReadsAs input.options options →
      (Rule.bare input.pattern input.allowlist).withOptions options = .ok rule →
      Builds inputs rules → Builds (input :: inputs) (⟨input.index, rule⟩ :: rules)
  | skipped {input : RuleInput} {options : List (String × String)} {e : RuleError}
      {inputs : List RuleInput} {rules : List SourceRule} :
      List.Forall₂ ReadsAs input.options options →
      (Rule.bare input.pattern input.allowlist).withOptions options = .error e →
      Builds inputs rules → Builds (input :: inputs) rules

theorem builds_filterMap (inputs : List RuleInput) :
    Builds inputs (inputs.filterMap RuleInput.sourceRule?) := by
  induction inputs with
  | nil => exact .nil
  | cons input rest ih =>
    have hoptions : List.Forall₂ ReadsAs input.options (input.options.map splitOption) :=
      List.forall₂_map_right_iff.mpr
        (List.forall₂_same.mpr fun option _ => readsAs_splitOption option)
    rw [List.filterMap_cons]
    unfold RuleInput.sourceRule?
    cases hbuild : input.build with
    | error e => exact .skipped hoptions hbuild ih
    | ok rule => exact .built hoptions hbuild ih

/-- All rules of a filter are built by the options that stand in the file. -/
theorem Builds.exists_builtBy {inputs : List RuleInput} {rules : List SourceRule}
    (h : Builds inputs rules) : ∀ r ∈ rules, ∃ options, r.rule.BuiltBy options := by
  induction h with
  | nil =>
    intro r hr
    cases hr
  | @built _ options _ _ _ _ hrule _ ih =>
    refine List.forall_mem_cons.mpr ⟨⟨options, ?_⟩, ih⟩
    rw [Rule.BuiltBy, (Rule.withOptions_frame hrule).1, (Rule.withOptions_frame hrule).2]
    exact hrule
  | skipped _ _ _ ih => exact ih

/-- Each rule in a file can be built or is counted. -/
theorem length_eq_countP_add_filterMap (inputs : List RuleInput) :
    inputs.length = inputs.countP (fun input => input.sourceRule?.isNone) +
      (inputs.filterMap RuleInput.sourceRule?).length := by
  rw [List.length_filterMap_eq_countP,
    List.length_eq_countP_add_countP fun input : RuleInput => input.sourceRule?.isNone]
  refine congrArg _ (List.countP_congr fun input _ => ?_)
  cases input.sourceRule? <;> simp

/-- The filter is what a filter in a file becomes. -/
structure FilterInput.Becomes (input : FilterInput) (filter : Filter) : Prop where
  id : filter.id = input.filterId
  rules : Builds input.rules filter.rules

namespace Loaded

/-- What is loaded accounts for all that stands in the files. -/
structure AccountsFor (inputs : List FilterInput) (loaded : Loaded) : Prop where
  /-- There is one filter for each, even if none of its rules can be built. -/
  filters : List.Forall₂ FilterInput.Becomes inputs loaded.filters
  total : loaded.total = (inputs.flatMap FilterInput.rules).length
  skipped : loaded.total = loaded.skipped + (loaded.filters.flatMap Filter.rules).length

theorem accountsFor_load (input : FilterInput) : input.load.AccountsFor [input] where
  filters := .cons ⟨rfl, builds_filterMap input.rules⟩ .nil
  total := by
    rw [List.flatMap_singleton]
    rfl
  skipped := by
    have hrules : (input.load.filters.flatMap Filter.rules) =
        input.rules.filterMap RuleInput.sourceRule? :=
      List.flatMap_singleton _ _
    rw [hrules]
    exact length_eq_countP_add_filterMap input.rules

theorem AccountsFor.append {inputs others : List FilterInput} {first second : Loaded}
    (h : first.AccountsFor inputs) (hsecond : second.AccountsFor others) :
    (first ++ second).AccountsFor (inputs ++ others) where
  filters := List.rel_append h.filters hsecond.filters
  total := by
    rw [List.flatMap_append, List.length_append, ← h.total, ← hsecond.total]
    rfl
  skipped := by
    show first.total + second.total = first.skipped + second.skipped +
      ((first.filters ++ second.filters).flatMap Filter.rules).length
    rw [List.flatMap_append, List.length_append, h.skipped, hsecond.skipped]
    omega

/-- No rule is lost, and none is counted twice. -/
theorem accountsFor_ofInputs (inputs : List FilterInput) :
    (ofInputs inputs).AccountsFor inputs := by
  induction inputs with
  | nil => exact ⟨.nil, rfl, rfl⟩
  | cons input rest ih => exact (accountsFor_load input).append ih

end Loaded

/-! ## One file at least -/

theorem loadFilters_of_ne_nil {files : List InputFile} (h : files ≠ []) :
    loadFilters files = loadFiles files := by
  rw [loadFilters, List.isEmpty_eq_false_iff.mpr h]
  rfl

theorem accountsFor_of_loadFilters {files : List InputFile} {loaded : Loaded}
    (h : (loadFilters files).2 = .ok loaded) :
    ∃ parts, List.Forall₂ FileHolds files parts ∧ loaded.AccountsFor parts.flatten := by
  have hne : files ≠ [] := by
    rintro rfl
    cases h
  rw [loadFilters_of_ne_nil hne, loadFiles_eq] at h
  obtain ⟨parts, hparts, rfl⟩ := exists_ok_of_map h
  exact ⟨parts, (forall₂_of_mapM hparts).imp fun _ _ => fileHolds_of_inputsOf,
    Loaded.accountsFor_ofInputs parts.flatten⟩

/-- All rules that are loaded from files are built by some options. -/
theorem exists_builtBy_of_loadFilters {files : List InputFile} {loaded : Loaded}
    (h : (loadFilters files).2 = .ok loaded) :
    ∀ filter ∈ loaded.filters, ∀ r ∈ filter.rules, ∃ options, r.rule.BuiltBy options := by
  obtain ⟨parts, -, haccounts⟩ := accountsFor_of_loadFilters h
  have becomes := haccounts.filters
  generalize parts.flatten = inputs, loaded.filters = filters at becomes
  induction becomes with
  | nil =>
    intro filter hfilter
    cases hfilter
  | cons first _ ih => exact List.forall_mem_cons.mpr ⟨first.rules.exists_builtBy, ih⟩

/-- Files can be loaded just if those in front and those behind can, and then the filters of those
behind follow and the counters are added. Otherwise the error is that of the files in front, if they
have one. Whatever is loaded accounts for all rules in the files. -/
theorem loadFilters_append :
    (∀ files others : List InputFile, files ≠ [] → others ≠ [] →
      (∀ loaded, (loadFilters (files ++ others)).2 = .ok loaded ↔
        ∃ first second, (loadFilters files).2 = .ok first ∧ (loadFilters others).2 = .ok second ∧
          loaded = ⟨first.filters ++ second.filters, first.total + second.total,
            first.skipped + second.skipped⟩) ∧
      ∀ e, (loadFilters (files ++ others)).2 = .error e ↔
        (loadFilters files).2 = .error e ∨
          (∃ first, (loadFilters files).2 = .ok first) ∧ (loadFilters others).2 = .error e) ∧
    ∀ (files : List InputFile) (loaded : Loaded), (loadFilters files).2 = .ok loaded →
      ∃ parts, List.Forall₂ FileHolds files parts ∧ loaded.AccountsFor parts.flatten := by
  refine ⟨fun files others hfiles hothers => ?_, fun files loaded => accountsFor_of_loadFilters⟩
  rw [loadFilters_of_ne_nil (List.append_ne_nil_of_left_ne_nil hfiles others),
    loadFilters_of_ne_nil hfiles, loadFilters_of_ne_nil hothers, loadFiles_append]
  refine ⟨fun loaded => ⟨fun h => ?_, ?_⟩, fun e => ?_⟩
  · obtain ⟨first, hfirst, h⟩ := exists_ok_of_bind h
    obtain ⟨second, hsecond, h⟩ := exists_ok_of_bind h
    exact ⟨first, second, hfirst, hsecond, (Except.ok.inj h).symm⟩
  · rintro ⟨first, second, hfirst, hsecond, rfl⟩
    rw [hfirst, hsecond, ok_bind, ok_bind]
    rfl
  · rw [bind_eq_error_iff]
    constructor
    · rintro (h | ⟨first, hfirst, h⟩)
      · exact .inl h
      · rcases bind_eq_error_iff.mp h with hothers | ⟨second, -, h⟩
        · exact .inr ⟨⟨first, hfirst⟩, hothers⟩
        · cases h
    · rintro (h | ⟨⟨first, hfirst⟩, hothers⟩)
      · exact .inl h
      · exact .inr ⟨first, hfirst, bind_eq_error_iff.mpr (.inl hothers)⟩

/-- A file with one filter, which has a rule with a policy and one with an empty policy. -/
def sampleFront : InputFile :=
  ("a.json", .ok "[[7, [[3, \"||a.example^\", false, [\"csp=sandbox; x=y\", \"script\"]],
    [4, \"||b.example^\", false, [\"csp\"]]]]]")

/-- A file with one filter, whose only rule has an unknown option. -/
def sampleBehind : InputFile :=
  ("b.json", .ok "[[8, [[5, \"||c.example^\", true, [\"popups=\"]]]]]")

/-- What is loaded from the first file. -/
def sampleLoaded : Loaded where
  filters := [⟨7, [⟨3, { pattern := "||a.example^", allowlist := false
                         permittedTypes := .single .script
                         modifier := some (.csp "sandbox; x=y") }⟩]⟩]
  total := 2
  skipped := 1

/-- The filter of the second file is kept without its rule. A third file that does not exist ends
the loading of all. -/
theorem loadFilters_append_sample :
    (loadFilters [sampleFront]).2 = .ok sampleLoaded ∧
    (loadFilters [sampleFront, sampleBehind]).2 =
      .ok ⟨sampleLoaded.filters ++ [⟨8, []⟩], 3, 2⟩ ∧
    (loadFilters [sampleFront, ("c.json", .error .notFound), sampleBehind]).2 =
      .error (.unreadable "c.json" .notFound) ∧
    ∃ parts, List.Forall₂ FileHolds [sampleFront] parts ∧
      sampleLoaded.AccountsFor parts.flatten := by
  obtain ⟨happend, haccounts⟩ := loadFilters_append
  have hfront : (loadFilters [sampleFront]).2 = .ok sampleLoaded := by
    decide +kernel
  have hbehind : (loadFilters [sampleBehind]).2 = .ok ⟨[⟨8, []⟩], 1, 1⟩ := by
    decide +kernel
  obtain ⟨hboth, -⟩ :=
    happend [sampleFront] [sampleBehind] (List.cons_ne_nil _ _) (List.cons_ne_nil _ _)
  obtain ⟨-, hmissing⟩ := happend [sampleFront] [("c.json", .error .notFound), sampleBehind]
    (List.cons_ne_nil _ _) (List.cons_ne_nil _ _)
  exact ⟨hfront, (hboth _).mpr ⟨_, _, hfront, hbehind, rfl⟩,
    (hmissing _).mpr (.inr ⟨⟨_, hfront⟩, rfl⟩), haccounts _ _ hfront⟩

end Blocklist
