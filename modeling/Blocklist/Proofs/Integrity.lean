import Mathlib.Data.List.Flatten
import Blocklist.Proofs.Provenance
import Blocklist.Proofs.Trimming

/-! # Results hang together

The rules, the source map and the errors of a result refer to each other by ids. Whatever the limits
cut, no reference leads nowhere, and all three lists are in the order of the ids.

* `exists_parts`: drafts that are kept are drafts of a batch, each at its place;
* `snd_placedEntries_subperm`, `placedEntries_pairwise`: their sources are rules of the batch, in
  the order of conversion;
* `coherent_of_kept`: a result that is made of kept drafts is coherent.
-/

namespace Blocklist

open Badfilter Numbered

/-- Errors of declarative rules come first, in the order of their ids. -/
def ConversionError.Precedes (a b : ConversionError) : Prop :=
  ∀ id, b.declarativeId? = some id → ∃ id', a.declarativeId? = some id' ∧ id' ≤ id

/-- The entry names the rule of the batch, and its declarative rule is what the group of the rule
made of it. -/
structure Source.About (options : Options) (filters : List Filter) (result : ConversionResult)
    (source : Source) (origin : Origin) : Prop where
  ids : source.ids = origin.ids
  made : ∃ draft : Draft, (origin.place, Outcome.emit draft) ∈ options.placed (erase filters) ∧
    origin.index ∈ draft.sources ∧
    (draft.withId source.filterId source.declarativeId).rules ⊆ result.rules

/-- The parts of a result refer to each other and to the rules of a batch. -/
structure ConversionResult.Coherent (options : Options) (filters : List Filter)
    (result : ConversionResult) : Prop where
  increasing : (result.rules.map Declarative.Rule.id).Pairwise (· < ·)
  /-- Every rule has a source. -/
  sourced : ∀ rule ∈ result.rules, ∃ source ∈ result.sourceMap, source.declarativeId = rule.id
  /-- Every source is one of a rule that is there. -/
  present : ∀ source ∈ result.sourceMap, ∃ rule ∈ result.rules, rule.id = source.declarativeId
  ordered : (result.sourceMap.map Source.declarativeId).Pairwise (· ≤ ·)
  /-- The sources are rules of the batch, none of them twice, in the order of conversion. -/
  placed : ∃ entries : List (Source × Origin), entries.map Prod.fst = result.sourceMap ∧
    (entries.map Prod.snd).Subperm (origins (erase filters)) ∧
    (∀ entry ∈ entries, entry.1.About options filters result entry.2) ∧
    entries.Pairwise fun a b => a.2.place.le b.2.place
  /-- A rule that lost a part is there, and what is said to have lost it is a source of the rule. -/
  degraded : ∀ id filterId index reason,
    ConversionError.degraded id filterId index reason ∈ result.errors →
      (∃ rule ∈ result.rules, rule.id = id) ∧ ⟨filterId, index, id⟩ ∈ result.sourceMap
  errors_ordered : result.errors.Pairwise ConversionError.Precedes

variable {next : Nat}

section Kept

variable {options : Options} {filters : List Filter} {kept : List Numbered}

/-- Drafts that are kept come from places of the batch. -/
theorem exists_parts (hsub : kept.Sublist (numberedFrom next (options.outcomes filters))) :
    ∃ parts : List (Place × Numbered),
      parts.Sublist (numberPlaced next (options.placed filters)) ∧ kept = parts.map Prod.snd := by
  rw [Options.outcomes_eq_placed, ← snd_numberPlaced] at hsub
  exact List.sublist_map_iff.mp hsub

/-- Drafts that are kept have a source, and they report on their sources only. -/
theorem grounded_of_mem_kept
    (hsub : kept.Sublist (numberedFrom next (options.outcomes filters))) :
    ∀ part ∈ kept, part.draft.Grounded := by
  obtain ⟨parts, hparts, rfl⟩ := exists_parts hsub
  intro part hpart
  obtain ⟨placed, hplaced, rfl⟩ := List.mem_map.mp hpart
  exact options.grounded_of_mem_placed (mem_of_mem_numberPlaced (hparts.subset hplaced))

/-- The sources of numbered drafts are rules of the batch. -/
theorem snd_placedEntries_subperm {parts : List (Place × Numbered)}
    (hclean : ∀ filter ∈ filters, ∀ r ∈ filter.rules, r.rule.isBadfilter = false)
    (hparts : parts.Sublist (numberPlaced next (options.placed filters))) :
    ((parts.flatMap placedEntries).map Prod.snd).Subperm (origins filters) := by
  have hrules : (parts.flatMap placedEntries).map Prod.snd =
      (parts.map fun part => (part.1, part.2.draft)).flatMap Origin.ofDraft := by
    rw [List.map_flatMap, List.flatMap_map]
    exact List.flatMap_congr fun part _ => snd_placedEntries part
  have hdrafts := hparts.map fun part => (part.1, part.2.draft)
  rw [drafts_numberPlaced] at hdrafts
  have hsub := (hdrafts.flatMap Origin.ofDraft).trans
    (Origin.ofDraft_sublist_ofOutcome (options.placed filters))
  rw [hrules]
  exact hsub.subperm.trans (options.origins_placed_perm hclean).subperm

/-- The sources of drafts come in the order of the drafts. -/
theorem placedEntries_pairwise {parts : List (Place × Numbered)}
    (hparts : parts.Pairwise fun a b => a.1.le b.1) :
    (parts.flatMap placedEntries).Pairwise fun a b => a.2.place.le b.2.place := by
  have hplace : ∀ {part : Place × Numbered} {entry : Source × Origin},
      entry ∈ placedEntries part → entry.2.place = part.1 := by
    intro part entry hentry
    obtain ⟨index, -, rfl⟩ := List.mem_map.mp hentry
    rfl
  rw [List.pairwise_flatMap]
  constructor
  · intro part _
    refine List.pairwise_of_forall_mem_list fun a ha b hb => ?_
    rw [hplace ha, hplace hb]
    exact Place.le_refl _
  · refine hparts.imp fun {x y} hle a ha b hb => ?_
    rw [hplace ha, hplace hb]
    exact hle

/-- An entry of a draft that is kept is about the rule that it is put beside. -/
theorem about_of_mem_placedEntries {parts : List (Place × Numbered)} {result : ConversionResult}
    (hparts : parts.Sublist (numberPlaced next (options.placed (erase filters))))
    (hrules : result.rules = (parts.map Prod.snd).map Numbered.rule)
    {entry : Source × Origin} (hentry : entry ∈ parts.flatMap placedEntries) :
    entry.1.About options filters result entry.2 := by
  obtain ⟨part, hpart, hmem⟩ := List.mem_flatMap.mp hentry
  obtain ⟨index, hindex, rfl⟩ := List.mem_map.mp hmem
  have hnumbered := hparts.subset hpart
  constructor
  case ids =>
    show (part.2.filterId, index) = (part.1.filterId, index)
    rw [filterId_of_mem_numberPlaced hnumbered]
  case made =>
    refine ⟨part.2.draft, mem_of_mem_numberPlaced hnumbered, hindex, ?_⟩
    show [part.2.rule] ⊆ result.rules
    have hrule : part.2.rule ∈ result.rules := by
      rw [hrules]
      exact List.mem_map_of_mem (List.mem_map_of_mem hpart)
    exact List.cons_subset.mpr ⟨hrule, List.nil_subset _⟩

end Kept

/-! ## Order -/

/-- What the drafts bring to a list is in the order of their ids if it refers to them by id. -/
theorem pairwise_flatMap_of_increasing {α : Type} {f : Numbered → List α} {R : α → α → Prop}
    {kept : List Numbered} (increasing : kept.Pairwise (·.id < ·.id))
    (h : ∀ a b : Numbered, a.id ≤ b.id → ∀ x ∈ f a, ∀ y ∈ f b, R x y) :
    (kept.flatMap f).Pairwise R := by
  rw [List.pairwise_flatMap]
  constructor
  · intro part _
    exact List.pairwise_of_forall_mem_list (h part part (UInt32.le_refl _))
  · exact increasing.imp fun hlt => h _ _ (UInt32.le_of_lt hlt)

theorem sourceMap_pairwise {kept : List Numbered} (increasing : kept.Pairwise (·.id < ·.id)) :
    ((kept.flatMap Numbered.entries).map Source.declarativeId).Pairwise (· ≤ ·) := by
  rw [List.pairwise_map]
  refine pairwise_flatMap_of_increasing increasing fun a b hle x hx y hy => ?_
  rw [declarativeId_of_mem_entries hx, declarativeId_of_mem_entries hy]
  exact hle

theorem errors_pairwise {kept : List Numbered} {untied : List ConversionError}
    (increasing : kept.Pairwise (·.id < ·.id))
    (huntied : ∀ e ∈ untied, e.declarativeId? = none) :
    (kept.flatMap Numbered.errors ++ untied).Pairwise ConversionError.Precedes := by
  have hlast : ∀ a : ConversionError, ∀ b ∈ untied, a.Precedes b := by
    intro a b hb id hid
    rw [huntied b hb] at hid
    cases hid
  rw [List.pairwise_append]
  refine ⟨?_, ?_, fun a _ b hb => hlast a b hb⟩
  · refine pairwise_flatMap_of_increasing increasing fun a b hle x hx y hy id hid => ?_
    rw [declarativeId?_of_mem_errors hy] at hid
    refine ⟨a.id, declarativeId?_of_mem_errors hx, ?_⟩
    rw [← Option.some.inj hid]
    exact hle
  · exact List.pairwise_of_forall_mem_list fun a _ b hb => hlast a b hb

/-- Reports of a draft that has its notes on its sources are about entries of its own. -/
theorem source_mem_of_mem_errors {part : Numbered} (grounded : part.draft.Grounded)
    {id filterId index : UInt32} {reason : String}
    (h : .degraded id filterId index reason ∈ part.errors) :
    id = part.id ∧ ⟨filterId, index, id⟩ ∈ part.entries := by
  obtain ⟨note, hnote, heq⟩ := List.mem_map.mp h
  cases heq
  exact ⟨rfl, List.mem_map.mpr ⟨note.1, grounded.noted note hnote, rfl⟩⟩

/-- A source of a draft that has one. -/
theorem exists_mem_entries {part : Numbered} (grounded : part.draft.Grounded) :
    ∃ source ∈ part.entries, source.declarativeId = part.id := by
  obtain ⟨index, hindex⟩ := List.exists_mem_of_ne_nil _ grounded.sourced
  exact ⟨_, List.mem_map_of_mem hindex, rfl⟩

section Result

variable {options : Options} {filters : List Filter} {kept : List Numbered}
  {untied : List ConversionError} {result : ConversionResult}

/-- A result that is made of kept drafts and of errors without a declarative rule is coherent. -/
theorem coherent_of_kept
    (hsub : kept.Sublist (numberedFrom next (options.outcomes (erase filters))))
    (increasing : kept.Pairwise (·.id < ·.id))
    (hrules : result.rules = kept.map Numbered.rule)
    (hsources : result.sourceMap = kept.flatMap Numbered.entries)
    (herrors : result.errors = kept.flatMap Numbered.errors ++ untied)
    (huntied : ∀ e ∈ untied, e.declarativeId? = none) : result.Coherent options filters := by
  have grounded := grounded_of_mem_kept hsub
  obtain ⟨parts, hparts, hkept⟩ := exists_parts hsub
  have hrule : ∀ part ∈ kept, ∃ rule ∈ result.rules, rule.id = part.id := by
    intro part hpart
    refine ⟨part.rule, ?_, rfl⟩
    rw [hrules]
    exact List.mem_map_of_mem hpart
  have hsource : ∀ part ∈ kept, ∀ source ∈ part.entries, source ∈ result.sourceMap := by
    intro part hpart source hmem
    rw [hsources]
    exact List.mem_flatMap.mpr ⟨part, hpart, hmem⟩
  constructor
  case increasing =>
    rw [List.pairwise_map, hrules, List.pairwise_map]
    exact increasing
  case sourced =>
    intro rule hmem
    rw [hrules] at hmem
    obtain ⟨part, hpart, rfl⟩ := List.mem_map.mp hmem
    obtain ⟨source, hentry, hid⟩ := exists_mem_entries (grounded part hpart)
    exact ⟨source, hsource part hpart source hentry, hid⟩
  case present =>
    intro source hmem
    rw [hsources] at hmem
    obtain ⟨part, hpart, hentry⟩ := List.mem_flatMap.mp hmem
    rw [declarativeId_of_mem_entries hentry]
    exact hrule part hpart
  case ordered =>
    rw [hsources]
    exact sourceMap_pairwise increasing
  case placed =>
    refine ⟨parts.flatMap placedEntries, ?_, ?_, fun entry hentry => ?_, ?_⟩
    · rw [hsources, hkept, List.map_flatMap, List.flatMap_map]
      exact List.flatMap_congr fun part _ => fst_placedEntries part
    · exact snd_placedEntries_subperm (isBadfilter_eraseBy _ filters) hparts
    · rw [hkept] at hrules
      exact about_of_mem_placedEntries hparts hrules hentry
    · exact placedEntries_pairwise ((numberPlaced_pairwise options _ next).sublist hparts)
  case degraded =>
    intro id filterId index reason hmem
    rw [herrors] at hmem
    rcases List.mem_append.mp hmem with htied | hrejected
    · obtain ⟨part, hpart, he⟩ := List.mem_flatMap.mp htied
      obtain ⟨hid, hentry⟩ := source_mem_of_mem_errors (grounded part hpart) he
      refine ⟨?_, hsource part hpart _ hentry⟩
      rw [hid]
      exact hrule part hpart
    · cases huntied _ hrejected
  case errors_ordered =>
    rw [herrors]
    exact errors_pairwise increasing huntied

end Result

/-- Every conversion for which the ids suffice gives a coherent result, and the ids are those from
one on if the limits cut nothing. -/
theorem convert_coherent (options : Options) (filters : List Filter)
    (enough : convert options filters ≠ .error .idsExhausted) :
    ∃ run, convert options filters = .ok run ∧ run.result.Coherent options filters ∧
      (run.Untrimmed →
        run.result.rules.map (·.id.toNat) = List.range' 1 run.result.rules.length) := by
  obtain ⟨hrun, hids⟩ := convert_eq_ok enough
  obtain ⟨kept, hsub, hrules, hsources, herrors⟩ := exists_kept hids options.limits
  have increasing : kept.Pairwise (·.id < ·.id) := (numberedFrom_pairwise hids).sublist hsub
  refine ⟨options.runOn filters, hrun, ?_, fun untrimmed => ?_⟩
  · exact coherent_of_kept hsub increasing hrules hsources herrors
      fun _ => declarativeId?_of_mem_rejections
  · -- As many drafts are kept as there are, so all of them are kept.
    have hlength := Options.untrimmed_runOn_iff.mp untrimmed
    have hrules' : (options.runOn filters).result.rules = kept.map Numbered.rule := hrules
    rw [hrules', rules_number, List.length_map, List.length_map] at hlength
    have hall := hsub.eq_of_length hlength
    have hdense := ids_numberedFrom hids
    rw [← length_numberedFrom firstId.toNat, ← hall] at hdense
    rw [hrules', List.map_map, List.length_map]
    exact hdense

/-- If one of three declarative rules is cut, the result still hangs together. Without limits the
ids are dense. -/
theorem convert_coherent_sample :
    (∃ run, convert { limits := { regexpRules := some 1 } } sampleBatch = .ok run ∧
      run.result.Coherent { limits := { regexpRules := some 1 } } sampleBatch) ∧
    (convert { limits := { regexpRules := some 1 } } sampleBatch).toOption.map
      (fun run => (run.result.rules.map Declarative.Rule.id, run.result.sourceMap)) =
        some ([1, 2], [⟨7, 1, 1⟩, ⟨7, 2, 2⟩, ⟨7, 3, 2⟩]) ∧
    ∃ run, convert {} sampleBatch = .ok run ∧ run.result.Coherent {} sampleBatch ∧
      run.Untrimmed ∧
      run.result.rules.map (·.id.toNat) = List.range' 1 run.result.rules.length := by
  have enough : convert { limits := { regexpRules := some 1 } } sampleBatch ≠
      .error .idsExhausted := by
    decide +kernel
  have enoughFree : convert {} sampleBatch ≠ .error .idsExhausted := by
    decide +kernel
  have untrimmed : (Options.runOn {} sampleBatch).Untrimmed := by
    unfold Run.Untrimmed
    decide +kernel
  obtain ⟨run, hrun, hcoherent, -⟩ :=
    convert_coherent { limits := { regexpRules := some 1 } } sampleBatch enough
  obtain ⟨free, hfree, hcoherentFree, hdense⟩ := convert_coherent {} sampleBatch enoughFree
  have hsame : free = Options.runOn {} sampleBatch :=
    Except.ok.inj (hfree.symm.trans (convert_eq_ok enoughFree).1)
  rw [← hsame] at untrimmed
  exact ⟨⟨run, hrun, hcoherent⟩, by decide +kernel,
    free, hfree, hcoherentFree, untrimmed, hdense untrimmed⟩

end Blocklist
