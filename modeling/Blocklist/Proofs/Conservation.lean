import Mathlib.Data.List.Basic
import Blocklist.Proofs.Provenance
import Blocklist.Proofs.Trimming

/-! # No rule is lost

A rule that no badfilter rule takes out of the batch is in the source map, or it is reported as
unsupported, or a limitation names it, and it is so exactly once.

* `ids_number_perm`: numbering accounts for the sources of all outcomes;
* `ids_outcomes_perm`: the outcomes account for the survivors of the badfilter rules;
* `Limits.indices_enforce_perm`: the limits account for the entries of the source map.
-/

namespace Blocklist

open Badfilter

/-- The ids of the rules of a batch that are no badfilter rules and that none of them negates: for
each rule the id of its filter and its position. -/
def survivors (filters : List Filter) : List (UInt32 × UInt32) :=
  filters.flatMap fun filter =>
    (filter.rules.filter fun r => !isErased (negators filters) r.rule).map fun r =>
      (filter.id, r.index)

/-- The errors on rules that have no declarative rule. -/
def ConversionResult.unsupported (result : ConversionResult) : List ConversionError :=
  result.errors.filter (·.declarativeId? = none)

/-- The ids of the rules that an outcome of a filter is about. -/
def outcomeIds (part : UInt32 × Outcome) : List (UInt32 × UInt32) :=
  part.2.indices.map (Prod.mk part.1)

/-- Each source of an outcome is in the source map or is rejected. -/
theorem ids_number_perm (next : Nat) (outcomes : List (UInt32 × Outcome)) :
    ((Converted.number next outcomes).sourceMap.map Source.ids ++
      (outcomes.filterMap rejection?).map ConversionError.ids).Perm
      (outcomes.flatMap outcomeIds) := by
  induction next, outcomes using numberedFrom.induct with
  | case1 => exact List.Perm.refl _
  | case2 next filterId index reason rest ih =>
    exact List.perm_middle.trans (ih.cons (filterId, index))
  | case3 next filterId draft rest ih =>
    let part : Numbered := ⟨filterId, UInt32.ofNat next, draft⟩
    show ((part.entries ++ (Converted.number (next + 1) rest).sourceMap).map Source.ids ++
      (rest.filterMap rejection?).map ConversionError.ids).Perm
        (outcomeIds (filterId, .emit draft) ++ rest.flatMap outcomeIds)
    rw [List.map_append, List.append_assoc, part.ids_entries]
    exact ih.append_left (sourceIds (filterId, draft))

/-- By their ids, the rules of an erased batch are the survivors. -/
theorem ids_origins_erase (filters : List Filter) :
    (origins (erase filters)).map Origin.ids = survivors filters := by
  have hids : ∀ batch : List Filter, (origins batch).map Origin.ids =
      batch.flatMap fun filter => filter.rules.map fun r => (filter.id, r.index) := by
    intro batch
    unfold origins
    conv_rhs => rw [← List.zipIdx_map_fst 0 batch, List.flatMap_map]
    rw [List.map_flatMap]
    refine List.flatMap_congr fun entry _ => ?_
    unfold Origin.ofFilter
    rw [List.map_map]
    rfl
  rw [hids, erase, eraseBy, List.flatMap_map]
  rfl

theorem ids_outcomes_perm (options : Options) (filters : List Filter) :
    ((options.outcomes (erase filters)).flatMap outcomeIds).Perm (survivors filters) := by
  have hplaced :=
    (options.origins_placed_perm (isBadfilter_eraseBy (negators filters) filters)).map Origin.ids
  rw [← erase, ids_origins_erase] at hplaced
  refine List.Perm.trans (List.Perm.of_eq ?_) hplaced
  rw [Options.outcomes_eq_placed, List.flatMap_map, List.map_flatMap]
  refine List.flatMap_congr fun part _ => ?_
  unfold Origin.ofOutcome
  rw [List.map_map]
  rfl

/-- Before the limits, the source map and the rejections account for the survivors. -/
theorem ids_converted_perm (options : Options) (filters : List Filter) (next : Nat) :
    (survivors filters).Perm
      ((Converted.number next (options.outcomes (erase filters))).sourceMap.map Source.ids ++
        ((options.outcomes (erase filters)).filterMap rejection?).map ConversionError.ids) :=
  ((ids_number_perm next _).trans (ids_outcomes_perm options filters)).symm

theorem indices_converted_perm (options : Options) (filters : List Filter) (next : Nat) :
    ((survivors filters).map Prod.snd).Perm
      ((Converted.number next (options.outcomes (erase filters))).sourceMap.map Source.ruleIndex ++
        ((options.outcomes (erase filters)).filterMap rejection?).map
          ConversionError.ruleIndex) := by
  have herrors : ∀ errors : List ConversionError,
      (errors.map ConversionError.ids).map Prod.snd = errors.map ConversionError.ruleIndex := by
    intro errors
    rw [List.map_map]
    exact List.map_congr_left fun e _ => e.snd_ids
  have h := (ids_converted_perm options filters next).map Prod.snd
  rw [List.map_append, List.map_map, herrors] at h
  exact h

/-- If the limits cut nothing, the source map and the errors without a declarative rule account for
the survivors. -/
theorem Options.ids_untrimmed_perm {options : Options} {filters : List Filter}
    (hids : firstId.toNat + draftCount ((options.outcomes (erase filters)).map Prod.snd) ≤
      UInt32.size) (untrimmed : (options.runOn filters).Untrimmed) :
    (options.runOn filters).result.limitations = [] ∧
      (survivors filters).Perm ((options.runOn filters).result.sourceMap.map Source.ids ++
        (options.runOn filters).result.unsupported.map ConversionError.ids) := by
  have hunsupported : (options.runOn filters).result.unsupported =
      (options.outcomes (erase filters)).filterMap rejection? :=
    untied_enforce_number hids options.limits
  have hlength := Options.untrimmed_runOn_iff.mp untrimmed
  obtain ⟨-, hsources, hlimitations⟩ :=
    Limits.enforce_untrimmed (nodup_ids_number hids) (flatMap_entriesOf_number hids) hlength
  refine ⟨hlimitations, ?_⟩
  rw [hunsupported]
  show (survivors filters).Perm ((options.limits.enforce _).sourceMap.map Source.ids ++ _)
  rw [hsources]
  exact ids_converted_perm options filters firstId.toNat

/-- Every rule that survives the badfilter rules is accounted for exactly once: by the source map,
by an error without a declarative rule, or by a limitation. If the limits cut nothing, no limitation
is there and the filters are accounted for too. -/
theorem convert_conserves (options : Options) (filters : List Filter)
    (enough : convert options filters ≠ .error .idsExhausted) :
    ∃ run, convert options filters = .ok run ∧
      ((survivors filters).map Prod.snd).Perm
        (run.result.sourceMap.map Source.ruleIndex ++
          run.result.unsupported.map ConversionError.ruleIndex ++
          run.result.limitations.flatMap Limitation.excluded) ∧
      (run.Untrimmed →
        run.result.limitations = [] ∧
        (survivors filters).Perm
          (run.result.sourceMap.map Source.ids ++
            run.result.unsupported.map ConversionError.ids)) := by
  obtain ⟨hrun, hids⟩ := convert_eq_ok enough
  have hunsupported : (options.runOn filters).result.unsupported =
      (options.outcomes (erase filters)).filterMap rejection? :=
    untied_enforce_number hids options.limits
  refine ⟨options.runOn filters, hrun, ?_, Options.ids_untrimmed_perm hids⟩
  have hlimits := Limits.indices_enforce_perm options.limits (nodup_ids_number hids)
    (flatMap_entriesOf_number hids)
  have hsurvivors := indices_converted_perm options filters firstId.toNat
  -- The limits divide the entries of the source map between its rest and the limitations.
  have hdivided := hsurvivors.trans (hlimits.symm.append_right _)
  rw [hunsupported]
  rw [List.append_assoc] at hdivided ⊢
  exact hdivided.trans (List.perm_append_comm.append_left _)

/-- The negated rules are gone. Of the others one is cut, one is unsupported, and three are left,
two of them in one declarative rule. Without limits none is cut. -/
theorem convert_conserves_sample :
    survivors sampleBatch = [(7, 1), (7, 2), (7, 3), (7, 4), (8, 2)] ∧
    (convert { limits := { regexpRules := some 1 } } sampleBatch).toOption.map (fun run =>
        (run.result.sourceMap.map Source.ruleIndex,
          run.result.unsupported.map ConversionError.ruleIndex,
          run.result.limitations.flatMap Limitation.excluded)) = some ([1, 2, 3], [4], [2]) ∧
    (∃ run, convert { limits := { regexpRules := some 1 } } sampleBatch = .ok run ∧
      ((survivors sampleBatch).map Prod.snd).Perm
        (run.result.sourceMap.map Source.ruleIndex ++
          run.result.unsupported.map ConversionError.ruleIndex ++
          run.result.limitations.flatMap Limitation.excluded)) ∧
    ∃ run, convert {} sampleBatch = .ok run ∧ run.Untrimmed ∧
      (survivors sampleBatch).Perm
        (run.result.sourceMap.map Source.ids ++
          run.result.unsupported.map ConversionError.ids) := by
  have enough : convert { limits := { regexpRules := some 1 } } sampleBatch ≠
      .error .idsExhausted := by
    decide +kernel
  have enoughFree : convert {} sampleBatch ≠ .error .idsExhausted := by
    decide +kernel
  have untrimmed : (Options.runOn {} sampleBatch).Untrimmed := by
    unfold Run.Untrimmed
    decide +kernel
  obtain ⟨run, hrun, haccounted, -⟩ :=
    convert_conserves { limits := { regexpRules := some 1 } } sampleBatch enough
  obtain ⟨free, hfree, -, hwhole⟩ := convert_conserves {} sampleBatch enoughFree
  have hsame : free = Options.runOn {} sampleBatch :=
    Except.ok.inj (hfree.symm.trans (convert_eq_ok enoughFree).1)
  rw [← hsame] at untrimmed
  exact ⟨by decide, by decide +kernel, ⟨run, hrun, haccounted⟩,
    free, hfree, untrimmed, (hwhole untrimmed).2⟩

end Blocklist
