import Mathlib.Data.List.Forall2
import Mathlib.Data.List.Perm.Basic
import Blocklist.Proofs.Renumbering
import Blocklist.Proofs.Resources

/-! # Conversions with different paths of the resources

Two conversions of a batch that have different paths of the resources, or of which one has none, are
compared.

* `alike_convert`: with another path, the result has other targets and is the same otherwise;
* `convert_without_path`: without a path, redirecting rules are reported and change nothing else;
* `renumbered_convert`: if nothing is cut, the other rules have the ids that are left to them.
-/

namespace Blocklist

open Badfilter

/-! ## Batches -/

open GroupOfFilter

/-- A batch without its redirecting rules. -/
def withoutRedirects (filters : List Filter) : List Filter :=
  filters.map fun filter =>
    { filter with rules := filter.rules.filter fun r => !r.rule.isRedirect }

/-- The reports on the redirecting rules of a batch when there is no path, one for each rule. -/
def redirectReports (filters : List Filter) : List ConversionError :=
  filters.flatMap fun filter =>
    (filter.rules.filter (·.rule.isRedirect)).map (redirectReport filter.id)

namespace GroupOfFilter

theorem ofBatch_withoutRedirects (filters : List Filter) :
    ofBatch ((Blocklist.withoutRedirects filters).map .ofFilter) =
      (ofBatch (filters.map .ofFilter)).map withoutRedirects := by
  unfold ofBatch Blocklist.withoutRedirects
  rw [List.map_map, List.flatMap_map, List.flatMap_map, List.map_flatMap]
  refine List.flatMap_congr fun filter _ => ?_
  rw [List.map_map]
  refine List.map_congr_left fun group _ => ?_
  show (⟨filter.id, group, (GroupedRules.ofRules (filter.rules.filter _)).get group⟩ :
    GroupOfFilter) = ⟨filter.id, group, ((GroupedRules.ofRules filter.rules).get group).filter _⟩
  rw [GroupedRules.ofRules_filter, GroupedRules.get_map]

/-- The reports on the groups of a batch are those on the batch. -/
theorem redirectReports_ofBatch_perm (filters : List Filter) :
    ((ofBatch (filters.map .ofFilter)).flatMap redirectReports).Perm
      (Blocklist.redirectReports filters) := by
  unfold ofBatch Blocklist.redirectReports
  rw [List.flatMap_map, List.flatMap_assoc]
  refine List.Perm.flatMap_left _ fun filter _ => ?_
  have hgroups : (Group.all.map fun group =>
      (⟨filter.id, group, (GroupedRules.ofRules filter.rules).get group⟩ :
        GroupOfFilter)).flatMap redirectReports =
      ((GroupedRules.ofRules filter.rules).toList.filter (·.rule.isRedirect)).map
        (redirectReport filter.id) := by
    rw [List.flatMap_map, GroupedRules.toList, List.filter_flatMap, List.map_flatMap]
    rfl
  have hsorted := ((GroupedRules.toList_ofRules_perm filter.rules).filter
    (·.rule.isRedirect)).map (redirectReport filter.id)
  exact (List.Perm.of_eq hgroups).trans hsorted

end GroupOfFilter

/-- Without a path, a batch has the drafts that it has with one, but for those that lead to a
resource. -/
theorem Options.draftsOf_outcomes_none (options : Options) (path : String)
    (filters : List Filter) :
    draftsOf ((options.withResources none).outcomes filters) =
      (draftsOf ((options.withResources (some path)).outcomes filters)).filter
        (·.2.action.extensionPath?.isNone) := by
  rw [Options.outcomes_eq_flatMap, Options.outcomes_eq_flatMap, draftsOf, draftsOf,
    List.filterMap_flatMap, List.filterMap_flatMap, List.filter_flatMap]
  exact List.flatMap_congr fun part _ => GroupOfFilter.draftsOf_outcomes_none path

section Survivors

variable {filters : List Filter}
  (hbad : ∀ filter ∈ filters, ∀ r ∈ filter.rules, r.rule.isBadfilter = false)
include hbad

theorem Options.draftsOf_withoutRedirects (options : Options) :
    draftsOf ((options.withResources none).outcomes (withoutRedirects filters)) =
      draftsOf ((options.withResources none).outcomes filters) := by
  rw [Options.outcomes_eq_flatMap, Options.outcomes_eq_flatMap, ofBatch_withoutRedirects,
    List.flatMap_map, draftsOf, draftsOf, List.filterMap_flatMap, List.filterMap_flatMap]
  exact List.flatMap_congr fun part hpart =>
    GroupOfFilter.draftsOf_withoutRedirects (sorted_of_mem_ofBatch hbad hpart)

theorem Options.rejections_withoutRedirects_perm (options : Options) :
    (((options.withResources none).outcomes filters).filterMap rejection?).Perm
      (redirectReports filters ++
        ((options.withResources none).outcomes (withoutRedirects filters)).filterMap
          rejection?) := by
  rw [Options.outcomes_eq_flatMap, Options.outcomes_eq_flatMap, ofBatch_withoutRedirects,
    List.flatMap_map, List.filterMap_flatMap, List.filterMap_flatMap]
  have hparts : ((ofBatch (filters.map .ofFilter)).flatMap fun part =>
      (part.outcomes none).filterMap rejection?).Perm
        ((ofBatch (filters.map .ofFilter)).flatMap fun part => part.redirectReports ++
          (part.withoutRedirects.outcomes none).filterMap rejection?) :=
    List.Perm.flatMap_left _ fun part hpart =>
      GroupOfFilter.rejections_withoutRedirects_perm (sorted_of_mem_ofBatch hbad hpart)
  have hreports := redirectReports_ofBatch_perm filters
  exact hparts.trans ((List.flatMap_append_perm _ _ _).symm.trans (hreports.append_right _))

/-- A batch of survivors has no badfilter rules without its redirecting rules either. -/
theorem erase_withoutRedirects : erase (withoutRedirects filters) = withoutRedirects filters := by
  refine erase_eq_self fun filter hfilter r hr => ?_
  obtain ⟨original, horiginal, rfl⟩ := List.mem_map.mp hfilter
  exact hbad original horiginal r (List.mem_filter.mp hr).1

end Survivors

/-! ## Conversions -/

/-- Two conversions both run out of ids, or both succeed with results that are related by `R`. -/
inductive Parallel (R : ConversionResult → ConversionResult → Prop) :
    Except Failure Run → Except Failure Run → Prop where
  | exhausted : Parallel R (.error .idsExhausted) (.error .idsExhausted)
  | done {a b : Run} (h : R a.result b.result) : Parallel R (.ok a) (.ok b)

/-- The first result has some more reports on rules without a declarative rule, and nothing else is
different. -/
structure ConversionResult.ReportsMore (more : List ConversionError) (a b : ConversionResult) :
    Prop where
  rules : a.rules = b.rules
  sourceMap : a.sourceMap = b.sourceMap
  degraded : a.degraded = b.degraded
  limitations : a.limitations = b.limitations
  unsupported : a.unsupported.Perm (more ++ b.unsupported)

/-- Batches with as many drafts run out of ids together. -/
theorem parallel_convert {R : ConversionResult → ConversionResult → Prop} {options other : Options}
    {filters batch : List Filter}
    (hcount : draftCount ((options.outcomes (erase filters)).map Prod.snd) =
      draftCount ((other.outcomes (erase batch)).map Prod.snd))
    (h : firstId.toNat + draftCount ((options.outcomes (erase filters)).map Prod.snd) ≤
      UInt32.size → R (options.runOn filters).result (other.runOn batch).result) :
    Parallel R (convert options filters) (convert other batch) := by
  rw [convert_eq, convert_eq, ← hcount]
  by_cases hids : firstId.toNat + draftCount ((options.outcomes (erase filters)).map Prod.snd) <
      UInt32.size
  · rw [if_pos hids, if_pos hids]
    exact .done (h (Nat.le_of_lt hids))
  · rw [if_neg hids, if_neg hids]
    exact .exhausted

section Runs

variable (options : Options) (filters : List Filter) (p q : String)

theorem Options.alike_outcomes :
    List.Forall₂ (AlikeIn (Retargeted p q)) ((options.withResources (some p)).outcomes filters)
      ((options.withResources (some q)).outcomes filters) := by
  rw [Options.outcomes_eq_flatMap, Options.outcomes_eq_flatMap]
  induction ofBatch (filters.map .ofFilter) with
  | nil => exact .nil
  | cons part rest ih =>
    rw [List.flatMap_cons, List.flatMap_cons]
    refine List.rel_append ?_ ih
    show List.Forall₂ _ ((part.group.outcomes _ _).map _) ((part.group.outcomes _ _).map _)
    rw [List.forall₂_map_left_iff, List.forall₂_map_right_iff]
    exact (Group.alike_outcomes p q part.group part.rules).imp fun _ _ h => ⟨rfl, h⟩

/-- With another path, only the targets of a result change. -/
theorem alike_convert :
    Parallel (ConversionResult.Alike (Retargeted p q))
      (convert (options.withResources (some p)) filters)
      (convert (options.withResources (some q)) filters) := by
  have houtcomes := options.alike_outcomes (erase filters) p q
  refine parallel_convert (draftCount_alike houtcomes) fun _ => ?_
  obtain ⟨hrules, hsources, herrors⟩ := alike_number houtcomes firstId.toNat
  exact Limits.alike_enforce options.limits hrules hsources herrors

variable {p q} in
/-- Slashes at the end of the path do not matter to a conversion. -/
theorem convert_congr_slashes (h : Text.withoutEnd '/' p.toList = Text.withoutEnd '/' q.toList) :
    convert (options.withResources (some p)) filters =
      convert (options.withResources (some q)) filters := by
  have haction : Regular.action (some p) = Regular.action (some q) :=
    funext (Regular.action_congr_slashes h)
  have hgroup : Group.outcomes (some p) = Group.outcomes (some q) := by
    funext group rules
    by_cases hregular : group = .regular
    · subst hregular
      show Regular.outcomes _ rules = Regular.outcomes _ rules
      unfold Regular.outcomes Regular.draft
      rw [haction]
    · exact Group.outcomes_congr hregular _ _ rules
  have hsections : FilterSections.ofFilter (some p) = FilterSections.ofFilter (some q) := by
    funext filter
    unfold FilterSections.ofFilter
    rw [hgroup]
  unfold convert Options.withResources
  rw [hsections]

/-- Without a path, redirecting rules are reported, and nothing else comes from them. -/
theorem convert_without_path :
    Parallel (ConversionResult.ReportsMore (redirectReports (erase filters)))
      (convert (options.withResources none) filters)
      (convert (options.withResources none) (withoutRedirects (erase filters))) := by
  have hbad : ∀ filter ∈ erase filters, ∀ r ∈ filter.rules, r.rule.isBadfilter = false :=
    isBadfilter_eraseBy (negators filters) filters
  have herase : erase (withoutRedirects (erase filters)) = withoutRedirects (erase filters) :=
    erase_withoutRedirects hbad
  have hdrafts := options.draftsOf_withoutRedirects hbad
  have hcount : draftCount (((options.withResources none).outcomes (erase filters)).map Prod.snd) =
      draftCount (((options.withResources none).outcomes
        (erase (withoutRedirects (erase filters)))).map Prod.snd) := by
    rw [herase, ← length_draftsOf, ← length_draftsOf]
    exact congrArg List.length hdrafts.symm
  refine parallel_convert hcount fun hids => ?_
  have hnumbered : numberedFrom firstId.toNat
      ((options.withResources none).outcomes (erase filters)) =
        numberedFrom firstId.toNat ((options.withResources none).outcomes
          (erase (withoutRedirects (erase filters)))) := by
    rw [numberedFrom_eq, numberedFrom_eq, herase, hdrafts]
  obtain ⟨hrules, hsources, hdegraded, hlimitations⟩ := Limits.enforce_congr_tied options.limits
    (a := .number firstId.toNat ((options.withResources none).outcomes (erase filters)))
    (b := .number firstId.toNat ((options.withResources none).outcomes
      (erase (withoutRedirects (erase filters)))))
    (by rw [rules_number, rules_number, hnumbered])
    (by rw [sourceMap_number, sourceMap_number, hnumbered])
    (by rw [Converted.tiedErrors, tiedErrors_number, Converted.tiedErrors, tiedErrors_number,
      hnumbered])
  refine ⟨hrules, hsources, hdegraded, hlimitations, ?_⟩
  have hunsupported := untied_enforce_number hids options.limits
  have hothers := untied_enforce_number (hcount ▸ hids) options.limits
  show (ConversionResult.unsupported (options.limits.enforce _)).Perm
    (_ ++ ConversionResult.unsupported (options.limits.enforce _))
  rw [ConversionResult.unsupported, ConversionResult.unsupported, hunsupported, hothers, herase]
  exact options.rejections_withoutRedirects_perm hbad

/-- Without a path, and if the limits cut nothing, the rules that do not redirect stay as they are
but for their ids. -/
theorem renumbered_convert {full : Run}
    (hfull : convert (options.withResources (some p)) filters = .ok full)
    (untrimmed : full.Untrimmed) :
    ∃ bare, convert (options.withResources none) filters = .ok bare ∧
      (bare.Untrimmed →
        bare.result.Renumbered
          ((full.result.rules.filter (·.action.extensionPath?.isNone)).map Declarative.Rule.id)
          full.result) := by
  have enough : convert (options.withResources (some p)) filters ≠ .error .idsExhausted := by
    rw [hfull]
    exact fun h => by cases h
  obtain ⟨hrun, hids⟩ := convert_eq_ok enough
  have hsame : full = (options.withResources (some p)).runOn filters :=
    Except.ok.inj (hfull.symm.trans hrun)
  subst hsame
  have hdrafts := options.draftsOf_outcomes_none p (erase filters)
  have hcount : draftCount (((options.withResources none).outcomes (erase filters)).map Prod.snd) ≤
      draftCount (((options.withResources (some p)).outcomes (erase filters)).map Prod.snd) := by
    rw [← length_draftsOf, ← length_draftsOf, hdrafts]
    exact List.length_filter_le ..
  have hlast : firstId.toNat +
      draftCount (((options.withResources (some p)).outcomes (erase filters)).map Prod.snd) <
        UInt32.size := by
    by_contra hover
    rw [convert_eq, if_neg hover] at hfull
    cases hfull
  have hbare : convert (options.withResources none) filters =
      .ok ((options.withResources none).runOn filters) := by
    rw [convert_eq, if_pos (by omega)]
  refine ⟨_, hbare, fun hwhole => ?_⟩
  -- Nothing is cut in either run, so that their results are the numberings of their outcomes.
  have hresult : ((options.withResources (some p)).runOn filters).result = .uncut _ :=
    enforce_number_untrimmed hids (Options.untrimmed_runOn_iff.mp untrimmed)
  have hbareResult : ((options.withResources none).runOn filters).result = .uncut _ :=
    enforce_number_untrimmed (by omega) (Options.untrimmed_runOn_iff.mp hwhole)
  rw [hresult, hbareResult]
  exact Converted.renumbered_uncut (·.extensionPath?.isNone) hids hdrafts

end Runs

/-- The path of the resources decides on the targets of redirecting rules and on nothing else, and
slashes at its end do not matter. Without a path, each redirecting rule that survives is reported
once and has no declarative rule. If moreover the limits cut nothing, the other rules are those that
there are with a path, but for their ids, which are dense again. -/
theorem convert_resources (options : Options) (filters : List Filter) (p q : String) :
    Parallel (ConversionResult.Alike (Retargeted p q))
      (convert (options.withResources (some p)) filters)
      (convert (options.withResources (some q)) filters) ∧
    (∀ stem m n, p.toList = stem ++ List.replicate m '/' → q.toList = stem ++ List.replicate n '/' →
      convert (options.withResources (some p)) filters =
        convert (options.withResources (some q)) filters) ∧
    Parallel (ConversionResult.ReportsMore (redirectReports (erase filters)))
      (convert (options.withResources none) filters)
      (convert (options.withResources none) (withoutRedirects (erase filters))) ∧
    ∀ full, convert (options.withResources (some p)) filters = .ok full → full.Untrimmed →
      ∃ bare, convert (options.withResources none) filters = .ok bare ∧
        (bare.Untrimmed →
          bare.result.Renumbered
            ((full.result.rules.filter (·.action.extensionPath?.isNone)).map Declarative.Rule.id)
            full.result) := by
  refine ⟨alike_convert options filters p q, ?slashes, convert_without_path options filters,
    fun full hfull untrimmed => renumbered_convert options filters p hfull untrimmed⟩
  case slashes =>
    intro stem m n hp hq
    refine convert_congr_slashes options filters ?_
    rw [hp, hq, Text.withoutEnd_append_slashes, Text.withoutEnd_append_slashes]

/-- A rule that redirects, between others that do not. -/
def sampleRedirects : List Filter :=
  [⟨7, [sampleBlock 0 "||ads.example^" false,
    ⟨1, { pattern := "/banner/", allowlist := false, modifier := some (.redirect "noop.js") }⟩,
    samplePolicy 2 "sandbox"]⟩]

/-- The record of the conversion of these rules. -/
def sampleRedirected (path : Option String) : Run :=
  (Options.withResources {} path).runOn sampleRedirects

/-- The second of three rules leads to the resource, whether or not slashes are at the end of the
path. Without a path, the third rule has its id. -/
theorem convert_resources_sample :
    convert (Options.withResources {} (some "/web//")) sampleRedirects =
      convert (Options.withResources {} (some "/web")) sampleRedirects ∧
    (sampleRedirected (some "/web//")).result.rules.map (fun rule =>
      (rule.id, rule.action.extensionPath?)) =
        [(1, none), (2, some "/web/noop.js"), (3, none)] ∧
    convert (Options.withResources {} (some "/web//")) sampleRedirects =
      .ok (sampleRedirected (some "/web//")) ∧
    (sampleRedirected (some "/web//")).Untrimmed ∧
    (sampleRedirected none).Untrimmed ∧
    ∃ bare, convert (Options.withResources {} none) sampleRedirects = .ok bare ∧
      bare.result.rules.map Declarative.Rule.id = [1, 2] ∧
      bare.result.Renumbered [1, 3] (sampleRedirected (some "/web//")).result := by
  obtain ⟨-, hslashes, -, hrenumbered⟩ :=
    convert_resources {} sampleRedirects "/web//" "/web"
  have enough : ∀ path ∈ [some "/web//", none],
      convert (Options.withResources {} path) sampleRedirects ≠ .error .idsExhausted := by
    decide +kernel
  have hfull := (convert_eq_ok (enough (some "/web//") (by simp))).1
  have hnone := (convert_eq_ok (enough none (by simp))).1
  have untrimmed : ∀ path ∈ [some "/web//", none], (sampleRedirected path).Untrimmed := by
    unfold Run.Untrimmed
    decide +kernel
  have hids : ((sampleRedirected (some "/web//")).result.rules.filter
      (·.action.extensionPath?.isNone)).map Declarative.Rule.id = [1, 3] := by
    decide +kernel
  have hbareIds : (sampleRedirected none).result.rules.map Declarative.Rule.id = [1, 2] := by
    decide +kernel
  obtain ⟨bare, hbare, hresult⟩ := hrenumbered _ hfull (untrimmed _ (by simp))
  have hsame : bare = sampleRedirected none := Except.ok.inj (hbare.symm.trans hnone)
  rw [hsame] at hbare hresult
  refine ⟨hslashes "/web".toList 2 0 (by decide) (by decide), by decide +kernel, hfull,
    untrimmed _ (by simp), untrimmed _ (by simp), _, hbare, hbareIds, ?_⟩
  rw [← hids]
  exact hresult (untrimmed _ (by simp))

end Blocklist
