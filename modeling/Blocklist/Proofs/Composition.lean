import Mathlib.Data.List.Basic
import Blocklist.Proofs.Conservation
import Blocklist.Proofs.Emission
import Blocklist.Proofs.Trimming

/-! # Batches compose

Without limits, a batch that is put together from two batches is converted like each of them, except
that the ids of the second one go on where those of the first one stop. Only badfilter rules reach
from one batch into the other.

* `erase_append`: erasures do not interfere if no badfilter rule reaches over;
* `enforce_number_untrimmed`: if nothing is cut, the errors are put in order and that is all;
* `convert_append`: the result of a sum of two batches.
-/

namespace Blocklist

open Badfilter

/-- No badfilter rule of either batch negates a rule of the other. -/
structure Apart (a b : List Filter) : Prop where
  right : ∀ bad ∈ negators a, ∀ filter ∈ b, ∀ r ∈ filter.rules, bad.negates r.rule = false
  left : ∀ bad ∈ negators b, ∀ filter ∈ a, ∀ r ∈ filter.rules, bad.negates r.rule = false

/-- No limit is set. A limit of zero is none. -/
structure Limits.Unlimited (limits : Limits) : Prop where
  rules : active? limits.rules = none
  regexpRules : active? limits.regexpRules = none

/-- The errors that are tied to a declarative rule. -/
def Converted.tiedErrors (converted : Converted) : List ConversionError :=
  converted.errors.filter (·.declarativeId?.isSome)

/-- The errors on rules that were converted in part. -/
def ConversionResult.degraded (result : ConversionResult) : List ConversionError :=
  result.errors.filter (·.declarativeId?.isSome)

/-- What was converted as a result of which nothing is cut. Tied errors come first. -/
def ConversionResult.uncut (converted : Converted) : ConversionResult where
  rules := converted.rules
  sourceMap := converted.sourceMap
  errors := converted.tiedErrors ++ converted.untiedErrors

/-! ## Erasures -/

theorem Badfilter.negators_append (a b : List Filter) :
    negators (a ++ b) = negators a ++ negators b :=
  List.flatMap_append

/-- Badfilter rules that do not reach a rule do not matter to it. -/
theorem Badfilter.negatedBy_append {bad other : List Rule} {target : Rule}
    (h : ∀ rule ∈ other, rule.negates target = false) :
    negatedBy (bad ++ other) target = negatedBy bad target ∧
      negatedBy (other ++ bad) target = negatedBy bad target := by
  have hnone : other.any (·.negates target) = false := by
    rw [List.any_eq_false]
    intro rule hrule
    rw [h rule hrule]
    exact Bool.false_ne_true
  unfold negatedBy
  rw [List.any_append, List.any_append, hnone, Bool.or_false, Bool.false_or]
  exact ⟨rfl, rfl⟩

theorem Badfilter.erase_append {a b : List Filter} (apart : Apart a b) :
    erase (a ++ b) = erase a ++ erase b := by
  have hfirst : eraseBy (negators (a ++ b)) a = erase a := by
    refine eraseBy_congr fun filter hfilter r hr _ => ?_
    rw [negators_append]
    exact (negatedBy_append fun bad hbad => apart.left bad hbad filter hfilter r hr).1
  have hsecond : eraseBy (negators (a ++ b)) b = erase b := by
    refine eraseBy_congr fun filter hfilter r hr _ => ?_
    rw [negators_append]
    exact (negatedBy_append fun bad hbad => apart.right bad hbad filter hfilter r hr).2
  calc erase (a ++ b)
      = eraseBy (negators (a ++ b)) a ++ eraseBy (negators (a ++ b)) b := List.map_append
    _ = erase a ++ erase b := by rw [hfirst, hsecond]

theorem Options.outcomes_append (options : Options) (a b : List Filter) :
    options.outcomes (a ++ b) = options.outcomes a ++ options.outcomes b := by
  unfold Options.outcomes Options.sections
  rw [List.map_append, List.flatMap_append]

/-! ## No limits -/

theorem Limits.rules_enforce_unlimited {limits : Limits} (unlimited : limits.Unlimited)
    (converted : Converted) : (limits.enforce converted).rules = converted.rules := by
  unfold enforce
  rw [unlimited.rules, unlimited.regexpRules]
  rfl

/-- If the limits cut nothing, what is numbered is the result, with the errors put in order. -/
theorem enforce_number_untrimmed {limits : Limits} {next : Nat}
    {outcomes : List (UInt32 × Outcome)}
    (hids : next + draftCount (outcomes.map Prod.snd) ≤ UInt32.size)
    (untrimmed : (limits.enforce (.number next outcomes)).rules.length =
      (Converted.number next outcomes).rules.length) :
    limits.enforce (.number next outcomes) = .uncut (.number next outcomes) := by
  obtain ⟨hrules, hsources, hlimitations⟩ := Limits.enforce_untrimmed (nodup_ids_number hids)
    (flatMap_entriesOf_number hids) untrimmed
  obtain ⟨kept, hsub, hkept, -, herrors⟩ := exists_kept hids limits
  -- All drafts are kept, since as many are kept as there are.
  have hall : kept = numberedFrom next outcomes := by
    refine hsub.eq_of_length ?_
    rw [hrules, rules_number] at hkept
    simpa using (congrArg List.length hkept).symm
  have hparts : (limits.enforce (.number next outcomes)).errors =
      (Converted.number next outcomes).tiedErrors ++
        (Converted.number next outcomes).untiedErrors := by
    unfold Converted.tiedErrors Converted.untiedErrors
    rw [herrors, hall, tiedErrors_number, untiedErrors_number]
  generalize limits.enforce (.number next outcomes) = result at hrules hsources hlimitations hparts
  obtain ⟨rules, sourceMap, errors, limitations⟩ := result
  dsimp only at hrules hsources hlimitations hparts
  rw [hrules, hsources, hlimitations, hparts]
  rfl

/-- Without limits, nothing is cut. -/
theorem enforce_number_unlimited {limits : Limits} (unlimited : limits.Unlimited) {next : Nat}
    {outcomes : List (UInt32 × Outcome)}
    (hids : next + draftCount (outcomes.map Prod.snd) ≤ UInt32.size) :
    limits.enforce (.number next outcomes) = .uncut (.number next outcomes) := by
  have hrules := Limits.rules_enforce_unlimited unlimited (.number next outcomes)
  exact enforce_number_untrimmed hids (congrArg List.length hrules)

section Parts

variable (a b converted : Converted) (n : UInt32)

theorem Converted.tiedErrors_append : (a ++ b).tiedErrors = a.tiedErrors ++ b.tiedErrors :=
  List.filter_append ..

theorem Converted.untiedErrors_append : (a ++ b).untiedErrors = a.untiedErrors ++ b.untiedErrors :=
  List.filter_append ..

theorem Converted.tiedErrors_shift :
    (converted.shift n).tiedErrors = converted.tiedErrors.map (.shift n) := by
  unfold tiedErrors shift
  rw [List.filter_map]
  congr 1
  refine List.filter_congr fun e _ => ?_
  cases e <;> rfl

/-- Errors that belong to no rule have no id that could be increased. -/
theorem Converted.untiedErrors_shift :
    (converted.shift n).untiedErrors = converted.untiedErrors := by
  unfold untiedErrors shift
  rw [List.filter_map]
  have hfilter : converted.errors.filter
      ((fun e => decide (e.declarativeId? = none)) ∘ ConversionError.shift n) =
        converted.errors.filter (·.declarativeId? = none) := by
    refine List.filter_congr fun e _ => ?_
    cases e <;> rfl
  rw [hfilter]
  have hsame : ∀ e ∈ converted.errors.filter (·.declarativeId? = none),
      ConversionError.shift n e = id e := by
    intro e he
    cases e with
    | unsupported filterId index reason => rfl
    | degraded id filterId index reason => simp [ConversionError.declarativeId?] at he
  rw [List.map_congr_left hsame, List.map_id]

/-- Errors that belong to no rule are not tied to one. -/
theorem Converted.tied_untiedErrors :
    converted.untiedErrors.filter (·.declarativeId?.isSome) = [] := by
  rw [List.filter_eq_nil_iff]
  intro e he
  rw [of_decide_eq_true (List.mem_filter.mp he).2]
  exact Bool.false_ne_true

/-- A result of which nothing is cut tells apart what is tied to a rule and what is not. -/
theorem ConversionResult.degraded_uncut : (uncut converted).degraded = converted.tiedErrors := by
  have htied : converted.tiedErrors.filter (·.declarativeId?.isSome) = converted.tiedErrors := by
    rw [List.filter_eq_self]
    exact fun e he => (List.mem_filter.mp he).2
  unfold degraded uncut
  rw [List.filter_append, htied, converted.tied_untiedErrors, List.append_nil]

theorem ConversionResult.unsupported_uncut :
    (uncut converted).unsupported = converted.untiedErrors := by
  have htied : converted.tiedErrors.filter (·.declarativeId? = none) = [] := by
    rw [List.filter_eq_nil_iff]
    intro e he
    have hsome := (List.mem_filter.mp he).2
    rw [decide_eq_true_iff]
    intro hnone
    rw [hnone] at hsome
    exact Bool.false_ne_true hsome
  have huntied : converted.untiedErrors.filter (·.declarativeId? = none) =
      converted.untiedErrors := by
    rw [List.filter_eq_self]
    exact fun e he => (List.mem_filter.mp he).2
  unfold unsupported uncut
  rw [List.filter_append, htied, huntied, List.nil_append]

end Parts

/-! ## Sums -/

/-- The entries of the source map have ids from those that were handed out. -/
theorem declarativeId_of_mem_number {next : Nat} {outcomes : List (UInt32 × Outcome)}
    (hids : next + draftCount (outcomes.map Prod.snd) ≤ UInt32.size) {source : Source}
    (h : source ∈ (Converted.number next outcomes).sourceMap) :
    next ≤ source.declarativeId.toNat ∧
      source.declarativeId.toNat < next + draftCount (outcomes.map Prod.snd) := by
  rw [sourceMap_number] at h
  obtain ⟨part, hpart, hentry⟩ := List.mem_flatMap.mp h
  have hrange : part.id.toNat ∈ (numberedFrom next outcomes).map (·.id.toNat) :=
    List.mem_map_of_mem hpart
  rw [ids_numberedFrom hids, List.mem_range'_1] at hrange
  rw [Numbered.declarativeId_of_mem_entries hentry]
  exact hrange

section Batches

variable {options : Options} {filters a b : List Filter}

theorem emittedRules_append (options : Options) (apart : Apart a b) :
    emittedRules options (a ++ b) = emittedRules options a + emittedRules options b := by
  rw [emittedRules_eq, emittedRules_eq, emittedRules_eq, erase_append apart,
    options.outcomes_append, List.map_append, draftCount_append]

/-- Whether a conversion succeeds depends on the number of declarative rules alone. -/
theorem enough_iff : convert options filters ≠ .error .idsExhausted ↔
    firstId.toNat + emittedRules options filters < UInt32.size := by
  rw [convert_eq, emittedRules_eq]
  constructor
  · intro enough
    by_contra hover
    exact enough (if_neg hover)
  · intro hids
    rw [if_pos hids]
    exact fun h => by cases h

/-- Without limits, a conversion is the numbering of the outcomes. -/
theorem convert_unlimited (unlimited : options.limits.Unlimited)
    (hids : firstId.toNat + emittedRules options filters < UInt32.size) :
    ∃ run, convert options filters = .ok run ∧
      run.result = .uncut (.number firstId.toNat (options.outcomes (erase filters))) := by
  obtain ⟨hrun, hle⟩ := convert_eq_ok (enough_iff.mpr hids)
  exact ⟨options.runOn filters, hrun, enforce_number_unlimited unlimited hle⟩

theorem length_rules_number (options : Options) (filters : List Filter) (next : Nat) :
    (Converted.number next (options.outcomes (erase filters))).rules.length =
      emittedRules options filters := by
  rw [rules_number, List.length_map, length_numberedFrom, emittedRules_eq]

/-- The outcomes of a sum get the ids of its parts, the second one with ids that go on. -/
theorem number_outcomes_append (options : Options) (apart : Apart a b) :
    Converted.number firstId.toNat (options.outcomes (erase (a ++ b))) =
      Converted.number firstId.toNat (options.outcomes (erase a)) ++
        (Converted.number firstId.toNat (options.outcomes (erase b))).shift
          (UInt32.ofNat (emittedRules options a)) := by
  rw [erase_append apart, options.outcomes_append, number_append, ← emittedRules_eq,
    Nat.add_comm, number_add]

/-- The ids of the first part end before those of the second one begin. -/
theorem declarativeId_ne_of_mem
    (hids : firstId.toNat + (emittedRules options a + emittedRules options b) < UInt32.size)
    {source other : Source}
    (hsource : source ∈ (Converted.number firstId.toNat (options.outcomes (erase a))).sourceMap)
    (hother : other ∈ ((Converted.number firstId.toNat (options.outcomes (erase b))).shift
      (UInt32.ofNat (emittedRules options a))).sourceMap) :
    source.declarativeId ≠ other.declarativeId := by
  rw [← number_add, Nat.add_comm] at hother
  rw [emittedRules_eq options a, emittedRules_eq options b] at hids
  rw [emittedRules_eq options a] at hother
  have hfirst := (declarativeId_of_mem_number (by omega) hsource).2
  have hnext := (declarativeId_of_mem_number (by omega) hother).1
  intro hsame
  rw [hsame] at hfirst
  omega

end Batches

/-- Without limits, a batch of two parts that do not reach into each other has the results of its
parts, the second one with ids that go on after those of the first one. No declarative rule has
sources in both parts. -/
theorem convert_append (options : Options) (a b : List Filter)
    (unlimited : options.limits.Unlimited) (apart : Apart a b)
    (enough : convert options (a ++ b) ≠ .error .idsExhausted) :
    ∃ runA runB run, convert options a = .ok runA ∧ convert options b = .ok runB ∧
      convert options (a ++ b) = .ok run ∧
      let n := UInt32.ofNat runA.result.rules.length
      run.result.rules = runA.result.rules ++ runB.result.rules.map (.shift n) ∧
      run.result.sourceMap = runA.result.sourceMap ++ runB.result.sourceMap.map (.shift n) ∧
      run.result.errors =
        runA.result.degraded ++ runB.result.degraded.map (.shift n) ++
          runA.result.unsupported ++ runB.result.unsupported ∧
      run.result.limitations = [] ∧
      ∀ source ∈ runA.result.sourceMap, ∀ other ∈ runB.result.sourceMap.map (Source.shift n),
        source.declarativeId ≠ other.declarativeId := by
  have hall := enough_iff.mp enough
  have hsum := hall
  rw [emittedRules_append options apart] at hsum
  have ha : firstId.toNat + emittedRules options a < UInt32.size := by omega
  have hb : firstId.toNat + emittedRules options b < UInt32.size := by omega
  obtain ⟨run, hrun, hresult⟩ := convert_unlimited unlimited hall
  obtain ⟨runA, hrunA, hresultA⟩ := convert_unlimited unlimited ha
  obtain ⟨runB, hrunB, hresultB⟩ := convert_unlimited unlimited hb
  have hlength : runA.result.rules.length = emittedRules options a := by
    rw [hresultA]
    exact length_rules_number options a firstId.toNat
  rw [number_outcomes_append options apart] at hresult
  refine ⟨runA, runB, run, hrunA, hrunB, hrun, ?_⟩
  dsimp only
  rw [hlength]
  refine ⟨?rules, ?sources, ?errors, ?limitations, ?separate⟩
  case rules =>
    rw [hresult, hresultA, hresultB]
    rfl
  case sources =>
    rw [hresult, hresultA, hresultB]
    rfl
  case errors =>
    rw [hresultA, hresultB, ConversionResult.degraded_uncut, ConversionResult.degraded_uncut,
      ConversionResult.unsupported_uncut, ConversionResult.unsupported_uncut, hresult]
    show Converted.tiedErrors _ ++ Converted.untiedErrors _ = _
    rw [Converted.tiedErrors_append, Converted.untiedErrors_append, Converted.tiedErrors_shift,
      Converted.untiedErrors_shift, List.append_assoc, List.append_assoc, List.append_assoc]
  case limitations =>
    rw [hresult]
    rfl
  case separate =>
    rw [hresultA, hresultB]
    intro source hsource other hother
    exact declarativeId_ne_of_mem hsum hsource hother

/-- A filter with the id of another one, whose policy has the condition of the policies there. -/
def sampleThird : Filter :=
  ⟨7, [samplePolicy 5 "sandbox", sampleBlock 6 "||*.example^" false,
    ⟨7, { pattern := "/frame/", allowlist := false, permittedDomains := ["c.example", "d.*"] }⟩]⟩

/-- The badfilter rule of the first part leaves the second part alone, and policies are not merged
over the border, though the filters have one id. -/
theorem convert_append_sample :
    Apart sampleBatch [sampleThird] ∧
    (∃ runA runB run, convert {} sampleBatch = .ok runA ∧ convert {} [sampleThird] = .ok runB ∧
      convert {} (sampleBatch ++ [sampleThird]) = .ok run ∧
      run.result.rules = runA.result.rules ++
        runB.result.rules.map (.shift (UInt32.ofNat runA.result.rules.length)) ∧
      run.result.limitations = []) ∧
    (convert {} (sampleBatch ++ [sampleThird])).toOption.map (fun run =>
      (run.result.sourceMap, run.result.errors.map ConversionError.declarativeId?)) =
        some ([⟨7, 1, 1⟩, ⟨7, 2, 2⟩, ⟨7, 3, 2⟩, ⟨8, 2, 3⟩, ⟨7, 7, 4⟩, ⟨7, 5, 5⟩],
          [some 3, some 4, none, none]) := by
  have apart : Apart sampleBatch [sampleThird] := ⟨by decide, by decide⟩
  have enough : convert {} (sampleBatch ++ [sampleThird]) ≠ .error .idsExhausted := by
    decide +kernel
  obtain ⟨runA, runB, run, hrunA, hrunB, hrun, hrules, -, -, hlimitations, -⟩ :=
    convert_append {} sampleBatch [sampleThird] ⟨rfl, rfl⟩ apart enough
  exact ⟨apart, ⟨runA, runB, run, hrunA, hrunB, hrun, hrules, hlimitations⟩, by decide +kernel⟩

end Blocklist
