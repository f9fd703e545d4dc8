import Mathlib.Data.List.Basic
import Blocklist.Conversion.OfGroup

/-! # Ids of declarative rules

`Converted.number` hands out ids in one pass over all outcomes. Here its result is taken apart again
into one list of drafts with their ids, from which all three parts of the result are read off.

* `rules_number`, `sourceMap_number`, `tiedErrors_number`, `untiedErrors_number`: the parts;
* `ids_numberedFrom`: the ids follow each other without gaps as long as they are ids at all.
-/

namespace Blocklist

/-- Ids of the filter and of the rule that an entry of the source map names. -/
def Source.ids (source : Source) : UInt32 × UInt32 :=
  (source.filterId, source.ruleIndex)

/-- Ids of the filter and of the rule that an error names. -/
def ConversionError.ids : ConversionError → UInt32 × UInt32
  | unsupported filterId index _ => (filterId, index)
  | degraded _ filterId index _ => (filterId, index)

/-- Ids of the sources of a draft, which comes with the id of its filter. -/
def sourceIds (part : UInt32 × Draft) : List (UInt32 × UInt32) :=
  part.2.sources.map (Prod.mk part.1)

/-- A draft with its id and with that of its filter. -/
structure Numbered where
  filterId : UInt32
  id : UInt32
  draft : Draft

namespace Numbered

/-- The declarative rule that the draft becomes. -/
def rule (part : Numbered) : Declarative.Rule :=
  ⟨part.id, part.draft.priority, part.draft.action, part.draft.condition⟩

/-- Its entries in the source map. -/
def entries (part : Numbered) : List Source :=
  part.draft.sources.map fun index => ⟨part.filterId, index, part.id⟩

/-- The reports on what was left out of it. -/
def errors (part : Numbered) : List ConversionError :=
  part.draft.notes.map fun note => .degraded part.id part.filterId note.1 note.2

theorem ids_entries (part : Numbered) :
    part.entries.map Source.ids = sourceIds (part.filterId, part.draft) := by
  rw [entries, List.map_map]
  rfl

theorem declarativeId_of_mem_entries {part : Numbered} {source : Source}
    (h : source ∈ part.entries) : source.declarativeId = part.id := by
  obtain ⟨index, -, rfl⟩ := List.mem_map.mp h
  rfl

/-- All reports of a draft are tied to its id. -/
theorem declarativeId?_of_mem_errors {part : Numbered} {e : ConversionError}
    (h : e ∈ part.errors) : e.declarativeId? = some part.id := by
  obtain ⟨note, -, rfl⟩ := List.mem_map.mp h
  rfl

end Numbered

open Numbered

/-- The drafts among outcomes, with ids from `next` upwards. -/
def numberedFrom (next : Nat) : List (UInt32 × Outcome) → List Numbered
  | [] => []
  | (_, .reject ..) :: rest => numberedFrom next rest
  | (filterId, .emit draft) :: rest =>
    ⟨filterId, UInt32.ofNat next, draft⟩ :: numberedFrom (next + 1) rest

/-- The drafts among outcomes, each with what its outcome is labelled with. -/
def draftsOf {α : Type} (outcomes : List (α × Outcome)) : List (α × Draft) :=
  outcomes.filterMap fun part => part.2.draft?.map fun draft => (part.1, draft)

/-- The report on an outcome that is a rejection. -/
def rejection? (part : UInt32 × Outcome) : Option ConversionError :=
  match part.2 with
  | .reject index reason => some (.unsupported part.1 index reason.message)
  | .emit _ => none

theorem ConversionError.snd_ids (e : ConversionError) : e.ids.2 = e.ruleIndex := by
  cases e with
  | unsupported => rfl
  | degraded => rfl

section Counting

variable {α : Type}

@[simp] theorem draftCount_nil : draftCount [] = 0 := rfl

@[simp] theorem draftCount_reject (index : UInt32) (reason : Rejection) (rest : List Outcome) :
    draftCount (.reject index reason :: rest) = draftCount rest := rfl

@[simp] theorem draftCount_emit (draft : Draft) (rest : List Outcome) :
    draftCount (.emit draft :: rest) = draftCount rest + 1 := rfl

theorem length_draftsOf (outcomes : List (α × Outcome)) :
    (draftsOf outcomes).length = draftCount (outcomes.map Prod.snd) := by
  induction outcomes with
  | nil => rfl
  | cons part rest ih =>
    obtain ⟨label, outcome⟩ := part
    cases outcome with
    | reject index reason => exact ih
    | emit draft => exact congrArg Nat.succ ih

theorem mem_draftsOf {outcomes : List (α × Outcome)} {part : α × Draft} :
    part ∈ draftsOf outcomes ↔ (part.1, .emit part.2) ∈ outcomes := by
  obtain ⟨label, draft⟩ := part
  unfold draftsOf
  rw [List.mem_filterMap]
  constructor
  · rintro ⟨⟨other, outcome⟩, hmem, hdraft⟩
    cases outcome with
    | reject index reason => cases hdraft
    | emit made =>
      cases hdraft
      exact hmem
  · intro hmem
    exact ⟨(label, .emit draft), hmem, rfl⟩

end Counting

variable {next : Nat} {outcomes : List (UInt32 × Outcome)}

/-! ## The parts of the result -/

theorem rules_number (next : Nat) (outcomes : List (UInt32 × Outcome)) :
    (Converted.number next outcomes).rules = (numberedFrom next outcomes).map Numbered.rule := by
  induction next, outcomes using numberedFrom.induct with
  | case1 => rfl
  | case2 next filterId index reason rest ih => exact ih
  | case3 next filterId draft rest ih => exact congrArg _ ih

theorem sourceMap_number (next : Nat) (outcomes : List (UInt32 × Outcome)) :
    (Converted.number next outcomes).sourceMap =
      (numberedFrom next outcomes).flatMap Numbered.entries := by
  induction next, outcomes using numberedFrom.induct with
  | case1 => rfl
  | case2 next filterId index reason rest ih => exact ih
  | case3 next filterId draft rest ih => exact congrArg _ ih

/-- The tied errors come draft by draft, as the entries of the source map do. -/
theorem tiedErrors_number (next : Nat) (outcomes : List (UInt32 × Outcome)) :
    (Converted.number next outcomes).errors.filter (·.declarativeId?.isSome) =
      (numberedFrom next outcomes).flatMap Numbered.errors := by
  induction next, outcomes using numberedFrom.induct with
  | case1 => rfl
  | case2 next filterId index reason rest ih => exact ih
  | case3 next filterId draft rest ih =>
    let part : Numbered := ⟨filterId, UInt32.ofNat next, draft⟩
    have htied : part.errors.filter (·.declarativeId?.isSome) = part.errors := by
      rw [List.filter_eq_self]
      intro e he
      rw [declarativeId?_of_mem_errors he]
      rfl
    calc ((part.errors ++ (Converted.number (next + 1) rest).errors).filter
          (·.declarativeId?.isSome))
        = part.errors ++ (numberedFrom (next + 1) rest).flatMap Numbered.errors := by
          rw [List.filter_append, htied, ih]
      _ = (numberedFrom next ((filterId, .emit draft) :: rest)).flatMap Numbered.errors := rfl

/-- The untied errors are the rejections, in the order of the outcomes. -/
theorem untiedErrors_number (next : Nat) (outcomes : List (UInt32 × Outcome)) :
    (Converted.number next outcomes).errors.filter (·.declarativeId? = none) =
      outcomes.filterMap rejection? := by
  induction next, outcomes using numberedFrom.induct with
  | case1 => rfl
  | case2 next filterId index reason rest ih => exact congrArg _ ih
  | case3 next filterId draft rest ih =>
    let part : Numbered := ⟨filterId, UInt32.ofNat next, draft⟩
    have htied : part.errors.filter (·.declarativeId? = none) = [] := by
      rw [List.filter_eq_nil_iff]
      intro e he
      rw [declarativeId?_of_mem_errors he]
      simp
    calc ((part.errors ++ (Converted.number (next + 1) rest).errors).filter
          (·.declarativeId? = none))
        = rest.filterMap rejection? := by
          rw [List.filter_append, htied, ih, List.nil_append]
      _ = ((filterId, .emit draft) :: rest).filterMap rejection? := rfl

/-! ## The ids -/

/-- Numbering changes neither the drafts nor the filters that they come from. -/
theorem map_numberedFrom (next : Nat) (outcomes : List (UInt32 × Outcome)) :
    (numberedFrom next outcomes).map (fun part => (part.filterId, part.draft)) =
      draftsOf outcomes := by
  induction next, outcomes using numberedFrom.induct with
  | case1 => rfl
  | case2 next filterId index reason rest ih => exact ih
  | case3 next filterId draft rest ih => exact congrArg _ ih

/-- Drafts that carry their ids by position are numbered. -/
theorem numberedFrom_eq (next : Nat) (outcomes : List (UInt32 × Outcome)) :
    numberedFrom next outcomes =
      ((draftsOf outcomes).zipIdx next).map fun entry =>
        ⟨entry.1.1, UInt32.ofNat entry.2, entry.1.2⟩ := by
  induction next, outcomes using numberedFrom.induct with
  | case1 => rfl
  | case2 next filterId index reason rest ih => exact ih
  | case3 next filterId draft rest ih => exact congrArg _ ih

/-- A numbered draft is one of the outcomes. -/
theorem mem_of_mem_numberedFrom {part : Numbered} (h : part ∈ numberedFrom next outcomes) :
    (part.filterId, .emit part.draft) ∈ outcomes := by
  have hdraft : (part.filterId, part.draft) ∈ draftsOf outcomes := by
    rw [← map_numberedFrom next]
    exact List.mem_map_of_mem h
  exact mem_draftsOf.mp hdraft

theorem length_numberedFrom (next : Nat) (outcomes : List (UInt32 × Outcome)) :
    (numberedFrom next outcomes).length = draftCount (outcomes.map Prod.snd) := by
  rw [← length_draftsOf, ← map_numberedFrom next, List.length_map]

/-- Without overflow the ids are dense: a rejection uses up none. -/
theorem ids_numberedFrom (h : next + draftCount (outcomes.map Prod.snd) ≤ UInt32.size) :
    (numberedFrom next outcomes).map (·.id.toNat) =
      List.range' next (draftCount (outcomes.map Prod.snd)) := by
  induction next, outcomes using numberedFrom.induct with
  | case1 => rfl
  | case2 next filterId index reason rest ih =>
    -- A rejection leaves the next id to the outcomes after it.
    exact ih h
  | case3 next filterId draft rest ih =>
    simp only [List.map_cons, draftCount_emit] at h
    have hnext : (UInt32.ofNat next).toNat = next := UInt32.toNat_ofNat_of_lt' (by omega)
    have hrest := ih (by omega)
    simp only [numberedFrom, List.map_cons, draftCount_emit, hnext, hrest, List.range'_succ]

theorem numberedFrom_pairwise (h : next + draftCount (outcomes.map Prod.snd) ≤ UInt32.size) :
    (numberedFrom next outcomes).Pairwise (·.id < ·.id) := by
  have hrange : ((numberedFrom next outcomes).map (·.id.toNat)).Pairwise (· < ·) := by
    rw [ids_numberedFrom h]
    exact List.pairwise_lt_range'
  exact (List.pairwise_map.mp hrange).imp fun hlt => UInt32.lt_iff_toNat_lt.mpr hlt

end Blocklist
