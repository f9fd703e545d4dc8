import Mathlib.Data.List.Nodup
import Mathlib.Data.Option.Basic
import Blocklist.Proofs.Composition

/-! # Leaving out drafts

If some drafts of a conversion are left out, the ones after them get smaller ids. What is numbered
then is what was numbered before without the rules that are gone, and each id has become its
position among the ids that are left.

* `numberedFrom_eq_renumber`: drafts that are left over are numbered by their positions;
* `Converted.renumbered_uncut`: so are the rules, entries and errors of a result that no limit cuts.
-/

namespace Blocklist

/-! ## Other ids -/

/-- The rule with another id. -/
def Declarative.Rule.renumber (f : UInt32 → UInt32) (rule : Declarative.Rule) : Declarative.Rule :=
  { rule with id := f rule.id }

/-- The entry of a rule that has another id. -/
def Source.renumber (f : UInt32 → UInt32) (source : Source) : Source :=
  { source with declarativeId := f source.declarativeId }

/-- The error of a rule that has another id. An error that belongs to no rule stays as it is. -/
def ConversionError.renumber (f : UInt32 → UInt32) : ConversionError → ConversionError
  | unsupported filterId index reason => unsupported filterId index reason
  | degraded id filterId index reason => degraded (f id) filterId index reason

/-- The position of an id among some ids, counted from the given number on. -/
def denseId (next : Nat) (ids : List UInt32) (id : UInt32) : UInt32 :=
  UInt32.ofNat (next + ids.idxOf id)

/-- The first result is what is left of the second one when only the rules with some ids stay, and
when these ids are replaced by their positions from the first id on. -/
structure ConversionResult.Renumbered (ids : List UInt32) (a b : ConversionResult) : Prop where
  rules : a.rules = (b.rules.filter (·.id ∈ ids)).map (.renumber (denseId firstId.toNat ids))
  sourceMap : a.sourceMap =
    (b.sourceMap.filter (·.declarativeId ∈ ids)).map (.renumber (denseId firstId.toNat ids))
  degraded : a.degraded =
    (b.degraded.filter (·.declarativeId? ∈ ids.map some)).map
      (.renumber (denseId firstId.toNat ids))

/-! ## Numbered drafts -/

/-- The draft with another id. -/
def Numbered.renumber (f : UInt32 → UInt32) (part : Numbered) : Numbered :=
  { part with id := f part.id }

theorem Numbered.entries_renumber (f : UInt32 → UInt32) (part : Numbered) :
    (part.renumber f).entries = part.entries.map (.renumber f) := by
  unfold entries
  rw [List.map_map]
  rfl

theorem Numbered.errors_renumber (f : UInt32 → UInt32) (part : Numbered) :
    (part.renumber f).errors = part.errors.map (.renumber f) := by
  unfold errors
  rw [List.map_map]
  rfl

/-- Drafts with distinct ids are numbered by the positions of their ids. -/
theorem numberedFrom_eq_renumber (next : Nat) {outcomes : List (UInt32 × Outcome)}
    {kept : List Numbered} (distinct : (kept.map Numbered.id).Nodup)
    (hkept : draftsOf outcomes = kept.map fun part => (part.filterId, part.draft)) :
    numberedFrom next outcomes =
      kept.map (.renumber (denseId next (kept.map Numbered.id))) := by
  rw [numberedFrom_eq, hkept]
  refine List.ext_getElem (by simp) fun i hleft hright => ?_
  have hi : i < kept.length := by simpa using hright
  have hposition : (kept.map Numbered.id).idxOf kept[i].id = i := by
    have h := distinct.idxOf_getElem i (by simpa using hi)
    rwa [List.getElem_map] at h
  rw [List.getElem_map, List.getElem_map, List.getElem_zipIdx, Numbered.renumber, denseId,
    hposition, List.getElem_map]

section Kept

variable {α : Type} {parts : List Numbered} (keep : Numbered → Bool)

/-- An id belongs to one of the parts that stay if and only if its own part stays. -/
theorem id_mem_kept_iff (distinct : (parts.map Numbered.id).Nodup) {part : Numbered}
    (hpart : part ∈ parts) : part.id ∈ (parts.filter keep).map Numbered.id ↔ keep part = true := by
  constructor
  · intro hid
    obtain ⟨other, hother, hsame⟩ := List.mem_map.mp hid
    obtain ⟨hmem, hkeep⟩ := List.mem_filter.mp hother
    have heq : other = part := List.inj_on_of_nodup_map distinct hmem hpart hsame
    rw [← heq]
    exact hkeep
  · intro hkeep
    exact List.mem_map_of_mem (List.mem_filter.mpr ⟨hpart, hkeep⟩)

/-- A test that finds all that belongs to the parts that stay, and nothing else. -/
theorem filter_flatMap_kept {f : Numbered → List α} {test : α → Bool}
    (htest : ∀ part ∈ parts, ∀ x ∈ f part, test x = keep part) :
    (parts.flatMap f).filter test = (parts.filter keep).flatMap f := by
  induction parts with
  | nil => rfl
  | cons part rest ih =>
    have hrest := ih fun p hp => htest p (List.mem_cons_of_mem part hp)
    have hpart := htest part List.mem_cons_self
    rw [List.flatMap_cons, List.filter_append, hrest]
    cases hkeep : keep part with
    | true =>
      have hall : (f part).filter test = f part := by
        rw [List.filter_eq_self]
        intro x hx
        rw [hpart x hx, hkeep]
      rw [hall, List.filter_cons_of_pos hkeep, List.flatMap_cons]
    | false =>
      have hnone : (f part).filter test = [] := by
        rw [List.filter_eq_nil_iff]
        intro x hx
        rw [hpart x hx, hkeep]
        exact Bool.false_ne_true
      rw [hnone, List.nil_append, List.filter_cons_of_neg (by rw [hkeep]; exact Bool.false_ne_true)]

variable (distinct : (parts.map Numbered.id).Nodup) (f : UInt32 → UInt32)

include distinct

theorem decide_id_mem_kept : ∀ part ∈ parts,
    decide (part.id ∈ (parts.filter keep).map Numbered.id) = keep part := by
  intro part hpart
  rw [Bool.eq_iff_iff, decide_eq_true_iff]
  exact id_mem_kept_iff keep distinct hpart

/-- The rules of the parts that stay are the rules with their ids. -/
theorem rules_renumber_kept :
    ((parts.filter keep).map (.renumber f)).map Numbered.rule =
      ((parts.map Numbered.rule).filter (·.id ∈ (parts.filter keep).map Numbered.id)).map
        (.renumber f) := by
  rw [List.map_map, List.filter_map, List.map_map]
  have hkept := List.filter_congr (decide_id_mem_kept keep distinct)
  exact congrArg _ hkept.symm

theorem entries_renumber_kept :
    ((parts.filter keep).map (.renumber f)).flatMap Numbered.entries =
      ((parts.flatMap Numbered.entries).filter
        (·.declarativeId ∈ (parts.filter keep).map Numbered.id)).map (.renumber f) := by
  rw [List.flatMap_map, filter_flatMap_kept keep, List.map_flatMap]
  · exact List.flatMap_congr fun part _ => part.entries_renumber f
  · intro part hpart source hsource
    rw [Numbered.declarativeId_of_mem_entries hsource]
    exact decide_id_mem_kept keep distinct part hpart

theorem errors_renumber_kept :
    ((parts.filter keep).map (.renumber f)).flatMap Numbered.errors =
      ((parts.flatMap Numbered.errors).filter
        (·.declarativeId? ∈ ((parts.filter keep).map Numbered.id).map some)).map (.renumber f) := by
  rw [List.flatMap_map, filter_flatMap_kept keep, List.map_flatMap]
  · exact List.flatMap_congr fun part _ => part.errors_renumber f
  · intro part hpart e he
    rw [Numbered.declarativeId?_of_mem_errors he, ← decide_id_mem_kept keep distinct part hpart,
      decide_eq_decide, List.mem_map_of_injective (Option.some_injective UInt32)]

end Kept

/-! ## Results -/

/-- If the drafts with certain actions are left out and the limits cut nothing, the other rules stay
as they are but for their ids. -/
theorem Converted.renumbered_uncut {outcomes fewer : List (UInt32 × Outcome)}
    (keep : Declarative.Action → Bool)
    (hids : firstId.toNat + draftCount (outcomes.map Prod.snd) ≤ UInt32.size)
    (hfewer : draftsOf fewer = (draftsOf outcomes).filter (keep ·.2.action)) :
    ConversionResult.Renumbered
      (((Converted.number firstId.toNat outcomes).rules.filter (keep ·.action)).map
        Declarative.Rule.id)
      (.uncut (.number firstId.toNat fewer)) (.uncut (.number firstId.toNat outcomes)) := by
  have distinct : ((numberedFrom firstId.toNat outcomes).map Numbered.id).Nodup :=
    List.pairwise_map.mpr (numberedFrom_distinct hids)
  have hdrafts : draftsOf fewer = ((numberedFrom firstId.toNat outcomes).filter
      (keep ·.draft.action)).map fun part => (part.filterId, part.draft) := by
    rw [hfewer, ← map_numberedFrom firstId.toNat, List.filter_map]
    rfl
  have hkept : ((Converted.number firstId.toNat outcomes).rules.filter (keep ·.action)).map
      Declarative.Rule.id =
        ((numberedFrom firstId.toNat outcomes).filter (keep ·.draft.action)).map Numbered.id := by
    rw [rules_number, List.filter_map, List.map_map]
    rfl
  rw [hkept]
  have hrenumbered := numberedFrom_eq_renumber firstId.toNat
    (distinct.sublist (List.filter_sublist.map _)) hdrafts
  constructor
  case rules =>
    show (Converted.number firstId.toNat fewer).rules =
      ((Converted.number firstId.toNat outcomes).rules.filter _).map _
    rw [rules_number, rules_number, hrenumbered]
    exact rules_renumber_kept _ distinct _
  case sourceMap =>
    show (Converted.number firstId.toNat fewer).sourceMap =
      ((Converted.number firstId.toNat outcomes).sourceMap.filter _).map _
    rw [sourceMap_number, sourceMap_number, hrenumbered]
    exact entries_renumber_kept _ distinct _
  case degraded =>
    rw [ConversionResult.degraded_uncut, ConversionResult.degraded_uncut, Converted.tiedErrors,
      Converted.tiedErrors, tiedErrors_number, tiedErrors_number, hrenumbered]
    exact errors_renumber_kept _ distinct _

end Blocklist
