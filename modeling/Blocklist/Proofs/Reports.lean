import Mathlib.Data.List.Basic
import Blocklist.Proofs.Json.Documents
import Blocklist.Report.Wire

/-! # The file of the reports loses nothing

All parts of a report can be told from the way it is written, and all reports of a result from the
text of the file, in which they stand in their order.

* `Source.toJson_injective`, `ConversionError.toJson_injective`, `Limitation.toJson_injective`:
  single reports;
* `ConversionResult.sourceMapText_eq_iff`: two results with the same text have the same reports.
-/

namespace Blocklist

open Json (Value)

theorem nat_toNat_injective : Function.Injective fun n : UInt32 => Value.nat n.toNat := by
  intro n m h
  exact UInt32.toNat_inj.mp (Value.nat.inj h)

/-- Arrays tell their items if these are told from the way they are written. -/
theorem array_map_injective {α : Type} {write : α → Value} (h : Function.Injective write) :
    Function.Injective fun xs : List α => Value.array (xs.map write) := by
  intro xs ys heq
  exact List.map_injective_iff.mpr h (Value.array.inj heq)

theorem Source.toJson_injective : Function.Injective toJson := by
  intro a b h
  obtain ⟨filterId, index, id⟩ := a
  obtain ⟨filterId', index', id'⟩ := b
  simp only [toJson, Value.object.injEq, List.cons.injEq, Prod.mk.injEq, Value.nat.injEq,
    UInt32.toNat_inj, true_and, and_true] at h
  obtain ⟨rfl, rfl, rfl⟩ := h
  rfl

/-- The kind is written, and it tells which other members there are. -/
theorem ConversionError.toJson_injective : Function.Injective toJson := by
  intro a b h
  cases a with
  | unsupported filterId index reason =>
    cases b with
    | unsupported filterId' index' reason' =>
      simp only [toJson, Value.object.injEq, List.cons.injEq, Prod.mk.injEq, Value.nat.injEq,
        Value.string.injEq, UInt32.toNat_inj, true_and, and_true] at h
      obtain ⟨rfl, rfl, rfl⟩ := h
      rfl
    | degraded id filterId' index' reason' => simp [toJson] at h
  | degraded id filterId index reason =>
    cases b with
    | unsupported filterId' index' reason' => simp [toJson] at h
    | degraded id' filterId' index' reason' =>
      simp only [toJson, Value.object.injEq, List.cons.injEq, Prod.mk.injEq, Value.nat.injEq,
        Value.string.injEq, UInt32.toNat_inj, true_and, and_true] at h
      obtain ⟨rfl, rfl, rfl, rfl⟩ := h
      rfl

theorem LimitKind.name_injective : Function.Injective name := by
  intro a b h
  cases a <;> cases b <;> first | rfl | exact absurd h (by decide)

theorem Limitation.toJson_injective : Function.Injective toJson := by
  intro a b h
  obtain ⟨kind, excluded, limit, excess⟩ := a
  obtain ⟨kind', excluded', limit', excess'⟩ := b
  simp only [toJson, Value.object.injEq, List.cons.injEq, Prod.mk.injEq, Value.nat.injEq,
    Value.string.injEq, true_and, and_true] at h
  obtain ⟨hkind, hexcluded, rfl, rfl⟩ := h
  rw [LimitKind.name_injective hkind, array_map_injective nat_toNat_injective hexcluded]

/-- The text of the reports tells the source map, the errors and the limitations of a result, each
of them in their order and with any characters in the reasons, and it depends on nothing else. -/
theorem ConversionResult.sourceMapText_eq_iff (a b : ConversionResult) :
    a.sourceMapText = b.sourceMapText ↔
      a.sourceMap = b.sourceMap ∧ a.errors = b.errors ∧ a.limitations = b.limitations := by
  constructor
  · intro h
    have hvalue := Value.render_injective .pretty h
    simp only [Value.object.injEq, List.cons.injEq, Prod.mk.injEq, true_and, and_true] at hvalue
    obtain ⟨hsources, herrors, hlimitations⟩ := hvalue
    exact ⟨array_map_injective Source.toJson_injective hsources,
      array_map_injective ConversionError.toJson_injective herrors,
      array_map_injective Limitation.toJson_injective hlimitations⟩
  · rintro ⟨hsources, herrors, hlimitations⟩
    unfold sourceMapText
    rw [hsources, herrors, hlimitations]

/-- A reason that looks like the end of its report and the beginning of another one. -/
example : ({ errors := [.unsupported 7 1 "a\"\x7d, \x7b\"kind\": \"unsupported\""] } :
    ConversionResult).sourceMapText ≠
      ({ errors := [.unsupported 7 1 "a", .unsupported 7 1 ""] } :
        ConversionResult).sourceMapText := by
  decide +kernel

end Blocklist
