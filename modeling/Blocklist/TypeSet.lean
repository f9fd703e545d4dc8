import Blocklist.ResourceType

/-! # Sets of resource types

A set is a mask of thirteen bits, one for each resource type, so that equal sets are equal masks.
`mem_union`, `mem_sdiff` and `mem_toList` say what the operations mean.
-/

namespace Blocklist

/-- A set of resource types. -/
structure TypeSet where
  mask : BitVec 13 := 0#13
  deriving Repr, DecidableEq

namespace TypeSet

/-- The resource type `t` belongs to the set. -/
def contains (s : TypeSet) (t : ResourceType) : Bool :=
  s.mask.getLsbD t.bit

instance : Membership ResourceType TypeSet where
  mem s t := s.contains t = true

instance (s : TypeSet) (t : ResourceType) : Decidable (t ∈ s) :=
  inferInstanceAs (Decidable (s.contains t = true))

/-- The set with no member. -/
def empty : TypeSet := {}

/-- The set with one member. -/
def single (t : ResourceType) : TypeSet :=
  ⟨BitVec.twoPow 13 t.bit⟩

instance : Union TypeSet where
  union s u := ⟨s.mask ||| u.mask⟩

instance : SDiff TypeSet where
  sdiff s u := ⟨s.mask &&& ~~~u.mask⟩

/-- The set has no member. -/
def isEmpty (s : TypeSet) : Bool :=
  s.mask == 0#13

/-- The members, in the order in which they are written. -/
def toList (s : TypeSet) : List ResourceType :=
  ResourceType.all.filter s.contains

/-- The set that a number masks. Bits that belong to no resource type are left out. -/
def ofBits (n : Nat) : TypeSet :=
  ⟨BitVec.ofNat 13 n⟩

/-- The mask as a number. -/
def toBits (s : TypeSet) : Nat :=
  s.mask.toNat

theorem mem_iff {s : TypeSet} {t : ResourceType} : t ∈ s ↔ s.contains t = true := Iff.rfl

@[ext] theorem ext {s u : TypeSet} (h : ∀ t : ResourceType, t ∈ s ↔ t ∈ u) : s = u := by
  rcases s with ⟨s⟩
  rcases u with ⟨u⟩
  congr 1
  refine BitVec.eq_of_getLsbD_eq fun i hi => ?_
  rcases ResourceType.exists_bit_eq ⟨i, hi⟩ with ⟨t, ht⟩
  have := h t
  rw [mem_iff, mem_iff, contains, contains, ht, ← Bool.eq_iff_iff] at this
  exact this

@[simp] theorem not_mem_empty (t : ResourceType) : t ∉ empty := by
  simp [mem_iff, contains, empty]

@[simp] theorem mem_single {s t : ResourceType} : t ∈ single s ↔ t = s := by
  cases s <;> cases t <;> decide

@[simp] theorem mem_union {s u : TypeSet} {t : ResourceType} : t ∈ s ∪ u ↔ t ∈ s ∨ t ∈ u := by
  simp [mem_iff, contains, Union.union]

@[simp] theorem mem_sdiff {s u : TypeSet} {t : ResourceType} : t ∈ s \ u ↔ t ∈ s ∧ t ∉ u := by
  simp [mem_iff, contains, SDiff.sdiff]

@[simp] theorem mem_toList {s : TypeSet} {t : ResourceType} : t ∈ s.toList ↔ t ∈ s := by
  simp [toList, mem_iff, ResourceType.mem_all]

theorem nodup_toList (s : TypeSet) : s.toList.Nodup :=
  ResourceType.nodup_all.filter _

theorem isEmpty_iff {s : TypeSet} : s.isEmpty = true ↔ s = empty := by
  rcases s with ⟨s⟩
  simp [isEmpty, empty]

theorem toList_eq_nil_iff {s : TypeSet} : s.toList = [] ↔ s = empty := by
  constructor
  · intro h
    ext t
    rw [← mem_toList, h]
    simp
  · rintro rfl
    decide

end TypeSet

end Blocklist
