import Blocklist.Json.Layout
import Blocklist.Proofs.Json.Documents

/-! # Readers that accept every form of a value

A value stands in a document in one of several forms, each of which is a tree. A reader accepts a
form if it finds the value in every such tree that is without a fault. The property goes from the
items of an array to the array. A record is found in an object that holds its fields in any order
and among other members.

* `Reader.Accepts`: the reader finds the value in each of its forms;
* `Reader.Accepts.list`, `Reader.accepts_u32`, ...: the readers of plain values;
* `Layout.reader_of_holds`: the reader of a record finds the record that an object holds.
-/

namespace Blocklist.Json

/-! ## Plain values -/

/-- The tree is the string. -/
def IsString (s : String) (fragment : Fragment) : Prop :=
  fragment = .string (some s)

/-- The tree is the truth value. -/
def IsBool (b : Bool) (fragment : Fragment) : Prop :=
  fragment = .bool b

/-- The tree is the number. -/
def IsNumber (n : UInt32) (fragment : Fragment) : Prop :=
  fragment = .number (.ofNat n.toNat)

/-- The tree is an array, and its items are the items of the list in their forms. -/
def IsList {α : Type} (form : α → Fragment → Prop) (xs : List α) (fragment : Fragment) : Prop :=
  ∃ items, fragment = .array items true ∧ List.Forall₂ form xs items

namespace Fragment

theorem areWhole_iff (items : List Fragment) :
    areWhole items = true ↔ ∀ item ∈ items, item.isWhole = true := by
  induction items with
  | nil => simp [areWhole]
  | cons item items ih => simp [areWhole, ih]

theorem membersWhole_iff (members : List (Option String × Fragment)) :
    membersWhole members = true ↔ ∀ m ∈ members, m.2.isWhole = true := by
  induction members with
  | nil => simp [membersWhole]
  | cons member members ih =>
    obtain ⟨name, value⟩ := member
    simp [membersWhole, ih]

end Fragment

namespace Reader

variable {α : Type}

/-- The reader finds the value in each of its forms. None of the forms is `null`, which is left for
a value that is not set. -/
structure Accepts (read : Reader α) (form : α → Fragment → Prop) : Prop where
  reads : ∀ x fragment, form x fragment → fragment.isWhole = true → read fragment = .ok x
  not_null : ∀ x, ¬ form x .null

theorem accepts_string : string.Accepts IsString where
  reads := by
    rintro s _ rfl _
    rfl
  not_null := nofun

theorem accepts_bool : bool.Accepts IsBool where
  reads := by
    rintro b _ rfl _
    rfl
  not_null := nofun

theorem accepts_u32 : u32.Accepts IsNumber where
  reads := by
    rintro n _ rfl _
    have hn : n.toNat < UInt32.size := n.toNat_lt
    have hvalue : (Numeral.ofNat n.toNat).value? = some (.natural n.toNat) :=
      Numeral.value?_ofNat (Nat.lt_trans hn (by decide))
    calc u32 (.number (.ofNat n.toNat))
        = (Except.ok n.toNat).map UInt32.ofNat := by
          unfold u32 natural
          simp only [hvalue, if_pos hn]
      _ = .ok n := by
          rw [Except.map, UInt32.ofNat_toNat]
  not_null := nofun

/-- A table of names is read if looking up the name of a value finds the value. -/
theorem accepts_oneOf {known : List (String × α)} {name : α → String}
    (h : ∀ x, known.lookup (name x) = some x) :
    (oneOf known).Accepts fun x => IsString (name x) where
  reads := by
    rintro x _ rfl _
    show variant known (name x) = .ok x
    rw [variant, h x]
  not_null := nofun

/-- Arrays are read item by item. -/
theorem Accepts.list {read : Reader α} {form : α → Fragment → Prop} (h : read.Accepts form) :
    (Reader.list read).Accepts (IsList form) where
  reads := by
    rintro xs _ ⟨items, rfl, hitems⟩ hwhole
    replace hwhole := (Fragment.areWhole_iff items).mp hwhole
    have hread : items.mapM read = .ok xs := by
      induction hitems with
      | nil => rfl
      | @cons x item xs items hitem _ ih =>
        have hrest := ih fun other hother => hwhole other (List.mem_cons_of_mem _ hother)
        rw [List.mapM_cons, h.reads x item hitem (hwhole item List.mem_cons_self), hrest]
        rfl
    rw [Reader.list, hread]
    rfl
  not_null := by
    rintro xs ⟨items, hnull, _⟩
    cases hnull

/-- A value that is set is read in its forms, and `null` as a value that is not. -/
theorem option_of_ne_null (read : Reader α) {fragment : Fragment} (h : fragment ≠ .null) :
    option read fragment = (read fragment).map some := by
  cases fragment with
  | null => exact absurd rfl h
  | _ => rfl

end Reader

/-! ## Records -/

namespace Layout

variable {α γ σ : Type}

/-- The object with these members holds the record. Every field has one member with its name, unless
it may be absent, and what is left over are members that are JSON. -/
inductive Holds : {γ σ : Type} → Layout γ σ → List (Option String × Fragment) → γ → Prop where
  | done {members : List (Option String × Fragment)}
      (hwhole : ∀ m ∈ members, m.1.isSome = true ∧ m.2.isWhole = true) : Holds done members ()
  | present {α γ σ : Type} {first : Field α} {rest : Layout γ σ} {v : α} {record : γ}
      {before after : List (Option String × Fragment)} {value : Fragment}
      (hbefore : ∀ m ∈ before, m.1 ≠ some first.name)
      (hafter : ∀ m ∈ after, m.1 ≠ some first.name)
      (hread : first.read value = .ok v) (hrest : Holds rest (before ++ after) record) :
      Holds (field first rest) (before ++ (some first.name, value) :: after) (v, record)
  | absent {α γ σ : Type} {first : Field α} {rest : Layout γ σ} {v : α} {record : γ}
      {members : List (Option String × Fragment)}
      (hmembers : ∀ m ∈ members, m.1 ≠ some first.name) (hpresence : first.presence = .optional v)
      (hrest : Holds rest members record) : Holds (field first rest) members (v, record)

/-- The members of an object are read one after the other. -/
theorem readMembers_append (layout : Layout γ σ) (slots : σ)
    (xs ys : List (Option String × Fragment)) :
    layout.readMembers slots (xs ++ ys) =
      layout.readMembers slots xs >>= fun slots => layout.readMembers slots ys := by
  induction xs generalizing slots with
  | nil => rfl
  | cons m xs ih =>
    obtain ⟨name, value⟩ := m
    cases name with
    | none => rfl
    | some name =>
      rw [List.cons_append, readMembers, readMembers]
      cases layout.put name value slots with
      | error e => rfl
      | ok found =>
        cases found with
        | some slots => exact ih slots
        | none =>
          by_cases hwhole : value.isWhole = true
          · simpa [hwhole, bind, Except.bind] using ih slots
          · simp [hwhole, bind, Except.bind, throw, throwThe, MonadExceptOf.throw]

/-- A member that does not have the name of the first field goes to the other fields. -/
theorem put_field_of_ne {first : Field α} (rest : Layout γ σ) {name : String}
    (h : name ≠ first.name) (value : Fragment) (slot : Option α) (slots : σ) :
    (field first rest).put name value (slot, slots) =
      (rest.put name value slots).map fun found => found.map fun slots => (slot, slots) :=
  if_neg h

/-- The slot of the first field stays as it is while no member has the name of the field. -/
theorem readMembers_field_of_ne {first : Field α} (rest : Layout γ σ) (slot : Option α) (slots : σ)
    {members : List (Option String × Fragment)} (h : ∀ m ∈ members, m.1 ≠ some first.name) :
    (field first rest).readMembers (slot, slots) members =
      (rest.readMembers slots members).map fun slots => (slot, slots) := by
  induction members generalizing slots with
  | nil => rfl
  | cons m members ih =>
    obtain ⟨name, value⟩ := m
    have hmembers := fun m hm => h m (List.mem_cons_of_mem _ hm)
    cases name with
    | none => rfl
    | some name =>
      have hname : name ≠ first.name := fun heq => h _ List.mem_cons_self (congrArg some heq)
      rw [readMembers, readMembers, put_field_of_ne rest hname]
      cases rest.put name value slots with
      | error e => rfl
      | ok found =>
        cases found with
        | some slots => exact ih slots hmembers
        | none =>
          by_cases hwhole : value.isWhole = true
          · simpa [hwhole, bind, Except.bind, Except.map] using ih slots hmembers
          · simp [hwhole, bind, Except.bind, Except.map, throw, throwThe, MonadExceptOf.throw]

/-- Members that no field is left for only have to be JSON. -/
theorem readMembers_done {members : List (Option String × Fragment)}
    (h : ∀ m ∈ members, m.1.isSome = true ∧ m.2.isWhole = true) :
    done.readMembers () members = .ok () := by
  induction members with
  | nil => rfl
  | cons m members ih =>
    obtain ⟨name, value⟩ := m
    obtain ⟨hname, hwhole⟩ := h _ List.mem_cons_self
    obtain ⟨name, rfl⟩ := Option.isSome_iff_exists.mp hname
    have hrest := ih fun m hm => h m (List.mem_cons_of_mem _ hm)
    calc done.readMembers () ((some name, value) :: members)
        = if value.isWhole then done.readMembers () members else throw .malformed := rfl
      _ = .ok () := by rw [if_pos hwhole, hrest]

/-- Every slot is filled with the value of its field, or left empty where the field is absent. -/
theorem readMembers_of_holds {layout : Layout γ σ} {members : List (Option String × Fragment)}
    {record : γ} (h : layout.Holds members record) :
    ∃ slots, layout.readMembers layout.blank members = .ok slots ∧
      layout.finish slots = .ok record := by
  induction h with
  | done hwhole => exact ⟨(), readMembers_done hwhole, rfl⟩
  | @present α γ σ first rest v record before after value hbefore hafter hread hrest ih =>
    -- The other fields read what stands before and after the member. In between the slot is filled.
    obtain ⟨slots, hslots, hfinish⟩ := ih
    rw [readMembers_append] at hslots
    cases hfront : rest.readMembers rest.blank before with
    | error e =>
      rw [hfront] at hslots
      cases hslots
    | ok front =>
      rw [hfront] at hslots
      have hback : rest.readMembers front after = .ok slots := hslots
      have hput : (field first rest).put first.name value (none, front) =
          .ok (some (some v, front)) := by
        simp [put, hread, Except.map]
      refine ⟨(some v, slots), ?_, ?_⟩
      · rw [blank, readMembers_append, readMembers_field_of_ne rest none _ hbefore, hfront]
        show (field first rest).readMembers (none, front) ((some first.name, value) :: after) = _
        rw [readMembers, hput]
        show (field first rest).readMembers (some v, front) after = _
        rw [readMembers_field_of_ne rest (some v) _ hafter, hback]
        rfl
      · rw [finish, hfinish]
        rfl
  | @absent α γ σ first rest v record members hmembers hpresence hrest ih =>
    obtain ⟨slots, hslots, hfinish⟩ := ih
    refine ⟨(none, slots), ?_, ?_⟩
    · rw [blank, readMembers_field_of_ne rest none _ hmembers, hslots]
      rfl
    · unfold finish
      rw [hpresence, hfinish]
      rfl

/-- The reader of a record finds the record that an object holds. -/
theorem reader_of_holds {layout : Layout γ σ} {members : List (Option String × Fragment)}
    {record : γ} (h : layout.Holds members record) (name : String) :
    layout.reader name (.object members true) = .ok record := by
  obtain ⟨slots, hslots, hfinish⟩ := readMembers_of_holds h
  rw [reader, hslots]
  exact hfinish

end Layout

end Blocklist.Json
