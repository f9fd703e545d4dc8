import Blocklist.Proofs.Json.Records

/-! # Forms of records

A record may be written as an object with its members in any order, without those that are not set,
and with further members that nobody knows. It may also be written as an array of all its fields in
order. The entries of a record say which members it has and in which forms their values may stand.
The reader of a layout accepts all of these forms if each of its fields accepts those of its entry.

* `RecordForm`: the trees that hold the entries of a record;
* `Layout.Fits`: the fields of a layout read the entries of a record;
* `Layout.reader_of_form`: the reader finds the record in each of its forms;
* `Layout.accepts_of_fits`: the same for a type that is built from the fields;
* `Reader.Accepts.readText`: a text that spells a form of a value is read as the value;
* `Reader.Recovers.readText_render`: a value that is written in one of its forms comes back.
-/

namespace Blocklist.Json

variable {α γ σ ρ : Type}

/-! ## Entries -/

/-- The tree is `null`, or the value in one of its forms. -/
def NullOr (form : α → Fragment → Prop) : Option α → Fragment → Prop
  | none, fragment => fragment = .null
  | some x, fragment => form x fragment

/-- What is written for one field of a record. -/
structure Entry where
  name : String
  /-- The tree is the value of the field. -/
  form : Fragment → Prop
  /-- An object need not have the field. -/
  omissible : Prop

/-- The entry of a field that has to be there. -/
def Entry.required (name : String) (form : α → Fragment → Prop) (x : α) : Entry where
  name
  form := form x
  omissible := False

/-- The entry of a field that is null or left out when it is not set. -/
def Entry.maybe (name : String) (form : α → Fragment → Prop) (x : Option α) : Entry where
  name
  form := NullOr form x
  omissible := x = none

/-- The members are those of the entries in order, without some that may be left out. -/
inductive Listed : List Entry → List (Option String × Fragment) → Prop where
  | nil : Listed [] []
  | written {entry : Entry} {entries : List Entry} {value : Fragment}
      {members : List (Option String × Fragment)} (h : entry.form value)
      (hrest : Listed entries members) :
      Listed (entry :: entries) ((some entry.name, value) :: members)
  | omitted {entry : Entry} {entries : List Entry} {members : List (Option String × Fragment)}
      (h : entry.omissible) (hrest : Listed entries members) : Listed (entry :: entries) members

/-- The member has a name, and it is the name of none of the entries. -/
def Unknown (entries : List Entry) (member : Option String × Fragment) : Prop :=
  ∃ name, member.1 = some name ∧ name ∉ entries.map Entry.name

theorem Unknown.tail {entry : Entry} {entries : List Entry} {member : Option String × Fragment}
    (h : Unknown (entry :: entries) member) : Unknown entries member := by
  obtain ⟨name, hname, hmem⟩ := h
  exact ⟨name, hname, fun hrest => hmem (List.mem_cons_of_mem _ hrest)⟩

/-- The tree holds the entries of a record. -/
inductive RecordForm (entries : List Entry) : Fragment → Prop where
  | object {members known unknown : List (Option String × Fragment)} (hknown : Listed entries known)
      (hunknown : ∀ m ∈ unknown, Unknown entries m) (hmembers : members.Perm (known ++ unknown)) :
      RecordForm entries (.object members true)
  | array {items : List Fragment} (hitems : List.Forall₂ Entry.form entries items) :
      RecordForm entries (.array items true)

theorem not_recordForm_null (entries : List Entry) : ¬ RecordForm entries .null :=
  nofun

/-- Members are listed for entries only. -/
theorem mem_names_of_listed {entries : List Entry} {members : List (Option String × Fragment)}
    (h : Listed entries members) : ∀ m ∈ members, ∃ name, m.1 = some name ∧
      name ∈ entries.map Entry.name := by
  induction h with
  | nil =>
    intro m hm
    cases hm
  | @written entry entries value members h hrest ih =>
    intro m hm
    rcases List.mem_cons.mp hm with rfl | hm
    · exact ⟨entry.name, rfl, List.mem_cons_self⟩
    · obtain ⟨name, hname, hmem⟩ := ih m hm
      exact ⟨name, hname, List.mem_cons_of_mem _ hmem⟩
  | omitted h hrest ih =>
    intro m hm
    obtain ⟨name, hname, hmem⟩ := ih m hm
    exact ⟨name, hname, List.mem_cons_of_mem _ hmem⟩

/-- Only the member of an entry has the name of that entry. -/
theorem name_ne_of_listed {entry : Entry} {entries : List Entry}
    {known unknown : List (Option String × Fragment)} (hentry : entry.name ∉ entries.map Entry.name)
    (hknown : Listed entries known) (hunknown : ∀ m ∈ unknown, Unknown (entry :: entries) m) :
    ∀ m ∈ known ++ unknown, m.1 ≠ some entry.name := by
  intro m hm heq
  rcases List.mem_append.mp hm with hm | hm
  · obtain ⟨name, hname, hmem⟩ := mem_names_of_listed hknown m hm
    obtain rfl : name = entry.name := Option.some.inj (hname.symm.trans heq)
    exact hentry hmem
  · obtain ⟨name, hname, hmem⟩ := hunknown m hm
    obtain rfl : name = entry.name := Option.some.inj (hname.symm.trans heq)
    exact hmem List.mem_cons_self

/-! ## Layouts -/

namespace Layout

/-- Names of the fields. -/
def names {γ σ : Type} : Layout γ σ → List String
  | done => []
  | field first rest => first.name :: rest.names

/-- The fields of the layout read the entries, and the record is made of what they read. -/
inductive Fits : {γ σ : Type} → Layout γ σ → List Entry → γ → Prop where
  | done : Fits done [] ()
  | field {α γ σ : Type} {first : Field α} {rest : Layout γ σ} {entry : Entry}
      {entries : List Entry} {v : α} {record : γ} (hname : entry.name = first.name)
      (hread : ∀ fragment, entry.form fragment → fragment.isWhole = true →
        first.read fragment = .ok v)
      (hpresence : entry.omissible → first.presence = .optional v)
      (hrest : Fits rest entries record) : Fits (field first rest) (entry :: entries) (v, record)

theorem Fits.names_eq {layout : Layout γ σ} {entries : List Entry} {record : γ}
    (h : layout.Fits entries record) : entries.map Entry.name = layout.names := by
  induction h with
  | done => rfl
  | field hname hread hpresence hrest ih => rw [List.map_cons, ih, hname, names]

/-- A field that has to be there reads the forms of its value. -/
theorem Fits.required {read : Reader α} {form : α → Fragment → Prop} (hread : read.Accepts form)
    (name : String) (x : α) {rest : Layout γ σ} {entries : List Entry} {record : γ}
    (hrest : rest.Fits entries record) :
    (Layout.field { name, read } rest).Fits (.required name form x :: entries) (x, record) :=
  .field rfl (hread.reads x) False.elim hrest

/-- A field that need not be set reads the forms of its value, and `null`. -/
theorem Fits.maybe {read : Reader α} {form : α → Fragment → Prop} (hread : read.Accepts form)
    (name : String) (x : Option α) {rest : Layout γ σ} {entries : List Entry} {record : γ}
    (hrest : rest.Fits entries record) :
    (Layout.field (.maybe name read) rest).Fits (.maybe name form x :: entries) (x, record) := by
  have hvalue : ∀ fragment, NullOr form x fragment → fragment.isWhole = true →
      Reader.option read fragment = .ok x := by
    intro fragment hform hwhole
    cases x with
    | none =>
      have hnull : fragment = .null := hform
      rw [hnull, Reader.option]
    | some x =>
      have hnull : fragment ≠ .null := by
        rintro rfl
        exact hread.not_null x hform
      rw [Reader.option_of_ne_null read hnull, hread.reads x fragment hform hwhole]
      rfl
  have hpresence : x = none → (Field.maybe name read).presence = .optional x := by
    rintro rfl
    rfl
  exact .field rfl hvalue hpresence hrest

/-- An object whose members are those of the entries in any order and others holds the record. -/
theorem Fits.holds {layout : Layout γ σ} {entries : List Entry} {record : γ}
    (h : layout.Fits entries record) (distinct : layout.names.Nodup)
    {members known unknown : List (Option String × Fragment)} (hknown : Listed entries known)
    (hunknown : ∀ m ∈ unknown, Unknown entries m) (hmembers : members.Perm (known ++ unknown))
    (hwhole : ∀ m ∈ members, m.2.isWhole = true) : layout.Holds members record := by
  induction h generalizing members known unknown with
  | done =>
    cases hknown
    refine .done fun m hm => ?_
    obtain ⟨name, hname, _⟩ := hunknown m (hmembers.mem_iff.mp hm)
    exact ⟨Option.isSome_iff_exists.mpr ⟨name, hname⟩, hwhole m hm⟩
  | @field α γ σ first rest entry entries v record hname hread hpresence hrest ih =>
    obtain ⟨hfirst, hdistinct⟩ := List.nodup_cons.mp distinct
    have hentry : entry.name ∉ entries.map Entry.name := by
      rw [hrest.names_eq, hname]
      exact hfirst
    have hunknown' : ∀ m ∈ unknown, Unknown entries m := fun m hm => (hunknown m hm).tail
    cases hknown with
    | @written _ _ value known hform hlisted =>
      -- The member of the first field stands somewhere. The others, before and behind it, are those
      -- of the other fields and the unknown ones.
      have hmem : (some entry.name, value) ∈ members := hmembers.mem_iff.mpr List.mem_cons_self
      obtain ⟨before, after, rfl⟩ := List.append_of_mem hmem
      have hperm : (before ++ after).Perm (known ++ unknown) :=
        (List.perm_middle.symm.trans hmembers).cons_inv
      have hne : ∀ m ∈ before ++ after, m.1 ≠ some entry.name := fun m hm =>
        name_ne_of_listed hentry hlisted hunknown m (hperm.mem_iff.mp hm)
      have hwhole' : ∀ m ∈ before ++ after, m.2.isWhole = true := fun m hm =>
        hwhole m (List.perm_middle.mem_iff.mpr (List.mem_cons_of_mem _ hm))
      rw [hname] at hne ⊢
      exact .present (fun m hm => hne m (List.mem_append_left _ hm))
        (fun m hm => hne m (List.mem_append_right _ hm)) (hread value hform (hwhole _ hmem))
        (ih hdistinct hlisted hunknown' hperm hwhole')
    | omitted homissible hlisted =>
      have hne : ∀ m ∈ members, m.1 ≠ some first.name := fun m hm => by
        rw [← hname]
        exact name_ne_of_listed hentry hlisted hunknown m (hmembers.mem_iff.mp hm)
      exact .absent hne (hpresence homissible) (ih hdistinct hlisted hunknown' hmembers hwhole)

/-- An array of all entries in order is read item by item. -/
theorem Fits.readItems {layout : Layout γ σ} {entries : List Entry} {record : γ}
    (h : layout.Fits entries record) {items : List Fragment}
    (hitems : List.Forall₂ Entry.form entries items) (hwhole : ∀ item ∈ items, item.isWhole = true)
    (expected : String) (count : Nat) :
    layout.readItems expected count true items = .ok record := by
  induction h generalizing items count with
  | done =>
    cases hitems
    rfl
  | field hname hread hpresence hrest ih =>
    cases hitems with
    | @cons _ item _ items hform hitems =>
      have hitem := hread item hform (hwhole item List.mem_cons_self)
      have hmore := ih hitems (fun other hother => hwhole other (List.mem_cons_of_mem _ hother))
        (count + 1)
      rw [Layout.readItems, hitem, hmore]
      rfl

/-- The reader finds the record in each of its forms. -/
theorem reader_of_form {layout : Layout γ σ} {entries : List Entry} {record : γ}
    (h : layout.Fits entries record) (distinct : layout.names.Nodup) (name : String)
    {fragment : Fragment} (hform : RecordForm entries fragment)
    (hwhole : fragment.isWhole = true) : layout.reader name fragment = .ok record := by
  cases hform with
  | object hknown hunknown hmembers =>
    have hmembersWhole := (Fragment.membersWhole_iff _).mp hwhole
    exact reader_of_holds (h.holds distinct hknown hunknown hmembers hmembersWhole) name
  | array hitems => exact h.readItems hitems ((Fragment.areWhole_iff _).mp hwhole) _ 0

/-- The reader of a type accepts the forms of its entries if its values are made of the fields. -/
theorem accepts_of_fits {layout : Layout γ σ} {build : γ → ρ} {entries : ρ → List Entry}
    (distinct : layout.names.Nodup)
    (h : ∀ x, ∃ record, layout.Fits (entries x) record ∧ build record = x) (name : String) :
    Reader.Accepts (fun fragment => (layout.reader name fragment).map build)
      fun x => RecordForm (entries x) where
  reads := by
    intro x fragment hform hwhole
    obtain ⟨record, hfits, hbuild⟩ := h x
    rw [reader_of_form hfits distinct name hform hwhole, Except.map, hbuild]
  not_null x := not_recordForm_null (entries x)

end Layout

/-! ## Texts -/

theorem readText_of_ofText {read : Reader α} {text : String} {fragment : Fragment} {x : α}
    (hdocument : Document.ofText text = ⟨fragment, true⟩) (hread : read fragment = .ok x) :
    readText read text = .ok x := by
  unfold readText
  rw [hdocument]
  simp only [hread]
  rfl

/-- A text that spells a form of the value is read as the value. -/
theorem Reader.Accepts.readText {read : Reader α} {form : α → Fragment → Prop}
    (h : read.Accepts form) {x : α} {fragment : Fragment} {text : String}
    (hspells : Spells fragment text.toList) (hform : form x fragment) :
    readText read text = .ok x :=
  readText_of_ofText (Document.ofText_of_spells hspells) (h.reads x fragment hform hspells.isWhole)

/-! ## Writers -/

theorem isString_string (s : String) : IsString s (Value.string s).fragment :=
  rfl

theorem isBool_bool (b : Bool) : IsBool b (Value.bool b).fragment :=
  rfl

theorem isNumber_nat (n : UInt32) : IsNumber n (Value.nat n.toNat).fragment :=
  rfl

/-- The members that are listed for the entries make up an object that holds them. -/
theorem RecordForm.of_listed {entries : List Entry} {members : List (String × Value)}
    (h : Listed entries (memberFragments members)) :
    RecordForm entries (Value.object members).fragment := by
  have hperm : (memberFragments members).Perm (memberFragments members ++ []) := by
    rw [List.append_nil]
  exact .object h (List.forall_mem_nil _) hperm

section Writers

variable {form : α → Fragment → Prop} {write : α → Value}

theorem IsList.of_forall (h : ∀ x, form x (write x).fragment) (xs : List α) :
    IsList form xs (Value.array (xs.map write)).fragment := by
  refine ⟨itemFragments (xs.map write), rfl, ?_⟩
  induction xs with
  | nil => exact .nil
  | cons x xs ih => exact .cons (h x) ih

/-- A field that has to be there is written with its value. -/
theorem Listed.required (h : ∀ x, form x (write x).fragment) (name : String) (x : α)
    {entries : List Entry} {members : List (String × Value)}
    (hrest : Listed entries (memberFragments members)) :
    Listed (.required name form x :: entries) (memberFragments ((name, write x) :: members)) :=
  .written (h x) hrest

/-- A field that may be left out is written exactly if it is set. -/
theorem Listed.maybe (h : ∀ x, form x (write x).fragment) (name : String) (x : Option α)
    {entries : List Entry} {members : List (String × Value)}
    (hrest : Listed entries (memberFragments members)) :
    Listed (.maybe name form x :: entries)
      (memberFragments (member? name (x.map write) ++ members)) := by
  cases x with
  | none => exact .omitted rfl hrest
  | some x => exact .written (h x) hrest

/-- The last field of a record. -/
theorem Listed.maybe_nil (h : ∀ x, form x (write x).fragment) (name : String) (x : Option α) :
    Listed [.maybe name form x] (memberFragments (member? name (x.map write))) := by
  have hnil : Listed [] (memberFragments []) := .nil
  have hlisted := Listed.maybe h name x hnil
  rwa [List.append_nil] at hlisted

/-- The reader gives back every value that is written. -/
def Reader.Recovers (read : Reader α) (write : α → Value) : Prop :=
  ∀ x, read (write x).fragment = .ok x

/-- A reader gives back what is written in a form that it accepts. -/
theorem Reader.Accepts.recovers {read : Reader α} (hread : read.Accepts form)
    (hwrite : ∀ x, form x (write x).fragment) : read.Recovers write := by
  intro x
  have hwhole : (write x).fragment.isWhole = true := ((write x).spells_chars .compact 0).isWhole
  exact hread.reads x _ (hwrite x) hwhole

/-- A value that is recovered comes back from its text, whatever the style. -/
theorem Reader.Recovers.readText_render {read : Reader α} (h : read.Recovers write) (style : Style)
    (x : α) : readText read ((write x).render style) = .ok x :=
  readText_of_ofText (Document.ofText_render style (write x)) (h x)

end Writers

end Blocklist.Json
