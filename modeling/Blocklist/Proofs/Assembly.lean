import Mathlib.Data.List.Basic
import Mathlib.Data.List.Perm.Basic
import Blocklist.Proofs.Building

/-! # Rules are put together in any order

Options are read one after the other, and each of them adds something to the rule. In the end the
rule says what its options say one by one, so it does not matter in which order they stand.

* `Setting.isSome_modifier?_iff`: the name of an option tells whether it is a modifier;
* `Rule.gains_of_withSetting`: what one setting adds to a rule;
* `Rule.exists_withOptions_iff`: when a whole list of options builds a rule;
* `Rule.states_withOptions`: what the rule then says;
* `Rule.Canonical.eq_of_states`: a canonical rule is known by what it says;
* `withOptions_any_order`: all orders of a list of options build the same rule, or none.
-/

namespace Blocklist

/-! ## Names of options -/

/-- The name of an option as it is looked up. -/
def optionName (name : String) : String :=
  Text.lower (Text.trim name)

/-- An option with this name is a modifier. -/
def NamesModifier (name : String) : Prop :=
  optionName name ∈ ["csp", "removeparam", "removeheader", "redirect"]

instance (name : String) : Decidable (NamesModifier name) :=
  inferInstanceAs (Decidable (_ ∈ _))

theorem exists_kind_of_namesModifier {name : String} (h : NamesModifier name) :
    ∃ kind, ModifierKind.ofName? (optionName name) = some kind := by
  simp only [NamesModifier, List.mem_cons, List.not_mem_nil, or_false] at h
  rcases h with h | h | h | h
  · exact ⟨.csp, by rw [h]; rfl⟩
  · exact ⟨.removeParam, by rw [h]; rfl⟩
  · exact ⟨.removeHeader, by rw [h]; rfl⟩
  · exact ⟨.redirect, by rw [h]; rfl⟩

theorem namesModifier_of_kind {name : String} {kind : ModifierKind}
    (h : ModifierKind.ofName? (optionName name) = some kind) : NamesModifier name := by
  rw [NamesModifier, ← ModifierKind.name_eq_of_ofName? h]
  cases kind <;> decide

namespace Setting

/-- The modifier that the setting adds. -/
def modifier? : Setting → Option Modifier
  | modifier m => some m
  | _ => none

variable {name value : String} {allowlist : Bool} {setting : Setting}

/-- The name of a modifier is that of no flag, of no type and not `domain`. -/
theorem parse_of_kind {kind : ModifierKind}
    (h : ModifierKind.ofName? (optionName name) = some kind) (value : String) (allowlist : Bool) :
    parse name value allowlist = (Modifier.make kind value allowlist).map modifier := by
  have hname : Text.lower (Text.trim name) = kind.name := (ModifierKind.name_eq_of_ofName? h).symm
  have hflag : Flag.ofOptionName? kind.name = none := by
    cases kind <;> rfl
  have hdomain : kind.name ≠ "domain" := by
    cases kind <;> decide
  have htype : ofTypeName? kind.name = none := by
    cases kind <;> decide
  unfold parse Modifier.parse
  dsimp only
  rw [hname, hflag, htype, ModifierKind.ofName?_name]
  dsimp only
  rw [if_neg hdomain]
  cases Modifier.make kind value allowlist <;> rfl

/-- No other name is that of a modifier. -/
theorem modifier?_of_no_kind (h : parse name value allowlist = .ok setting)
    (hkind : ModifierKind.ofName? (optionName name) = none) : setting.modifier? = none := by
  have hparse : Modifier.parse (Text.lower (Text.trim name)) value allowlist = .ok none := by
    unfold Modifier.parse
    rw [show ModifierKind.ofName? (Text.lower (Text.trim name)) = none from hkind]
  rcases parse_cases h with ⟨f, rfl⟩ | ⟨-, rfl⟩ | ⟨t, rfl⟩ | ⟨t, rfl⟩ | ⟨m, hm, -⟩
  · rfl
  · rfl
  · rfl
  · rfl
  · rw [hparse] at hm
    cases hm

/-- The name of an option tells whether it is a modifier. -/
theorem isSome_modifier?_iff (h : parse name value allowlist = .ok setting) :
    setting.modifier?.isSome = true ↔ NamesModifier name := by
  constructor
  · intro hsome
    cases hkind : ModifierKind.ofName? (optionName name) with
    | none =>
      rw [modifier?_of_no_kind h hkind] at hsome
      cases hsome
    | some kind => exact namesModifier_of_kind hkind
  · intro hnames
    obtain ⟨kind, hkind⟩ := exists_kind_of_namesModifier hnames
    rw [parse_of_kind hkind] at h
    obtain ⟨m, -, rfl⟩ := exists_ok_of_map h
    rfl

end Setting

/-! ## What a rule says -/

/-- A single thing that a rule can say. -/
inductive Trait where
  | flag (flag : Flag)
  | permittedType (type : ResourceType)
  | restrictedType (type : ResourceType)
  | permittedDomain (domain : String)
  | restrictedDomain (domain : String)
  | modifier (modifier : Modifier)
  deriving Repr, DecidableEq

/-- The setting adds the trait to a rule. -/
def Setting.States : Setting → Trait → Prop
  | flag f, trait => trait = .flag f
  | domains entries, .permittedDomain d => .permitted d ∈ entries
  | domains entries, .restrictedDomain d => .restricted d ∈ entries
  | domains _, _ => False
  | permitType t, trait => trait = .permittedType t
  | restrictType t, trait => trait = .restrictedType t
  | modifier m, trait => trait = .modifier m

theorem DomainEntry.permitted?_eq_some_iff {entry : DomainEntry} {d : String} :
    entry.permitted? = some d ↔ entry = permitted d := by
  cases entry <;> simp [permitted?]

theorem DomainEntry.restricted?_eq_some_iff {entry : DomainEntry} {d : String} :
    entry.restricted? = some d ↔ entry = restricted d := by
  cases entry <;> simp [restricted?]

namespace Rule

/-- A rule without any options. -/
def bare (pattern : String) (allowlist : Bool) : Rule :=
  { pattern, allowlist }

/-- The rule has the trait. -/
def States (rule : Rule) : Trait → Prop
  | .flag f => rule.flags.contains f = true
  | .permittedType t => t ∈ rule.permittedTypes
  | .restrictedType t => t ∈ rule.restrictedTypes
  | .permittedDomain d => d ∈ rule.permittedDomains
  | .restrictedDomain d => d ∈ rule.restrictedDomains
  | .modifier m => rule.modifier = some m

variable {rule made : Rule} {setting : Setting}

theorem not_states_bare (pattern : String) (allowlist : Bool) (trait : Trait) :
    ¬ (bare pattern allowlist).States trait := by
  cases trait with
  | flag f => cases f <;> exact Bool.false_ne_true
  | permittedType t => exact TypeSet.not_mem_empty t
  | restrictedType t => exact TypeSet.not_mem_empty t
  | permittedDomain d => exact List.not_mem_nil
  | restrictedDomain d => exact List.not_mem_nil
  | modifier m => exact Option.some_ne_none m ∘ Eq.symm

theorem withModifier_eq_ok_iff {m : Modifier} :
    rule.withModifier m = .ok made ↔
      rule.modifier = none ∧ { rule with modifier := some m } = made := by
  unfold withModifier
  split
  · next first hfirst => simp [hfirst]
  · next hnone => simp [hnone]

/-- A setting is refused only if it is the second modifier of the rule. -/
theorem exists_withSetting_iff :
    (∃ made, rule.withSetting setting = .ok made) ↔
      (setting.modifier?.isSome = true → rule.modifier = none) := by
  cases setting with
  | flag f => simp [withSetting, Setting.modifier?]
  | domains entries => simp [withSetting, Setting.modifier?]
  | permitType t => simp [withSetting, Setting.modifier?]
  | restrictType t => simp [withSetting, Setting.modifier?]
  | modifier m => simp [withSetting, Setting.modifier?, withModifier_eq_ok_iff]

/-- What becomes of a rule to which a setting is added. -/
structure Gains (rule : Rule) (setting : Setting) (made : Rule) : Prop where
  pattern : made.pattern = rule.pattern
  allowlist : made.allowlist = rule.allowlist
  /-- The modifier that was there and the one that is added are one modifier at most. -/
  modifier : made.modifier.toList = rule.modifier.toList ++ setting.modifier?.toList
  states : ∀ trait, made.States trait ↔ rule.States trait ∨ setting.States trait

theorem gains_of_withSetting (h : rule.withSetting setting = .ok made) :
    rule.Gains setting made := by
  cases setting with
  | flag f =>
    cases h
    refine ⟨rfl, rfl, (List.append_nil _).symm, fun trait => ?_⟩
    cases trait <;> simp [States, Setting.States, or_comm]
  | domains entries =>
    cases h
    refine ⟨rfl, rfl, (List.append_nil _).symm, fun trait => ?_⟩
    cases trait with
    | permittedDomain d =>
      simp [States, Setting.States, withDomains, DomainEntry.permitted?_eq_some_iff, or_comm]
    | restrictedDomain d =>
      simp [States, Setting.States, withDomains, DomainEntry.restricted?_eq_some_iff, or_comm]
    | flag | permittedType | restrictedType | modifier => simp [States, Setting.States, withDomains]
  | permitType t =>
    cases h
    refine ⟨rfl, rfl, (List.append_nil _).symm, fun trait => ?_⟩
    cases trait <;> simp [States, Setting.States]
  | restrictType t =>
    cases h
    refine ⟨rfl, rfl, (List.append_nil _).symm, fun trait => ?_⟩
    cases trait <;> simp [States, Setting.States]
  | modifier m =>
    obtain ⟨hnone, rfl⟩ := withModifier_eq_ok_iff.mp h
    refine ⟨rfl, rfl, by rw [hnone]; rfl, fun trait => ?_⟩
    cases trait with
    | modifier other => simpa [States, Setting.States, hnone] using eq_comm
    | flag | permittedType | restrictedType | permittedDomain | restrictedDomain =>
      simp [States, Setting.States]

/-! ## One option -/

variable {name value : String}

/-- An option is read on its own, and what it says is added to the rule. -/
theorem withOption_eq_ok_iff :
    rule.withOption name value = .ok made ↔
      ∃ setting, Setting.parse name value rule.allowlist = .ok setting ∧
        rule.withSetting setting = .ok made := by
  constructor
  · exact exists_ok_of_bind
  · rintro ⟨setting, hsetting, hmade⟩
    rw [withOption, hsetting]
    exact hmade

/-- A bare rule takes every option that can be read. -/
theorem exists_bare_withOption_iff (pattern : String) {allowlist : Bool} :
    (∃ single, (bare pattern allowlist).withOption name value = .ok single) ↔
      ∃ setting, Setting.parse name value allowlist = .ok setting := by
  constructor
  · rintro ⟨single, hsingle⟩
    obtain ⟨setting, hsetting, -⟩ := withOption_eq_ok_iff.mp hsingle
    exact ⟨setting, hsetting⟩
  · rintro ⟨setting, hsetting⟩
    obtain ⟨single, hsingle⟩ :=
      exists_withSetting_iff.mpr fun _ => (rfl : (bare pattern allowlist).modifier = none)
    exact ⟨single, withOption_eq_ok_iff.mpr ⟨setting, hsetting, hsingle⟩⟩

theorem exists_withOption_iff (pattern : String) :
    (∃ made, rule.withOption name value = .ok made) ↔
      (∃ single, (bare pattern rule.allowlist).withOption name value = .ok single) ∧
        (NamesModifier name → rule.modifier = none) := by
  rw [exists_bare_withOption_iff]
  constructor
  · rintro ⟨made, hmade⟩
    obtain ⟨setting, hsetting, hadded⟩ := withOption_eq_ok_iff.mp hmade
    refine ⟨⟨setting, hsetting⟩, fun hnames => ?_⟩
    have hmodifier := (Setting.isSome_modifier?_iff hsetting).mpr hnames
    exact exists_withSetting_iff.mp ⟨made, hadded⟩ hmodifier
  · rintro ⟨⟨setting, hsetting⟩, hfree⟩
    obtain ⟨made, hmade⟩ := exists_withSetting_iff.mpr fun hmodifier =>
      hfree ((Setting.isSome_modifier?_iff hsetting).mp hmodifier)
    exact ⟨made, withOption_eq_ok_iff.mpr ⟨setting, hsetting, hmade⟩⟩

theorem withOption_frame (h : rule.withOption name value = .ok made) :
    made.pattern = rule.pattern ∧ made.allowlist = rule.allowlist := by
  obtain ⟨setting, -, hadded⟩ := withOption_eq_ok_iff.mp h
  exact ⟨(gains_of_withSetting hadded).pattern, (gains_of_withSetting hadded).allowlist⟩

/-- An option adds what it says on its own. -/
theorem states_withOption (pattern : String) {single : Rule}
    (h : rule.withOption name value = .ok made)
    (hsingle : (bare pattern rule.allowlist).withOption name value = .ok single) (trait : Trait) :
    made.States trait ↔ rule.States trait ∨ single.States trait := by
  obtain ⟨setting, hsetting, hadded⟩ := withOption_eq_ok_iff.mp h
  obtain ⟨same, hsame, halone⟩ := withOption_eq_ok_iff.mp hsingle
  have hsettings : same = setting := Except.ok.inj (hsame.symm.trans hsetting)
  rw [hsettings] at halone
  rw [(gains_of_withSetting hadded).states, (gains_of_withSetting halone).states]
  simp only [not_states_bare, false_or]

/-- A rule has one modifier more after an option that names one. -/
theorem length_modifier_withOption (h : rule.withOption name value = .ok made) :
    made.modifier.toList.length =
      rule.modifier.toList.length + if NamesModifier name then 1 else 0 := by
  obtain ⟨setting, hsetting, hadded⟩ := withOption_eq_ok_iff.mp h
  have hnames := Setting.isSome_modifier?_iff hsetting
  rw [(gains_of_withSetting hadded).modifier, List.length_append]
  cases hmodifier : setting.modifier? with
  | none =>
    rw [hmodifier] at hnames
    rw [if_neg fun h => Bool.false_ne_true (hnames.mpr h), Option.toList_none, List.length_nil]
  | some m =>
    rw [hmodifier] at hnames
    rw [if_pos (hnames.mp rfl), Option.toList_some, List.length_singleton]

/-! ## A list of options -/

theorem withOptions_cons (rule : Rule) (first : String × String) (rest : List (String × String)) :
    rule.withOptions (first :: rest) =
      rule.withOption first.1 first.2 >>= fun next => next.withOptions rest :=
  List.foldlM_cons

theorem withOptions_singleton (rule : Rule) (o : String × String) :
    rule.withOptions [o] = rule.withOption o.1 o.2 := by
  rw [withOptions_cons]
  cases rule.withOption o.1 o.2 <;> rfl

theorem withOptions_append (rule : Rule) (front back : List (String × String)) :
    rule.withOptions (front ++ back) =
      rule.withOptions front >>= fun next => next.withOptions back :=
  List.foldlM_append

theorem withOptions_frame {options : List (String × String)}
    (h : rule.withOptions options = .ok made) :
    made.pattern = rule.pattern ∧ made.allowlist = rule.allowlist := by
  induction options generalizing rule with
  | nil => cases h; exact ⟨rfl, rfl⟩
  | cons first rest ih =>
    rw [withOptions_cons] at h
    obtain ⟨next, hfirst, hrest⟩ := exists_ok_of_bind h
    have hnext := withOption_frame hfirst
    have hmade := ih hrest
    exact ⟨hmade.1.trans hnext.1, hmade.2.trans hnext.2⟩

/-- Options build a rule just if each of them can be read and there is one modifier at most, the one
that the rule may have already included. -/
theorem exists_withOptions_iff (pattern : String) (rule : Rule)
    (options : List (String × String)) :
    (∃ made, rule.withOptions options = .ok made) ↔
      (∀ o ∈ options, ∃ single,
        (bare pattern rule.allowlist).withOption o.1 o.2 = .ok single) ∧
      rule.modifier.toList.length + options.countP (fun o => NamesModifier o.1) ≤ 1 := by
  induction options generalizing rule with
  | nil =>
    refine ⟨fun _ => ⟨fun o ho => absurd ho List.not_mem_nil, ?_⟩, fun _ => ⟨rule, rfl⟩⟩
    cases rule.modifier <;> simp
  | cons first rest ih =>
    rw [withOptions_cons, List.countP_cons, List.forall_mem_cons]
    constructor
    · rintro ⟨made, hmade⟩
      obtain ⟨next, hfirst, hrest⟩ := exists_ok_of_bind hmade
      obtain ⟨hsingles, hcount⟩ := (ih next).mp ⟨made, hrest⟩
      rw [(withOption_frame hfirst).2] at hsingles
      rw [length_modifier_withOption hfirst] at hcount
      have hsingle := ((exists_withOption_iff pattern).mp ⟨next, hfirst⟩).1
      refine ⟨⟨hsingle, hsingles⟩, ?_⟩
      simp only [decide_eq_true_eq]
      omega
    · rintro ⟨⟨hsingle, hsingles⟩, hcount⟩
      simp only [decide_eq_true_eq] at hcount
      -- If the first option is a modifier, then the rule has none yet.
      have hfree : NamesModifier first.1 → rule.modifier = none := by
        intro hnames
        rw [if_pos hnames] at hcount
        rw [← Option.toList_eq_nil_iff, ← List.length_eq_zero_iff]
        omega
      obtain ⟨next, hfirst⟩ := (exists_withOption_iff pattern).mpr ⟨hsingle, hfree⟩
      rw [← (withOption_frame hfirst).2] at hsingles
      have hlength := length_modifier_withOption hfirst
      obtain ⟨made, hrest⟩ := (ih next).mpr ⟨hsingles, by omega⟩
      exact ⟨made, by rw [hfirst]; exact hrest⟩

/-- The rules that each option builds on its own. -/
def singles (rule : Rule) (options : List (String × String)) : List Rule :=
  options.filterMap fun o => (rule.withOption o.1 o.2).toOption

/-- In the end a rule says what it said before and what the options say on their own. -/
theorem states_withOptions (pattern : String) {options : List (String × String)}
    (h : rule.withOptions options = .ok made) (trait : Trait) :
    made.States trait ↔
      rule.States trait ∨ ∃ single ∈ (bare pattern rule.allowlist).singles options,
        single.States trait := by
  induction options generalizing rule with
  | nil =>
    cases h
    simp [singles]
  | cons first rest ih =>
    rw [withOptions_cons] at h
    obtain ⟨next, hfirst, hrest⟩ := exists_ok_of_bind h
    obtain ⟨single, hsingle⟩ := ((exists_withOption_iff pattern).mp ⟨next, hfirst⟩).1
    have hsingles : (bare pattern rule.allowlist).singles (first :: rest) =
        single :: (bare pattern rule.allowlist).singles rest := by
      rw [singles, List.filterMap_cons, hsingle]
      rfl
    rw [ih hrest, (withOption_frame hfirst).2, states_withOption pattern hfirst hsingle, hsingles,
      List.exists_mem_cons_iff, or_assoc]

/-! ## Canonical rules -/

/-- Domains in ascending order are known by which of them there are. -/
theorem eq_of_ascending {domains others : List String} (h : domains.Pairwise (· < ·))
    (hothers : others.Pairwise (· < ·)) (hmem : ∀ d, d ∈ domains ↔ d ∈ others) :
    domains = others := by
  have hnodup : ∀ {l : List String}, l.Pairwise (· < ·) → l.Nodup := by
    intro l hl
    refine hl.imp fun {a b} hlt => ?_
    rintro rfl
    exact String.lt_irrefl a hlt
  have hperm : domains.Perm others :=
    (List.perm_ext_iff_of_nodup (hnodup h) (hnodup hothers)).mpr hmem
  exact hperm.eq_of_pairwise (fun a b _ _ hab hba => absurd hba (String.lt_asymm hab)) h hothers

/-- Two canonical rules that say the same are the same. -/
theorem Canonical.eq_of_states {other : Rule} (h : rule.Canonical) (hother : other.Canonical)
    (hpattern : rule.pattern = other.pattern) (hallowlist : rule.allowlist = other.allowlist)
    (hstates : ∀ trait, rule.States trait ↔ other.States trait) : rule = other := by
  have hflags : rule.flags = other.flags := by
    refine Flags.ext_contains fun f => ?_
    rw [Bool.eq_iff_iff]
    exact hstates (.flag f)
  have hpermitted : rule.permittedDomains = other.permittedDomains :=
    eq_of_ascending h.permitted.ascending hother.permitted.ascending
      fun d => hstates (.permittedDomain d)
  have hrestricted : rule.restrictedDomains = other.restrictedDomains :=
    eq_of_ascending h.restricted.ascending hother.restricted.ascending
      fun d => hstates (.restrictedDomain d)
  have hpermittedTypes : rule.permittedTypes = other.permittedTypes :=
    TypeSet.ext fun t => hstates (.permittedType t)
  have hrestrictedTypes : rule.restrictedTypes = other.restrictedTypes :=
    TypeSet.ext fun t => hstates (.restrictedType t)
  have hmodifier : rule.modifier = other.modifier :=
    Option.ext fun m => hstates (.modifier m)
  cases rule
  cases other
  simp_all

/-! ## Any order -/

variable {pattern : String} {allowlist : Bool} {options others : List (String × String)}

theorem canonical_of_withOptions (h : (bare pattern allowlist).withOptions options = .ok rule) :
    rule.Canonical :=
  ((Built.bare pattern allowlist).withOptions h).canonical

/-- The rule is what some options make of its pattern. -/
def BuiltBy (options : List (String × String)) (rule : Rule) : Prop :=
  (bare rule.pattern rule.allowlist).withOptions options = .ok rule

instance (options : List (String × String)) (rule : Rule) : Decidable (rule.BuiltBy options) :=
  inferInstanceAs (Decidable (_ = _))

theorem BuiltBy.built (h : rule.BuiltBy options) : rule.Built :=
  (Built.bare rule.pattern rule.allowlist).withOptions h

/-- Only which options there are matters to the rule that they build. -/
theorem eq_of_withOptions {other : Rule}
    (h : (bare pattern allowlist).withOptions options = .ok rule)
    (hother : (bare pattern allowlist).withOptions others = .ok other)
    (hsame : ∀ o, o ∈ options ↔ o ∈ others) : rule = other := by
  have hframe := withOptions_frame h
  have hframe' := withOptions_frame hother
  refine (canonical_of_withOptions h).eq_of_states (canonical_of_withOptions hother)
    (hframe.1.trans hframe'.1.symm) (hframe.2.trans hframe'.2.symm) fun trait => ?_
  rw [states_withOptions pattern h, states_withOptions pattern hother]
  simp only [singles, List.mem_filterMap, hsame]

/-- A list of options and any order of it build the same rule, or none. -/
theorem toOption_withOptions_perm (h : others.Perm options) :
    ((bare pattern allowlist).withOptions others).toOption =
      ((bare pattern allowlist).withOptions options).toOption := by
  refine toOption_eq_of_iff ?_ fun rule other hrule hother => ?_
  · rw [exists_withOptions_iff pattern, exists_withOptions_iff pattern, h.countP_eq]
    simp only [h.mem_iff]
  · exact eq_of_withOptions hrule hother fun o => h.mem_iff

/-- An option that is no modifier adds nothing when it is read again. -/
theorem withOption_repeated {o : String × String} (ho : o ∈ options)
    (hplain : ¬ NamesModifier o.1) (h : (bare pattern allowlist).withOptions options = .ok rule) :
    rule.withOption o.1 o.2 = .ok rule := by
  obtain ⟨hsingles, -⟩ := (exists_withOptions_iff pattern _ _).mp ⟨rule, h⟩
  have hmore : ∃ made, rule.withOption o.1 o.2 = .ok made := by
    rw [exists_withOption_iff pattern, (withOptions_frame h).2]
    exact ⟨hsingles o ho, fun hnames => absurd hnames hplain⟩
  obtain ⟨made, hmade⟩ := hmore
  have hlonger : (bare pattern allowlist).withOptions (options ++ [o]) = .ok made := by
    rw [withOptions_append, h, ok_bind, withOptions_singleton, hmade]
  have hsame : made = rule := by
    refine eq_of_withOptions hlonger h fun p => ?_
    simp only [List.mem_append, List.mem_singleton, or_iff_left_iff_imp]
    rintro rfl
    exact ho
  rw [hmade, hsame]

/-- An option that stands there already and is no modifier may be repeated. -/
theorem withOptions_repeated {front : List (String × String)} {o : String × String}
    (ho : o ∈ front) (hplain : ¬ NamesModifier o.1) (back : List (String × String)) :
    (bare pattern allowlist).withOptions (front ++ o :: back) =
      (bare pattern allowlist).withOptions (front ++ back) := by
  rw [withOptions_append, withOptions_append]
  refine bind_congr_ok fun rule hfront => ?_
  rw [withOptions_cons, withOption_repeated ho hplain hfront, ok_bind]

/-- The rule states what some rules state together. Its domains are in order. -/
structure Unites (parts : List Rule) (rule : Rule) : Prop where
  permitted : rule.permittedDomains.Pairwise (· < ·)
  restricted : rule.restrictedDomains.Pairwise (· < ·)
  states : ∀ trait, rule.States trait ↔ ∃ part ∈ parts, part.States trait

theorem unites_of_withOptions (h : (bare pattern allowlist).withOptions options = .ok rule) :
    rule.Unites ((bare pattern allowlist).singles options) where
  permitted := (canonical_of_withOptions h).permitted.ascending
  restricted := (canonical_of_withOptions h).restricted.ascending
  states := by
    intro trait
    rw [states_withOptions pattern h]
    simp only [not_states_bare, false_or]
    rfl

end Rule

/-- Options build a rule just if each of them can be read on its own and one of them at most is a
modifier. Their order does not matter, nor how often one that is no modifier is repeated: behind its
first place not even to the error. The rule states what the options state on their own. -/
theorem withOptions_any_order (pattern : String) (allowlist : Bool)
    (options : List (String × String)) :
    ((∃ rule, (Rule.bare pattern allowlist).withOptions options = .ok rule) ↔
      (∀ o ∈ options, ∃ single, (Rule.bare pattern allowlist).withOption o.1 o.2 = .ok single) ∧
        options.countP (fun o => NamesModifier o.1) ≤ 1) ∧
    (∀ others, others.Perm options →
      ((Rule.bare pattern allowlist).withOptions others).toOption =
        ((Rule.bare pattern allowlist).withOptions options).toOption) ∧
    (∀ front back, front ++ back = options → ∀ o ∈ options, ¬ NamesModifier o.1 →
      ((Rule.bare pattern allowlist).withOptions (front ++ o :: back)).toOption =
          ((Rule.bare pattern allowlist).withOptions options).toOption ∧
        (o ∈ front → (Rule.bare pattern allowlist).withOptions (front ++ o :: back) =
          (Rule.bare pattern allowlist).withOptions options)) ∧
    ∀ rule, (Rule.bare pattern allowlist).withOptions options = .ok rule →
      rule.pattern = pattern ∧ rule.allowlist = allowlist ∧
        rule.Unites ((Rule.bare pattern allowlist).singles options) := by
  refine ⟨?_, fun others hperm => Rule.toOption_withOptions_perm hperm, ?_, fun rule hrule => ?_⟩
  · have h := Rule.exists_withOptions_iff pattern (Rule.bare pattern allowlist) options
    have hnone : (Rule.bare pattern allowlist).modifier = none := rfl
    rw [hnone, Option.toList_none, List.length_nil, Nat.zero_add] at h
    exact h
  · rintro front back rfl o ho hplain
    refine ⟨?_, fun hfront => Rule.withOptions_repeated hfront hplain back⟩
    -- The option is moved to the end, behind its first place.
    have hmoved : (front ++ o :: back).Perm (front ++ back ++ [o]) :=
      List.perm_middle.trans (List.perm_append_singleton o (front ++ back)).symm
    rw [Rule.toOption_withOptions_perm hmoved, Rule.withOptions_repeated ho hplain [],
      List.append_nil]
  · have hframe := Rule.withOptions_frame hrule
    exact ⟨hframe.1, hframe.2, Rule.unites_of_withOptions hrule⟩

/-- Options of all kinds, written in many ways. The domains overlap. -/
def sampleOptions : List (String × String) :=
  [(" Third-Party", ""), ("domain", "b.example| A.example||~c.b.example"), ("CSP", " sandbox "),
    ("~image ", ""), ("xhr", ""), ("domain", "a.example")]

/-- The rule that these options build. -/
def sampleAssembled : Rule where
  pattern := "||x.example^"
  allowlist := false
  flags := { thirdParty := true }
  permittedDomains := ["a.example", "b.example"]
  restrictedDomains := ["c.b.example"]
  permittedTypes := .single .xmlHttpRequest
  restrictedTypes := .single .image
  modifier := some (.csp "sandbox")

/-- The options build the same rule the other way round and with one of them repeated in front, but
none with another modifier. -/
theorem withOptions_any_order_sample :
    (Rule.bare "||x.example^" false).withOptions sampleOptions = .ok sampleAssembled ∧
    sampleAssembled.Unites ((Rule.bare "||x.example^" false).singles sampleOptions) ∧
    ((Rule.bare "||x.example^" false).withOptions sampleOptions.reverse).toOption =
      some sampleAssembled ∧
    ((Rule.bare "||x.example^" false).withOptions (("xhr", "") :: sampleOptions)).toOption =
      some sampleAssembled ∧
    ¬ ∃ rule, (Rule.bare "||x.example^" false).withOptions
      (("redirect", "noop.js") :: sampleOptions) = .ok rule := by
  have hrule : (Rule.bare "||x.example^" false).withOptions sampleOptions =
      .ok sampleAssembled := by
    decide +kernel
  obtain ⟨-, horder, hrepeat, hstates⟩ := withOptions_any_order "||x.example^" false sampleOptions
  obtain ⟨hcount, -⟩ :=
    withOptions_any_order "||x.example^" false (("redirect", "noop.js") :: sampleOptions)
  have hreverse := horder sampleOptions.reverse (List.reverse_perm sampleOptions)
  have hagain := (hrepeat [] sampleOptions rfl ("xhr", "") (by decide) (by decide +kernel)).1
  rw [hrule] at hreverse hagain
  refine ⟨hrule, (hstates _ hrule).2.2, hreverse, hagain, fun hbuilt => ?_⟩
  have htwo := (hcount.mp hbuilt).2
  exact absurd htwo (by decide +kernel)

end Blocklist
