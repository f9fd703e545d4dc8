import Mathlib.Data.List.Basic
import Blocklist.Proofs.Building
import Blocklist.Proofs.Lineage

/-! # Which headers are removed

A header rule is checked when its value is read, and its header is only named much later, together
with those of other rules. The check still holds of every name in a declarative rule.

* `HeaderTarget.isRemovable_of_nameIn?`: a name that a lowercase value gives may be removed;
* `Group.Acts.removes`: a declarative rule removes the headers of the rules that it is made of;
* `Group.Acts.change_cases`: all that a declarative rule does to headers;
* `Group.Acts.removing`: no declarative rule removes other headers.
-/

namespace Blocklist

open Badfilter

/-- The name of a header that may be removed. The case of its letters does not matter. -/
structure IsRemovable (name : String) : Prop where
  nonempty : name ≠ ""
  not_colon : ':' ∉ name.toList
  not_forbidden : ∀ header ∈ forbiddenHeaders, Text.lower name ≠ Text.lower header

/-- What the action does to the headers on one side of the exchange. -/
def Declarative.Action.headers (action : Declarative.Action) :
    Direction → Option (List Declarative.HeaderChange)
  | .request => action.requestHeaders
  | .response => action.responseHeaders

/-- Name of the header that the rule takes out on one side of the exchange. -/
def Rule.removedHeader? (rule : Rule) (direction : Direction) : Option String :=
  match rule.modifier with
  | some (.removeHeader value) => (HeaderTarget.ofValue value).nameIn? direction
  | _ => none

/-- Names of the headers that some rules take out on one side, in the order in which they first
appear. -/
def removedNames (rules : List SourceRule) (direction : Direction) : List String :=
  (rules.filterMap fun r => r.rule.removedHeader? direction).eraseDups

/-- The action removes just the headers that some rules name. -/
structure Declarative.Action.Removes (rules : List SourceRule) (action : Declarative.Action) :
    Prop where
  /-- A list without names is left out. -/
  headers : ∀ direction, action.headers direction =
    if removedNames rules direction = [] then none
    else some ((removedNames rules direction).map fun name => ⟨name, .remove, none⟩)
  distinct : ∀ direction, (removedNames rules direction).Nodup
  present : ∃ direction, (action.headers direction).isSome

/-! ## Names -/

namespace HeaderTarget

/-- The name is a part of the value. -/
theorem lowered_name {value : String} (h : Text.Lowered value) :
    Text.Lowered (ofValue value).name := by
  unfold ofValue
  split
  · next name hname =>
    intro c hc
    rw [String.toList_ofList] at hc
    refine h c ?_
    rw [Text.after?_eq_some_iff.mp hname]
    exact List.mem_append_right _ hc
  · exact h

theorem nameIn?_eq_some_iff {target : HeaderTarget} {direction : Direction} {name : String} :
    target.nameIn? direction = some name ↔
      target.isValid = true ∧ target.direction = direction ∧ name ≠ "" ∧ target.name = name := by
  unfold nameIn?
  split
  case isTrue h =>
    rw [Option.some.injEq]
    constructor
    · rintro rfl
      exact ⟨h.1, h.2.1, h.2.2, rfl⟩
    · exact fun hname => hname.2.2.2
  case isFalse h =>
    constructor
    · intro hname
      cases hname
    · rintro ⟨hvalid, hdirection, hne, rfl⟩
      exact absurd ⟨hvalid, hdirection, hne⟩ h

theorem isRemovable_of_nameIn? {value name : String} {direction : Direction}
    (hvalue : Text.Lowered value) (h : (ofValue value).nameIn? direction = some name) :
    IsRemovable name := by
  obtain ⟨hvalid, -, hne, rfl⟩ := nameIn?_eq_some_iff.mp h
  rw [isValid, Bool.and_eq_true, isAllowedHeader, Bool.not_eq_true', Bool.not_eq_true'] at hvalid
  constructor
  case nonempty => exact hne
  case not_colon =>
    intro hcolon
    have hcontains : (ofValue value).name.toList.contains ':' = true :=
      List.contains_iff_mem.mpr hcolon
    rw [hvalid.2] at hcontains
    cases hcontains
  case not_forbidden =>
    -- Both names are in lowercase already, so that they would have been found equal before.
    intro header hheader heq
    have hlowered : Text.Lowered header := by
      intro c hc
      exact (plain_of_mem_forbiddenHeaders hheader c hc).1
    rw [(lowered_name hvalue).lower_eq, hlowered.lower_eq] at heq
    have hcontains : forbiddenHeaders.contains (ofValue value).name = true := by
      rw [heq]
      exact List.contains_iff_mem.mpr hheader
    rw [hvalid.1] at hcontains
    cases hcontains

end HeaderTarget

/-- The header that a rule removes is one that may be removed. -/
theorem Rule.isRemovable_of_removedHeader? {rule : Rule} (h : rule.Canonical)
    {direction : Direction} {name : String} (hname : rule.removedHeader? direction = some name) :
    IsRemovable name := by
  unfold removedHeader? at hname
  split at hname
  · next value hvalue =>
    exact HeaderTarget.isRemovable_of_nameIn? (h.modifier _ hvalue value rfl) hname
  · cases hname

/-- A target that may be removed is the one that its rule names on its side. -/
theorem Rule.removedHeader?_of_headerTarget? {rule : Rule} {target : HeaderTarget}
    (h : rule.headerTarget? = some target) (direction : Direction) :
    rule.removedHeader? direction = target.nameIn? direction := by
  unfold headerTarget? at h
  split at h
  · next value hvalue =>
    split at h
    · rw [← Option.some.inj h, removedHeader?, hvalue]
    · cases h
  · cases h

theorem Rule.nameIn?_of_headerTarget? {rule : Rule} {target : HeaderTarget}
    (h : rule.headerTarget? = some target) :
    target.nameIn? target.direction = some target.name := by
  unfold headerTarget? at h
  split at h
  · split at h
    · next hremovable =>
      rw [← Option.some.inj h]
      exact HeaderTarget.nameIn?_eq_some_iff.mpr ⟨hremovable.1, rfl, hremovable.2, rfl⟩
    · cases h
  · cases h

/-! ## Actions -/

/-- Rules that block, allow or redirect do nothing to headers. -/
theorem Regular.headers_of_action {resources : Option String} {rule : Rule}
    {action : Declarative.Action} (h : Regular.action resources rule = .ok action)
    (direction : Direction) : action.headers direction = none := by
  unfold Regular.action at h
  split at h
  · cases h
    cases direction <;> rfl
  · split at h
    · cases h
    · split at h
      · cases h
      · cases h
        cases direction <;> rfl
  · cases h

theorem RemoveHeader.headers_action (targets : List HeaderTarget) (direction : Direction) :
    (action targets).headers direction = removals targets direction := by
  cases direction <;> rfl

namespace Group.Acts

variable {resources : Option String} {contributors : List SourceRule} {group : Group}
  {action : Declarative.Action}

theorem removedNames_eq {targets : List HeaderTarget}
    (parts : contributors.map (·.rule.headerTarget?) = targets.map some) (direction : Direction) :
    removedNames contributors direction =
      (targets.filterMap fun target => target.nameIn? direction).eraseDups := by
  unfold removedNames
  rw [filterMap_parts (fun r target h => Rule.removedHeader?_of_headerTarget? h direction) parts]

/-- The action of header rules removes what the rules name. -/
theorem removes (h : Acts resources contributors .removeHeader action)
    (nonempty : contributors ≠ []) : action.Removes contributors := by
  cases h with
  | @removeHeader targets parts =>
  have hheaders : ∀ direction, (RemoveHeader.action targets).headers direction =
      if removedNames contributors direction = [] then none
      else some ((removedNames contributors direction).map fun name => ⟨name, .remove, none⟩) := by
    intro direction
    rw [RemoveHeader.headers_action, RemoveHeader.removals, removedNames_eq parts]
    cases (targets.filterMap fun target => target.nameIn? direction).eraseDups <;> rfl
  refine ⟨hheaders, fun direction => nodup_eraseDups _, ?_⟩
  -- The first of the rules has a name on one of the two sides.
  obtain ⟨r, hr⟩ := List.exists_mem_of_ne_nil _ nonempty
  obtain ⟨target, -, htarget⟩ := exists_part parts hr
  have hname : r.rule.removedHeader? target.direction = some target.name := by
    rw [Rule.removedHeader?_of_headerTarget? htarget]
    exact Rule.nameIn?_of_headerTarget? htarget
  have hmem : target.name ∈ removedNames contributors target.direction :=
    List.mem_eraseDups.mpr (List.mem_filterMap.mpr ⟨r, hr, hname⟩)
  refine ⟨target.direction, ?_⟩
  rw [hheaders, if_neg (List.ne_nil_of_mem hmem)]
  rfl

/-- A change of a header adds the policies of the rules or removes a header that one of them
names. -/
theorem change_cases (h : group.Acts resources contributors action) (nonempty : contributors ≠ [])
    {direction : Direction} {changes : List Declarative.HeaderChange}
    (hchanges : action.headers direction = some changes) {change : Declarative.HeaderChange}
    (hchange : change ∈ changes) :
    (group = .csp ∧ ∃ policies : List String,
      contributors.map (·.rule.policy?) = policies.map some ∧
        change = ⟨"content-security-policy", .append,
          some (Text.joined "; " policies.eraseDups)⟩) ∨
    change.operation = .remove ∧
      ∃ r ∈ contributors, r.rule.removedHeader? direction = some change.header := by
  have headers := h
  cases h with
  | regular single acts =>
    rw [Regular.headers_of_action acts] at hchanges
    cases hchanges
  | csp parts =>
    cases direction with
    | request => cases hchanges
    | response =>
      cases hchanges
      exact .inl ⟨rfl, _, parts, List.mem_singleton.mp hchange⟩
  | removeParam parts =>
    cases direction with
    | request => cases hchanges
    | response => cases hchanges
  | removeHeader parts =>
    rw [(headers.removes nonempty).headers] at hchanges
    split at hchanges
    · cases hchanges
    · rw [← Option.some.inj hchanges] at hchange
      obtain ⟨name, hname, rfl⟩ := List.mem_map.mp hchange
      exact .inr ⟨rfl, List.mem_filterMap.mp (List.mem_eraseDups.mp hname)⟩

/-- Whatever the group, a header that is removed is one that a rule names. -/
theorem removing (h : group.Acts resources contributors action) (nonempty : contributors ≠ [])
    {direction : Direction} {changes : List Declarative.HeaderChange}
    (hchanges : action.headers direction = some changes) {change : Declarative.HeaderChange}
    (hchange : change ∈ changes) (hremove : change.operation = .remove) :
    ∃ r ∈ contributors, r.rule.removedHeader? direction = some change.header := by
  rcases h.change_cases nonempty hchanges hchange with ⟨-, policies, -, rfl⟩ | ⟨-, hnamed⟩
  · cases hremove
  · exact hnamed

end Group.Acts

/-! ## Conversions -/

/-- An erased batch has no other rules than the batch. -/
theorem Badfilter.exists_mem_of_mem_erase {filters : List Filter} {filter : Filter}
    (h : filter ∈ erase filters) {r : SourceRule} (hr : r ∈ filter.rules) :
    ∃ original ∈ filters, original.id = filter.id ∧ r ∈ original.rules := by
  obtain ⟨original, horiginal, rfl⟩ := List.mem_map.mp h
  exact ⟨original, horiginal, rfl, (List.mem_filter.mp hr).1⟩

/-- What holds of all rules of the batch holds of those that a declarative rule is made of. -/
theorem Lineage.forall_contributors {options : Options} {filters : List Filter}
    {result : ConversionResult} {rule : Declarative.Rule} {p : SourceRule → Prop}
    (l : Lineage options filters result rule) (h : ∀ filter ∈ filters, ∀ r ∈ filter.rules, p r) :
    ∀ r ∈ l.contributors, p r := by
  intro r hr
  have hrule : r ∈ l.filter.rules := List.mem_of_mem_filter (l.sublist.subset hr)
  obtain ⟨original, horiginal, -, hmem⟩ := exists_mem_of_mem_erase l.filter_mem hrule
  exact h original horiginal r hmem

/-- The rules that a declarative rule is made of can be built if all rules of the batch can. -/
theorem Lineage.built {options : Options} {filters : List Filter} {result : ConversionResult}
    {rule : Declarative.Rule} (l : Lineage options filters result rule)
    (built : ∀ filter ∈ filters, ∀ r ∈ filter.rules, r.rule.Built) :
    ∀ r ∈ l.contributors, r.rule.Built :=
  l.forall_contributors built

/-- However the rules of a batch were built, a declarative rule that header rules become removes
just the headers that they name on each side, and no declarative rule removes a header that may not
be removed. -/
theorem convert_removals (options : Options) (filters : List Filter)
    (built : ∀ filter ∈ filters, ∀ r ∈ filter.rules, r.rule.Built)
    (enough : convert options filters ≠ .error .idsExhausted) :
    ∃ run, convert options filters = .ok run ∧ ∀ rule ∈ run.result.rules,
      Nonempty (Lineage options filters run.result rule) ∧
      (∀ l : Lineage options filters run.result rule, l.group = .removeHeader →
        rule.action.kind = .modifyHeaders ∧ rule.action.Removes l.contributors) ∧
      ∀ direction changes, rule.action.headers direction = some changes →
        ∀ change ∈ changes, change.operation = .remove → IsRemovable change.header := by
  obtain ⟨hrun, hids⟩ := convert_eq_ok enough
  refine ⟨options.runOn filters, hrun, fun rule hrule => ?_⟩
  obtain ⟨origin⟩ := Options.nonempty_lineage hids hrule
  refine ⟨⟨origin⟩, fun l hgroup => ?_, fun direction changes hchanges change hchange hremove => ?_⟩
  · have hacts := l.action
    rw [hgroup] at hacts
    refine ⟨?_, hacts.removes l.nonempty⟩
    generalize rule.action = action at hacts
    cases hacts
    rfl
  · obtain ⟨r, hr, hname⟩ := origin.action.removing origin.nonempty hchanges hchange hremove
    exact Rule.isRemovable_of_removedHeader? (origin.built built r hr).canonical hname

/-- A rule that removes a header, which is in lowercase. -/
def sampleRemoval (index : UInt32) (header : String) : SourceRule where
  index
  rule := { pattern := "||a.example^", allowlist := false, modifier := some (.removeHeader header) }

theorem built_sampleRemoval (index : UInt32) {value header : String} {allowlist : Bool}
    (h : Modifier.make .removeHeader value allowlist = .ok (.removeHeader header)) :
    (sampleRemoval index header).rule.Built :=
  .modifier (.bare _ _) h rfl

/-- Four rules that are merged and four that are rejected: a forbidden header, one whose name has a
colon in it, one that is forbidden only in lowercase, and none at all. -/
def sampleRemovals : List SourceRule :=
  [sampleRemoval 0 "request:x-client-data", sampleRemoval 1 "refresh",
    sampleRemoval 2 "request:dnt", sampleRemoval 3 "request:x-client-data",
    sampleRemoval 4 "request:origin", sampleRemoval 5 "request:request:origin",
    sampleRemoval 6 "sec-websocket-key", sampleRemoval 7 ""]

theorem built_of_mem_sampleRemovals : ∀ r ∈ sampleRemovals, r.rule.Built := by
  intro r hr
  simp only [sampleRemovals, List.mem_cons, List.not_mem_nil, or_false] at hr
  rcases hr with rfl | rfl | rfl | rfl | rfl | rfl | rfl | rfl
  · exact built_sampleRemoval 0
      (by decide +kernel : Modifier.make .removeHeader "Request:X-Client-Data" false = .ok _)
  · exact built_sampleRemoval 1
      (by decide +kernel : Modifier.make .removeHeader "Refresh" false = .ok _)
  · exact built_sampleRemoval 2
      (by decide +kernel : Modifier.make .removeHeader "request:DNT" false = .ok _)
  · exact built_sampleRemoval 3
      (by decide +kernel : Modifier.make .removeHeader "request:x-client-data" false = .ok _)
  · exact built_sampleRemoval 4
      (by decide +kernel : Modifier.make .removeHeader "request:Origin" false = .ok _)
  · exact built_sampleRemoval 5
      (by decide +kernel : Modifier.make .removeHeader "request:request:origin" false = .ok _)
  · -- The Kelvin sign has an ASCII letter as its small form.
    exact built_sampleRemoval 6
      (by decide +kernel :
        Modifier.make .removeHeader "Sec-WebSoc\u212aet-\u212aey" false = .ok _)
  · -- The empty value was read for an exception.
    exact built_sampleRemoval 7 (by decide +kernel : Modifier.make .removeHeader "" true = .ok _)

/-- The rules on the two sides are in one declarative rule, and no header is in it twice. -/
theorem convert_removals_sample :
    (convert {} [⟨7, sampleRemovals⟩]).toOption.map (fun run =>
      (run.result.rules.map Declarative.Rule.action, run.result.sourceMap.map Source.ruleIndex)) =
        some ([{ kind := .modifyHeaders
                 requestHeaders := some [⟨"x-client-data", .remove, none⟩, ⟨"dnt", .remove, none⟩]
                 responseHeaders := some [⟨"refresh", .remove, none⟩] }], [0, 1, 2, 3]) ∧
    ∃ run, convert {} [⟨7, sampleRemovals⟩] = .ok run ∧ ∀ rule ∈ run.result.rules,
      ∃ l : Lineage {} [⟨7, sampleRemovals⟩] run.result rule,
        (l.group = .removeHeader → rule.action.Removes l.contributors) ∧
        ∀ direction changes, rule.action.headers direction = some changes →
          ∀ change ∈ changes, change.operation = .remove → IsRemovable change.header := by
  have built : ∀ filter ∈ [Filter.mk 7 sampleRemovals], ∀ r ∈ filter.rules, r.rule.Built := by
    intro filter hfilter
    rw [List.mem_singleton.mp hfilter]
    exact built_of_mem_sampleRemovals
  have enough : convert {} [⟨7, sampleRemovals⟩] ≠ .error .idsExhausted := by
    decide +kernel
  obtain ⟨run, hrun, hrules⟩ := convert_removals {} [⟨7, sampleRemovals⟩] built enough
  refine ⟨by decide +kernel, run, hrun, fun rule hrule => ?_⟩
  obtain ⟨⟨l⟩, hremoves, hremovable⟩ := hrules rule hrule
  exact ⟨l, fun hgroup => (hremoves l hgroup).2, hremovable⟩

end Blocklist
