import Mathlib.Data.List.Basic
import Blocklist.Proofs.Spacing

/-! # Domain lists are canonical

The domains of a rule come from the pieces of its domain options, of which each is trimmed, told
apart by its tilde and lowercased. What is recorded in the end can be written down as one domain
option and read again without a change.

* `Text.bytes_lt_bytes`: texts in ascending order are in the order of their bytes;
* `DomainEntry.ofPiece?_eq_permitted_iff`, `DomainEntry.ofPiece?_eq_restricted_iff`: which pieces
  permit a domain and which restrict it;
* `DomainEntry.ofValue_joined`: entries with bars between them are read one by one;
* `Rule.mem_domainEntries_withOption`: what an option adds to the domains of a rule;
* `Rule.Built.recorded`: every domain of a rule that is built was read;
* `domains_canonical`: how the domains of a rule are listed, joined and read again.
-/

namespace Blocklist

/-! ## Order of bytes -/

namespace Text

/-- The text as bytes in UTF-8. -/
def bytes (s : String) : List UInt8 :=
  s.toUTF8.data.toList

theorem bytes_eq (s : String) : bytes s = s.toList.flatMap String.utf8EncodeChar := by
  have hbytes : s.toUTF8 = (s.toList.flatMap String.utf8EncodeChar).toByteArray := by
    rw [String.toUTF8_eq_toByteArray]
    conv_lhs => rw [← String.ofList_toList (s := s)]
    rfl
  rw [bytes, hbytes, List.data_toByteArray]

theorem toNat_lt_size (c : Char) : c.val.toNat < 0x110000 := by
  rcases c.valid with h | ⟨-, h⟩
  · exact Nat.lt_trans h (by decide)
  · exact h

/-- A number that is smaller is so in its last six bits or in those above them. -/
theorem sextets_of_lt {m n : Nat} (h : m < n) :
    m / 64 < n / 64 ∨ m / 64 = n / 64 ∧ m % 64 < n % 64 := by
  omega

/-- A smaller character has smaller bytes, whatever follows. -/
theorem utf8EncodeChar_append_lt {c d : Char} (h : c < d) (cs ds : List UInt8) :
    String.utf8EncodeChar c ++ cs < String.utf8EncodeChar d ++ ds := by
  have hlt : c.val.toNat < d.val.toNat := h
  have hc := toNat_lt_size c
  have hd := toNat_lt_size d
  have hlead : ∀ x, (x % 8 + 240) % 2 ^ 8 = x % 8 + 240 := by omega
  have hnext : ∀ x, (x % 64 + 128) % 2 ^ 8 = x % 64 + 128 := by omega
  unfold String.utf8EncodeChar
  dsimp only
  generalize c.val.toNat = m at *
  generalize d.val.toNat = n at *
  split_ifs <;>
    simp only [List.cons_append, List.nil_append, List.cons_lt_cons_iff, UInt8.lt_iff_toNat_lt,
      ← UInt8.toNat_inj, UInt8.toNat_ofNat', hlead, hnext]
  any_goals omega
  -- Two characters of four bytes are left: they differ in the lowest six bits, or further up.
  have hm : m / 4096 = m / 64 / 64 ∧ m / 262144 = m / 64 / 64 / 64 := by omega
  have hn : n / 4096 = n / 64 / 64 ∧ n / 262144 = n / 64 / 64 / 64 := by omega
  rw [hm.1, hm.2, hn.1, hn.2]
  rcases sextets_of_lt hlt with hhigh | ⟨hsame, hlow⟩
  · rcases sextets_of_lt hhigh with hhigh | ⟨hsame, hlow⟩
    · rcases sextets_of_lt hhigh with hhigh | ⟨hsame, hlow⟩
      · omega
      · omega
    · rw [hsame]
      omega
  · rw [hsame]
    omega

theorem flatMap_utf8EncodeChar_lt {cs ds : List Char} (h : cs < ds) :
    cs.flatMap String.utf8EncodeChar < ds.flatMap String.utf8EncodeChar := by
  induction h with
  | @nil d rest =>
    obtain ⟨byte, more, hbytes⟩ := List.exists_cons_of_ne_nil (String.utf8EncodeChar_ne_nil (c := d))
    rw [List.flatMap_nil, List.flatMap_cons, hbytes]
    exact List.nil_lt_cons byte _
  | rel h =>
    rw [List.flatMap_cons, List.flatMap_cons]
    exact utf8EncodeChar_append_lt h _ _
  | cons h ih =>
    rw [List.flatMap_cons, List.flatMap_cons]
    exact List.append_left_lt ih

/-- Texts in ascending order are in the order of their bytes. -/
theorem bytes_lt_bytes {s t : String} (h : s < t) : bytes s < bytes t := by
  rw [bytes_eq, bytes_eq]
  exact flatMap_utf8EncodeChar_lt h

/-! ## Lowercase letters -/

theorem IsTrimmed.map_toLower {cs : List Char} (h : IsTrimmed cs) :
    IsTrimmed (cs.map Char.toLower) := by
  constructor
  case first =>
    intro c hc
    rw [List.head?_map] at hc
    obtain ⟨d, hd, rfl⟩ := Option.map_eq_some_iff.mp hc
    rw [isBlank_toLower]
    exact h.first d hd
  case last =>
    intro c hc
    rw [List.getLast?_map] at hc
    obtain ⟨d, hd, rfl⟩ := Option.map_eq_some_iff.mp hc
    rw [isBlank_toLower]
    exact h.last d hd

/-- A trimmed text in lowercase has nothing to trim. -/
theorem trimmed_map_toLower (cs : List Char) :
    trimmed ((trimmed cs).map Char.toLower) = (trimmed cs).map Char.toLower :=
  (isTrimmed_trimmed cs).map_toLower.trimmed_eq

theorem map_toLower_map_toLower (cs : List Char) :
    (cs.map Char.toLower).map Char.toLower = cs.map Char.toLower := by
  rw [List.map_map]
  refine List.map_congr_left fun c _ => ?_
  exact toLower_eq_self (isUpper_toLower c)

end Text

/-! ## Pieces of a domain option -/

namespace DomainEntry

variable {piece : List Char} {entry : DomainEntry} {value domain : String}

/-- A piece permits a domain if it has no tilde in front. -/
theorem ofPiece?_eq_permitted_iff :
    ofPiece? piece = some (permitted domain) ↔
      Text.trimmed piece ≠ [] ∧ (Text.trimmed piece).head? ≠ some '~' ∧
        domain.toList = (Text.trimmed piece).map Char.toLower := by
  unfold ofPiece?
  split
  · next hnil => simp [hnil]
  · next rest hrest => simp [hrest]
  · next hnil htilde =>
    rw [Option.some.injEq, permitted.injEq, ← String.toList_inj, Text.toList_lower,
      String.toList_ofList, eq_comm]
    refine ⟨fun h => ⟨hnil, fun hhead => ?_, h⟩, fun h => h.2.2⟩
    obtain ⟨rest, hrest⟩ := List.head?_eq_some_iff.mp hhead
    exact htilde rest hrest

/-- A piece restricts a domain if it has a tilde in front. What follows is not trimmed again. -/
theorem ofPiece?_eq_restricted_iff :
    ofPiece? piece = some (restricted domain) ↔
      ∃ rest, Text.trimmed piece = '~' :: rest ∧ domain.toList = rest.map Char.toLower := by
  unfold ofPiece?
  split
  · next hnil => simp [hnil]
  · next rest hrest =>
    rw [Option.some.injEq, restricted.injEq, ← String.toList_inj, Text.toList_lower,
      String.toList_ofList, hrest]
    simp [eq_comm]
  · next hnil htilde =>
    refine iff_of_false (by simp) ?_
    rintro ⟨rest, hrest, -⟩
    exact htilde rest hrest

/-- A permitted domain is not empty, and it begins with no tilde. -/
theorem named_of_ofPiece? (h : ofPiece? piece = some (permitted domain)) :
    Text.Tidy domain ∧ domain.toList.head? ≠ some '~' := by
  obtain ⟨hne, hhead, hdomain⟩ := ofPiece?_eq_permitted_iff.mp h
  refine ⟨⟨fun hempty => hne ?_, ?_⟩, fun htilde => hhead ?_⟩
  · rw [hempty] at hdomain
    exact List.map_eq_nil_iff.mp hdomain.symm
  · rw [hdomain]
    exact (Text.isTrimmed_trimmed piece).map_toLower
  · rw [hdomain, List.head?_map] at htilde
    obtain ⟨c, hc, hlower⟩ := Option.map_eq_some_iff.mp htilde
    rw [hc, (Text.toLower_eq_iff (by decide)).mp hlower]

/-- The entry as a piece of a domain option. -/
def written : DomainEntry → String
  | permitted domain => domain
  | restricted domain => "~" ++ domain

/-- An entry is written like the piece it was read from, but for blanks and capital letters. -/
theorem toList_written_of_ofPiece? (h : ofPiece? piece = some entry) :
    entry.written.toList = (Text.trimmed piece).map Char.toLower := by
  cases entry with
  | permitted domain => exact (ofPiece?_eq_permitted_iff.mp h).2.2
  | restricted domain =>
    obtain ⟨rest, hrest, hdomain⟩ := ofPiece?_eq_restricted_iff.mp h
    rw [written, String.toList_append, hdomain, hrest]
    rfl

/-- The entry can be read from a domain option. -/
structure Recorded (entry : DomainEntry) : Prop where
  /-- It is read from the text that it is written as. -/
  reads : ofPiece? entry.written.toList = some entry
  /-- This text is a single piece. -/
  single : '|' ∉ entry.written.toList

theorem recorded_of_mem_ofValue (h : entry ∈ ofValue value) : entry.Recorded := by
  obtain ⟨piece, hpiece, hentry⟩ := List.mem_filterMap.mp h
  have hwritten := toList_written_of_ofPiece? hentry
  constructor
  case reads =>
    cases entry with
    | permitted domain =>
      obtain ⟨htidy, htilde⟩ := named_of_ofPiece? hentry
      have hdomain := (ofPiece?_eq_permitted_iff.mp hentry).2.2
      have htrimmed := htidy.trimmed.trimmed_eq
      rw [written, ofPiece?_eq_permitted_iff, htrimmed]
      refine ⟨fun hnil => htidy.nonempty (String.toList_eq_nil_iff.mp hnil), htilde, ?_⟩
      rw [hdomain, Text.map_toLower_map_toLower]
    | restricted domain =>
      obtain ⟨rest, hrest, hdomain⟩ := ofPiece?_eq_restricted_iff.mp hentry
      rw [hwritten, ofPiece?_eq_restricted_iff, Text.trimmed_map_toLower]
      refine ⟨rest.map Char.toLower, ?_, ?_⟩
      · rw [hrest]
        rfl
      · rw [Text.map_toLower_map_toLower]
        exact hdomain
  case single =>
    intro hbar
    rw [hwritten] at hbar
    obtain ⟨c, hc, hlower⟩ := List.mem_map.mp hbar
    rw [(Text.toLower_eq_iff (by decide)).mp hlower] at hc
    exact Text.not_mem_of_mem_pieces hpiece (Text.mem_of_mem_trimmed hc)

/-- Two values with a bar between them are read one after the other. -/
theorem ofValue_append (v w : String) : ofValue (v ++ "|" ++ w) = ofValue v ++ ofValue w := by
  have hlist : (v ++ "|" ++ w).toList = v.toList ++ '|' :: w.toList := by
    rw [String.toList_append, String.toList_append, List.append_assoc]
    rfl
  rw [ofValue, hlist, Text.pieces_append, List.filterMap_append]
  rfl

/-- Entries with bars between them are read one by one. -/
theorem ofValue_joined {entries : List DomainEntry} (h : ∀ entry ∈ entries, entry.Recorded) :
    ofValue (Text.joined "|" (entries.map written)) = entries := by
  by_cases hnone : entries = []
  · rw [hnone]
    decide +kernel
  · have hpieces : Text.pieces '|' (Text.joined "|" (entries.map written)).toList =
        entries.map fun entry => entry.written.toList := by
      rw [Text.pieces_joined rfl, List.map_map]
      · rfl
      · exact fun hnil => hnone (List.map_eq_nil_iff.mp hnil)
      · intro text htext
        obtain ⟨entry, hentry, rfl⟩ := List.mem_map.mp htext
        exact (h entry hentry).single
    rw [ofValue, hpieces, List.filterMap_map]
    have hreads : entries.filterMap (ofPiece? ∘ fun entry => entry.written.toList) =
        entries.filterMap some :=
      List.filterMap_congr fun entry hentry => (h entry hentry).reads
    rw [hreads, List.filterMap_some]

end DomainEntry

/-! ## Lists of domains -/

namespace Domains

variable {domains others known : List String}

/-- It does not matter in which order domains are put into an ascending list, nor how often. -/
theorem insertAll_congr (hknown : known.Pairwise (· < ·)) (h : ∀ d, d ∈ domains ↔ d ∈ others) :
    insertAll domains known = insertAll others known := by
  refine Rule.eq_of_ascending (ascending_insertAll hknown) (ascending_insertAll hknown) fun d => ?_
  rw [mem_insertAll, mem_insertAll, h]

theorem insertAll_nil (h : domains.Pairwise (· < ·)) : insertAll domains [] = domains := by
  refine Rule.eq_of_ascending (ascending_insertAll List.Pairwise.nil) h fun d => ?_
  simp

theorem insertAll_append :
    insertAll (domains ++ others) known = insertAll others (insertAll domains known) :=
  List.foldl_append

end Domains

/-! ## Rules -/

/-- The domains that the setting adds. -/
def Setting.entries : Setting → List DomainEntry
  | domains entries => entries
  | _ => []

/-- A domain option is never refused. -/
theorem Setting.parse_domain {name : String} (hname : optionName name = "domain") (value : String)
    (allowlist : Bool) : parse name value allowlist = .ok (domains (DomainEntry.ofValue value)) := by
  have hlower : Text.lower (Text.trim name) = "domain" := hname
  unfold parse
  dsimp only
  rw [hlower]
  rfl

/-- No other option names domains. -/
theorem Setting.entries_of_parse {name value : String} {allowlist : Bool} {setting : Setting}
    (h : parse name value allowlist = .ok setting) :
    setting.entries = if optionName name = "domain" then DomainEntry.ofValue value else [] := by
  by_cases hname : optionName name = "domain"
  · rw [parse_domain hname] at h
    cases h
    rw [if_pos hname]
    rfl
  · rw [if_neg hname]
    rcases parse_cases h with ⟨f, rfl⟩ | ⟨hdomain, -⟩ | ⟨t, rfl⟩ | ⟨t, rfl⟩ | ⟨m, -, rfl⟩
    · rfl
    · exact absurd hdomain hname
    · rfl
    · rfl
    · rfl

namespace Rule

variable {rule made : Rule} {name value : String} {entry : DomainEntry}

/-- All domains of the rule, the permitted ones first. -/
def domainEntries (rule : Rule) : List DomainEntry :=
  rule.permittedDomains.map .permitted ++ rule.restrictedDomains.map .restricted

/-- The domains of the rule as the value of one domain option. -/
def writtenDomains (rule : Rule) : String :=
  Text.joined "|" (rule.permittedDomains ++ rule.restrictedDomains.map ("~" ++ ·))

theorem permitted_mem_domainEntries {d : String} :
    .permitted d ∈ rule.domainEntries ↔ d ∈ rule.permittedDomains := by
  simp [domainEntries]

theorem restricted_mem_domainEntries {d : String} :
    .restricted d ∈ rule.domainEntries ↔ d ∈ rule.restrictedDomains := by
  simp [domainEntries]

theorem filterMap_permitted?_domainEntries (rule : Rule) :
    rule.domainEntries.filterMap DomainEntry.permitted? = rule.permittedDomains := by
  simp [domainEntries, DomainEntry.permitted?, List.filterMap_map, Function.comp_def]

theorem filterMap_restricted?_domainEntries (rule : Rule) :
    rule.domainEntries.filterMap DomainEntry.restricted? = rule.restrictedDomains := by
  simp [domainEntries, DomainEntry.restricted?, List.filterMap_map, Function.comp_def]

theorem mem_domainEntries_withSetting {setting : Setting}
    (h : rule.withSetting setting = .ok made) :
    entry ∈ made.domainEntries ↔ entry ∈ rule.domainEntries ∨ entry ∈ setting.entries := by
  have hstates := (gains_of_withSetting h).states
  cases entry with
  | permitted d =>
    rw [permitted_mem_domainEntries, permitted_mem_domainEntries]
    refine (hstates (.permittedDomain d)).trans (or_congr Iff.rfl ?_)
    cases setting <;> simp [Setting.States, Setting.entries]
  | restricted d =>
    rw [restricted_mem_domainEntries, restricted_mem_domainEntries]
    refine (hstates (.restrictedDomain d)).trans (or_congr Iff.rfl ?_)
    cases setting <;> simp [Setting.States, Setting.entries]

/-- An option adds its domains to those of the rule, if it is a domain option. -/
theorem mem_domainEntries_withOption (h : rule.withOption name value = .ok made) :
    entry ∈ made.domainEntries ↔
      entry ∈ rule.domainEntries ∨ optionName name = "domain" ∧ entry ∈ DomainEntry.ofValue value := by
  obtain ⟨setting, hsetting, hadded⟩ := withOption_eq_ok_iff.mp h
  rw [mem_domainEntries_withSetting hadded, Setting.entries_of_parse hsetting]
  split
  · next hname => simp [hname]
  · next hname => simp [hname]

theorem mem_domainEntries_withOptions {options : List (String × String)}
    (h : rule.withOptions options = .ok made) :
    entry ∈ made.domainEntries ↔ entry ∈ rule.domainEntries ∨
      ∃ o ∈ options, optionName o.1 = "domain" ∧ entry ∈ DomainEntry.ofValue o.2 := by
  induction options generalizing rule with
  | nil =>
    cases h
    simp
  | cons first rest ih =>
    rw [withOptions_cons] at h
    obtain ⟨next, hfirst, hrest⟩ := exists_ok_of_bind h
    rw [ih hrest, mem_domainEntries_withOption hfirst, List.exists_mem_cons_iff, or_assoc]

/-- Every domain of a rule that is built was read from an option. -/
theorem Built.recorded (h : rule.Built) : ∀ entry ∈ rule.domainEntries, entry.Recorded := by
  induction h with
  | bare pattern allowlist =>
    intro entry hentry
    cases hentry
  | option _ hmade ih =>
    intro entry hentry
    rcases (mem_domainEntries_withOption hmade).mp hentry with hold | ⟨-, hnew⟩
    · exact ih entry hold
    · exact DomainEntry.recorded_of_mem_ofValue hnew
  | @modifier rule made kind value allowlist m _ _ hmade ih =>
    have hsetting : rule.withSetting (.modifier m) = .ok made := hmade
    intro entry hentry
    rcases (mem_domainEntries_withSetting hsetting).mp hentry with hold | hnew
    · exact ih entry hold
    · cases hnew

/-! ## Domain options of a rule -/

theorem withOption_domain (hname : optionName name = "domain") (value : String) (rule : Rule) :
    rule.withOption name value = .ok (rule.withDomains (DomainEntry.ofValue value)) := by
  rw [withOption, Setting.parse_domain hname, ok_bind]
  rfl

theorem withDomains_append (front back : List DomainEntry) (rule : Rule) :
    rule.withDomains (front ++ back) = (rule.withDomains front).withDomains back := by
  simp only [withDomains, List.filterMap_append, Domains.insertAll_append]

theorem withDomains_congr (h : rule.Canonical) {entries others : List DomainEntry}
    (hsame : ∀ entry, entry ∈ entries ↔ entry ∈ others) :
    rule.withDomains entries = rule.withDomains others := by
  have hpermitted : ∀ d, d ∈ entries.filterMap DomainEntry.permitted? ↔
      d ∈ others.filterMap DomainEntry.permitted? := by
    intro d
    simp only [List.mem_filterMap, hsame]
  have hrestricted : ∀ d, d ∈ entries.filterMap DomainEntry.restricted? ↔
      d ∈ others.filterMap DomainEntry.restricted? := by
    intro d
    simp only [List.mem_filterMap, hsame]
  rw [withDomains, withDomains, Domains.insertAll_congr h.permitted.ascending hpermitted,
    Domains.insertAll_congr h.restricted.ascending hrestricted]

/-- Two domain options say together what one says that has the values of both. -/
theorem withOptions_domains {other : String} (hname : optionName name = "domain")
    (hother : optionName other = "domain") (v w : String) (rule : Rule) :
    rule.withOptions [(name, v), (other, w)] = rule.withOption name (v ++ "|" ++ w) := by
  rw [withOptions_cons, withOption_domain hname, ok_bind, withOptions_singleton,
    withOption_domain hother, withOption_domain hname, DomainEntry.ofValue_append,
    withDomains_append]

/-- The two values may stand in either order. -/
theorem withOption_domain_comm {other : String} (h : rule.Canonical)
    (hname : optionName name = "domain") (hother : optionName other = "domain") (v w : String) :
    rule.withOption name (v ++ "|" ++ w) = rule.withOption other (w ++ "|" ++ v) := by
  have hsame : ∀ entry, entry ∈ DomainEntry.ofValue (v ++ "|" ++ w) ↔
      entry ∈ DomainEntry.ofValue (w ++ "|" ++ v) := by
    intro entry
    rw [DomainEntry.ofValue_append, DomainEntry.ofValue_append, List.mem_append, List.mem_append,
      or_comm]
  rw [withOption_domain hname, withOption_domain hother, withDomains_congr h hsame]

theorem Built.ofValue_writtenDomains (h : rule.Built) :
    DomainEntry.ofValue rule.writtenDomains = rule.domainEntries := by
  have hwritten : rule.writtenDomains =
      Text.joined "|" (rule.domainEntries.map DomainEntry.written) := by
    simp [writtenDomains, domainEntries, DomainEntry.written, Function.comp_def]
  rw [hwritten, DomainEntry.ofValue_joined h.recorded]

/-- The domains of a rule are read again from what they are written as. -/
theorem Built.withOption_writtenDomains (h : rule.Built) (hname : optionName name = "domain")
    (pattern : String) (allowlist : Bool) :
    (Rule.bare pattern allowlist).withOption name rule.writtenDomains =
      .ok { Rule.bare pattern allowlist with
            permittedDomains := rule.permittedDomains
            restrictedDomains := rule.restrictedDomains } := by
  have hpermitted := Domains.insertAll_nil h.canonical.permitted.ascending
  have hrestricted := Domains.insertAll_nil h.canonical.restricted.ascending
  rw [withOption_domain hname, h.ofValue_writtenDomains, withDomains,
    filterMap_permitted?_domainEntries, filterMap_restricted?_domainEntries]
  simp only [Rule.bare, hpermitted, hrestricted]

/-- How the domains of a rule are listed. -/
structure ListsDomains (rule : Rule) : Prop where
  permitted : rule.permittedDomains.Pairwise fun d e => Text.bytes d < Text.bytes e
  restricted : rule.restrictedDomains.Pairwise fun d e => Text.bytes d < Text.bytes e
  /-- No domain has a bar or a capital letter in it. -/
  plain : ∀ d ∈ rule.permittedDomains ++ rule.restrictedDomains, '|' ∉ d.toList ∧ Text.Lowered d
  named : ∀ d ∈ rule.permittedDomains, d ≠ "" ∧ d.toList.head? ≠ some '~'

theorem Built.listsDomains (h : rule.Built) : rule.ListsDomains := by
  constructor
  case permitted => exact h.canonical.permitted.ascending.imp Text.bytes_lt_bytes
  case restricted => exact h.canonical.restricted.ascending.imp Text.bytes_lt_bytes
  case plain =>
    intro d hd
    rcases List.mem_append.mp hd with hd | hd
    · have hrecorded := h.recorded _ (permitted_mem_domainEntries.mpr hd)
      exact ⟨hrecorded.single, h.canonical.permitted.lowered d hd⟩
    · have hrecorded := h.recorded _ (restricted_mem_domainEntries.mpr hd)
      refine ⟨fun hbar => hrecorded.single ?_, h.canonical.restricted.lowered d hd⟩
      rw [DomainEntry.written, String.toList_append]
      exact List.mem_append_right _ hbar
  case named =>
    intro d hd
    have hrecorded := h.recorded _ (permitted_mem_domainEntries.mpr hd)
    obtain ⟨htidy, htilde⟩ := DomainEntry.named_of_ofPiece? hrecorded.reads
    exact ⟨htidy.nonempty, htilde⟩

end Rule

/-- However a rule is built, its domains are listed in the order of their bytes, in lowercase and
without bars. Domain options one after the other, in either order, say what one option says that has
both values. What the rule lists is read again from a single domain option. -/
theorem domains_canonical {rule : Rule} (h : rule.Built) {name other : String}
    (hname : optionName name = "domain") (hother : optionName other = "domain") :
    rule.ListsDomains ∧
    (∀ v w : String, ∃ made, rule.withOption name (v ++ "|" ++ w) = .ok made ∧
      rule.withOption name (w ++ "|" ++ v) = .ok made ∧
      rule.withOptions [(name, v), (other, w)] = .ok made ∧
      rule.withOptions [(other, w), (name, v)] = .ok made) ∧
    ∀ (pattern : String) (allowlist : Bool),
      (Rule.bare pattern allowlist).withOption name rule.writtenDomains =
        .ok { Rule.bare pattern allowlist with
              permittedDomains := rule.permittedDomains
              restrictedDomains := rule.restrictedDomains } := by
  refine ⟨h.listsDomains, fun v w => ?_, h.withOption_writtenDomains hname⟩
  have honce := Rule.withOption_domain hname (v ++ "|" ++ w) rule
  have hcomm := Rule.withOption_domain_comm h.canonical hname hname v w
  have hcomm' := Rule.withOption_domain_comm h.canonical hname hother v w
  refine ⟨_, honce, ?_, ?_, ?_⟩
  · rw [← hcomm, honce]
  · rw [Rule.withOptions_domains hname hother, honce]
  · rw [Rule.withOptions_domains hother hname, ← hcomm', honce]

/-- A rule whose domains are written in many ways. -/
def sampleListed : Rule where
  pattern := "||x.example^"
  allowlist := false
  permittedDomains := ["a.example", "b.example", "\u00e9.example"]
  restrictedDomains := ["", " x", "a.example", "~y"]

/-- Blanks behind a tilde stay, and so does a second tilde. -/
theorem domains_canonical_sample :
    sampleListed.BuiltBy [("domain", "b.example|~A.example| a.example ||~"),
      (" Domain", "~ x|\u00e9.EXAMPLE\u3000|~~y|B.example")] ∧
    sampleListed.ListsDomains ∧
    sampleListed.writtenDomains = "a.example|b.example|\u00e9.example|~|~ x|~a.example|~~y" ∧
    (Rule.bare "||x.example^" false).withOption "domain" sampleListed.writtenDomains =
      .ok sampleListed ∧
    ∃ made, sampleListed.withOption "domain" "~|c.example" = .ok made ∧
      sampleListed.withOptions [(" Domain", "c.example"), ("domain", "~")] = .ok made := by
  have built : sampleListed.BuiltBy [("domain", "b.example|~A.example| a.example ||~"),
      (" Domain", "~ x|\u00e9.EXAMPLE\u3000|~~y|B.example")] := by
    decide +kernel
  obtain ⟨hlists, hjoined, hread⟩ := domains_canonical built.built
    (show optionName "domain" = "domain" by decide +kernel)
    (show optionName " Domain" = "domain" by decide +kernel)
  obtain ⟨made, honce, -, -, htwice⟩ := hjoined "~" "c.example"
  exact ⟨built, hlists, by decide +kernel, hread "||x.example^" false, made, honce, htwice⟩

end Blocklist
