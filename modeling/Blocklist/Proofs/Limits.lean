import Mathlib.Data.List.Basic
import Mathlib.Data.List.Nodup
import Blocklist.Limits

/-! # The law of the limits

What `Limits.enforce` keeps is said here by positions. A rule stays if its position is within the
limit of all rules and if it is not one regular expression too many among the rules up to it.

* `splitRules_active`, `splitRegexp_eq`: the two cuts, as selections of positions;
* `Pool.cut_fst`, `Pool.keep_eq`: if no two rules share an id, every rule that is cut or kept takes
  just what belongs to it, whatever came before it;
* `enforce_eq`: all four parts of the result of `enforce`.
-/

namespace Blocklist

namespace Converted

/-- The entries of a rule in the source map. -/
def entriesOf (converted : Converted) (rule : Declarative.Rule) : List Source :=
  converted.sourceMap.filter (·.declarativeId = rule.id)

/-- The errors that are tied to a rule. -/
def errorsOf (converted : Converted) (rule : Declarative.Rule) : List ConversionError :=
  converted.errors.filter (·.declarativeId? = some rule.id)

/-- The errors that are tied to no rule. -/
def untiedErrors (converted : Converted) : List ConversionError :=
  converted.errors.filter (·.declarativeId? = none)

/-- Positions of the source rules of some declarative rules. -/
def indicesOf (converted : Converted) (rules : List Declarative.Rule) : List UInt32 :=
  rules.flatMap fun rule => (converted.entriesOf rule).map Source.ruleIndex

end Converted

namespace Limits

/-- The limit lets so many rules through. A limit that is unset or zero lets any number through. -/
def fits (limit : Option Nat) (count : Nat) : Bool :=
  match limit with
  | none | some 0 => true
  | some limit => count ≤ limit

/-- The rules whose position and content pass a test, in order. Positions count from zero. -/
def select (test : Nat → Declarative.Rule → Bool) (rules : List Declarative.Rule) :
    List Declarative.Rule :=
  (rules.zipIdx.filter fun entry => test entry.2 entry.1).map Prod.fst

/-- Number of rules with a regular expression from the first rule to that at position `i`. -/
def regexpsUpTo (rules : List Declarative.Rule) (i : Nat) : Nat :=
  (rules.take (i + 1)).countP Declarative.Rule.isRegex

/-- The position is within the limit of all rules. -/
def isWithin (limits : Limits) (i : Nat) : Bool :=
  fits limits.rules (i + 1)

/-- The rule at position `i` is one regular expression too many. -/
def isExcessRegexp (limits : Limits) (rules : List Declarative.Rule) (i : Nat)
    (rule : Declarative.Rule) : Bool :=
  rule.isRegex && !fits limits.regexpRules (regexpsUpTo rules i)

/-- The rules that stay. -/
def retained (limits : Limits) (rules : List Declarative.Rule) : List Declarative.Rule :=
  select (fun i rule => limits.isWithin i && !limits.isExcessRegexp rules i rule) rules

/-- The rules beyond the limit of all rules. -/
def excess (limits : Limits) (rules : List Declarative.Rule) : List Declarative.Rule :=
  select (fun i _ => !limits.isWithin i) rules

/-- The rules within the limit of all rules that are beyond that of regular expressions. -/
def excessRegexps (limits : Limits) (rules : List Declarative.Rule) : List Declarative.Rule :=
  select (fun i rule => limits.isWithin i && limits.isExcessRegexp rules i rule) rules

/-- The report on a limit, when there are `count` of the rules that it is about. -/
def report (kind : LimitKind) (limit : Option Nat) (count : Nat) (excluded : List UInt32) :
    List Limitation :=
  match limit with
  | none => []
  | some n => if fits limit count then [] else [⟨kind, excluded, n, count - n⟩]

@[simp] theorem active?_none : active? none = none := rfl

@[simp] theorem active?_zero : active? (some 0) = none := rfl

@[simp] theorem active?_succ (n : Nat) : active? (some (n + 1)) = some (n + 1) := rfl

@[simp] theorem fits_none (count : Nat) : fits none count = true := rfl

@[simp] theorem fits_zero (count : Nat) : fits (some 0) count = true := rfl

@[simp] theorem fits_succ (n count : Nat) :
    fits (some (n + 1)) count = decide (count ≤ n + 1) := rfl

/-! ## Selections -/

variable {test other : Nat → Declarative.Rule → Bool} {rules : List Declarative.Rule}

@[simp] theorem select_nil : select test [] = [] := rfl

theorem select_cons (rule : Declarative.Rule) (rest : List Declarative.Rule) :
    select test (rule :: rest) =
      (if test 0 rule then [rule] else []) ++ select (fun i => test (i + 1)) rest := by
  have hshift : rest.zipIdx 1 = rest.zipIdx.map fun entry => (entry.1, entry.2 + 1) :=
    List.zipIdx_succ
  have hrest : ((rest.zipIdx 1).filter fun entry => test entry.2 entry.1).map Prod.fst =
      select (fun i => test (i + 1)) rest := by
    rw [hshift, List.filter_map, List.map_map]
    rfl
  unfold select at *
  rw [List.zipIdx_cons, List.filter_cons]
  by_cases h : test 0 rule
  · simp [h, hrest]
  · simp [h, hrest]

theorem select_congr (h : ∀ i rule, rules[i]? = some rule → test i rule = other i rule) :
    select test rules = select other rules := by
  induction rules generalizing test other with
  | nil => rfl
  | cons rule rest ih =>
    have hrest := ih fun i r hr => h (i + 1) r (by simpa using hr)
    rw [select_cons, select_cons, h 0 rule rfl, hrest]

theorem select_true : select (fun _ _ => true) rules = rules := by
  simp [select, List.zipIdx_map_fst]

theorem select_false : select (fun _ _ => false) rules = [] := by
  simp [select]

theorem select_sublist : (select test rules).Sublist rules := by
  have h : ((rules.zipIdx.filter fun entry => test entry.2 entry.1).map Prod.fst).Sublist
      (rules.zipIdx.map Prod.fst) := List.filter_sublist.map Prod.fst
  rwa [List.zipIdx_map_fst] at h

/-- A test splits the rules into those that pass it and those that do not. -/
theorem select_append_perm :
    (select test rules ++ select (fun i rule => !test i rule) rules).Perm rules := by
  have h := (List.filter_append_perm (fun entry : Declarative.Rule × Nat => test entry.2 entry.1)
    rules.zipIdx).map Prod.fst
  rwa [List.map_append, List.zipIdx_map_fst] at h

theorem select_lt (n : Nat) : select (fun i _ => decide (i < n)) rules = rules.take n := by
  induction rules generalizing n with
  | nil => simp
  | cons rule rest ih =>
    cases n with
    | zero => simpa using select_false
    | succ n =>
      rw [select_cons]
      simp [ih]

theorem select_ge (n : Nat) : select (fun i _ => !decide (i < n)) rules = rules.drop n := by
  induction rules generalizing n with
  | nil => simp
  | cons rule rest ih =>
    cases n with
    | zero => simpa using select_true
    | succ n =>
      rw [select_cons]
      simp [ih]

/-- Among distinct rules, the test decides on each rule by its one position. -/
theorem mem_select_iff (distinct : rules.Nodup) {i : Nat} {rule : Declarative.Rule}
    (hi : rules[i]? = some rule) : rule ∈ select test rules ↔ test i rule = true := by
  unfold select
  rw [List.mem_map]
  constructor
  · rintro ⟨⟨r, j⟩, hentry, rfl⟩
    rw [List.mem_filter, List.mem_zipIdx_iff_getElem?] at hentry
    obtain ⟨hlt, -⟩ := List.getElem?_eq_some_iff.mp hi
    have hj : i = j := (List.getElem?_inj hlt distinct).mp (hi.trans hentry.1.symm)
    rw [hj]
    exact hentry.2
  · intro h
    refine ⟨(rule, i), ?_, rfl⟩
    rw [List.mem_filter, List.mem_zipIdx_iff_getElem?]
    exact ⟨hi, h⟩

/-- A selection among the first `n` rules is one among all rules. -/
theorem select_take {n : Nat} (h : ∀ i < n, ∀ rule, test i rule = other i rule) :
    select test (rules.take n) = select (fun i rule => decide (i < n) && other i rule) rules := by
  induction rules generalizing n test other with
  | nil => simp
  | cons rule rest ih =>
    cases n with
    | zero => simp [select_false]
    | succ n =>
      have hrest : select (fun i => test (i + 1)) (rest.take n) =
          select (fun i r => decide (i < n) && other (i + 1) r) rest :=
        ih fun i hi r => h (i + 1) (by omega) r
      rw [List.take_succ_cons, select_cons, select_cons, hrest, h 0 (by omega)]
      simp

/-! ## The cut at the limit of all rules -/

/-- The rules are cut at one position, and it is the limit that says at which. -/
theorem splitRules_active (limits : Limits) (rules : List Declarative.Rule) :
    ∃ n, splitRules (active? limits.rules) rules = (rules.take n, rules.drop n) ∧
      ∀ i rule, rules[i]? = some rule → limits.isWithin i = decide (i < n) := by
  have huncut : ∀ i rule, rules[i]? = some rule → i < rules.length := by
    intro i rule hi
    exact (List.getElem?_eq_some_iff.mp hi).1
  rcases hlimit : limits.rules with _ | _ | limit
  · refine ⟨rules.length, by simp [splitRules], fun i rule hi => ?_⟩
    simp [isWithin, hlimit, huncut i rule hi]
  · refine ⟨rules.length, by simp [splitRules], fun i rule hi => ?_⟩
    simp [isWithin, hlimit, huncut i rule hi]
  · refine ⟨limit + 1, by simp [splitRules], fun i rule _ => ?_⟩
    rw [isWithin, hlimit, fits_succ, decide_eq_decide]
    omega

/-! ## The cut at the limit of regular expressions -/

theorem regexpsUpTo_cons_zero (rule : Declarative.Rule) (rest : List Declarative.Rule) :
    regexpsUpTo (rule :: rest) 0 = if rule.isRegex then 1 else 0 := by
  simp [regexpsUpTo, List.countP_cons]

theorem regexpsUpTo_cons_succ (rule : Declarative.Rule) (rest : List Declarative.Rule) (i : Nat) :
    regexpsUpTo (rule :: rest) (i + 1) =
      regexpsUpTo rest i + if rule.isRegex then 1 else 0 := by
  simp [regexpsUpTo, List.countP_cons]

theorem regexpsUpTo_take {n i : Nat} (h : i < n) :
    regexpsUpTo (rules.take n) i = regexpsUpTo rules i := by
  rw [regexpsUpTo, regexpsUpTo, List.take_take, Nat.min_eq_left (by omega)]

/-- A rule with a regular expression counts itself. -/
theorem regexpsUpTo_pos {i : Nat} {rule : Declarative.Rule} (hi : rules[i]? = some rule)
    (hregex : rule.isRegex) : 0 < regexpsUpTo rules i := by
  have hmem : rule ∈ rules.take (i + 1) := by
    rw [List.mem_iff_getElem?]
    exact ⟨i, by simpa [List.getElem?_take] using hi⟩
  exact List.countP_pos_iff.mpr ⟨rule, hmem, hregex⟩

theorem splitRegexp_eq (room : Nat) (rules : List Declarative.Rule) :
    splitRegexp room rules =
      (select (fun i rule => !(rule.isRegex && !decide (regexpsUpTo rules i ≤ room))) rules,
        select (fun i rule => rule.isRegex && !decide (regexpsUpTo rules i ≤ room)) rules) := by
  induction rules generalizing room with
  | nil => rfl
  | cons rule rest ih =>
    simp only [select_cons, regexpsUpTo_cons_zero, regexpsUpTo_cons_succ]
    cases hregex : rule.isRegex with
    | false => simp [splitRegexp, hregex, ih]
    | true =>
      cases room with
      | zero =>
        -- No room is left, and each later expression has a positive count of its own.
        have hrest : ∀ i r, rest[i]? = some r →
            (r.isRegex && !decide (regexpsUpTo rest i ≤ 0)) =
              (r.isRegex && !decide (regexpsUpTo rest i + 1 ≤ 0)) := by
          intro i r hi
          cases hr : r.isRegex with
          | false => rfl
          | true =>
            have := regexpsUpTo_pos hi hr
            have hcount : ¬ regexpsUpTo rest i ≤ 0 := by omega
            simp [hcount]
        have hbeyond : select (fun i r => r.isRegex && !decide (regexpsUpTo rest i ≤ 0)) rest =
            select (fun i r => r.isRegex && !decide (regexpsUpTo rest i + 1 ≤ 0)) rest :=
          select_congr hrest
        have hwithin : select (fun i r => !(r.isRegex && !decide (regexpsUpTo rest i ≤ 0))) rest =
            select (fun i r => !(r.isRegex && !decide (regexpsUpTo rest i + 1 ≤ 0))) rest :=
          select_congr fun i r hi => congrArg (! ·) (hrest i r hi)
        simp only [splitRegexp, hregex, ih, if_true, hwithin, hbeyond]
        simp
      | succ n => simp [splitRegexp, hregex, ih]

/-- What is beyond the limit of regular expressions is as long as the excess. -/
theorem length_splitRegexp_snd (room : Nat) (rules : List Declarative.Rule) :
    (splitRegexp room rules).2.length = rules.countP Declarative.Rule.isRegex - room := by
  induction rules generalizing room with
  | nil => simp [splitRegexp]
  | cons rule rest ih =>
    cases hregex : rule.isRegex with
    | false => simp [splitRegexp, hregex, ih]
    | true =>
      cases room with
      | zero => simp [splitRegexp, hregex, ih]
      | succ n =>
        simp [splitRegexp, hregex, ih]

/-- Rules within and beyond a limit of rules with a regular expression, if there is one. -/
def splitRegexps (limit : Option Nat) (rules : List Declarative.Rule) :
    List Declarative.Rule × List Declarative.Rule :=
  match limit with
  | none => (rules, [])
  | some n => splitRegexp n rules

theorem splitRegexps_active (limits : Limits) (rules : List Declarative.Rule) :
    splitRegexps (active? limits.regexpRules) rules =
      (select (fun i rule => !limits.isExcessRegexp rules i rule) rules,
        select (limits.isExcessRegexp rules) rules) := by
  unfold isExcessRegexp
  rcases limits.regexpRules with _ | _ | limit
  · simp [splitRegexps, select_true, select_false]
  · simp [splitRegexps, select_true, select_false]
  · simp [splitRegexps, splitRegexp_eq]

/-- Both cuts together, the second one on what the first one leaves. -/
theorem cuts_eq (limits : Limits) (rules : List Declarative.Rule) :
    let cut := splitRules (active? limits.rules) rules
    let cutRegexps := splitRegexps (active? limits.regexpRules) cut.1
    cut.2 = limits.excess rules ∧ cutRegexps.1 = limits.retained rules ∧
      cutRegexps.2 = limits.excessRegexps rules := by
  obtain ⟨n, hsplit, hwithin⟩ := splitRules_active limits rules
  have hcount : ∀ i < n, ∀ rule,
      limits.isExcessRegexp (rules.take n) i rule = limits.isExcessRegexp rules i rule := by
    intro i hi rule
    rw [isExcessRegexp, isExcessRegexp, regexpsUpTo_take hi]
  simp only [hsplit, splitRegexps_active]
  refine ⟨?_, ?_, ?_⟩
  · rw [excess, select_congr fun i rule hi => congrArg (! ·) (hwithin i rule hi), select_ge]
  · rw [select_take fun i hi rule => congrArg (! ·) (hcount i hi rule), retained]
    exact select_congr fun i rule hi => by rw [hwithin i rule hi]
  · rw [select_take hcount, excessRegexps]
    exact select_congr fun i rule hi => by rw [hwithin i rule hi]

/-! ## What a rule takes with it -/

namespace Pool

variable {pool : Pool} {id : UInt32}

theorem sourcesOf_without {other : UInt32} (h : other ≠ id) :
    (pool.without id).sourcesOf other = pool.sourcesOf other := by
  simp only [sourcesOf, without, List.filter_filter]
  refine List.filter_congr fun source _ => ?_
  by_cases hid : source.declarativeId = other
  · simp [hid, h]
  · simp [hid]

theorem errorsOf_without {other : UInt32} (h : other ≠ id) :
    (pool.without id).errorsOf other = pool.errorsOf other := by
  simp only [errorsOf, without, List.filter_filter]
  refine List.filter_congr fun e _ => ?_
  by_cases hid : e.declarativeId? = some other
  · simp [hid, h]
  · simp [hid]

/-- A cut leaves alone what belongs to other rules. -/
theorem sourcesOf_cut (h : id ∉ rules.map Declarative.Rule.id) :
    (pool.cut rules).2.sourcesOf id = pool.sourcesOf id := by
  induction rules generalizing pool with
  | nil => rfl
  | cons rule rest ih =>
    rw [List.map_cons, List.mem_cons, not_or] at h
    calc ((pool.without rule.id).cut rest).2.sourcesOf id
        = (pool.without rule.id).sourcesOf id := ih h.2
      _ = pool.sourcesOf id := sourcesOf_without h.1

theorem errorsOf_cut (h : id ∉ rules.map Declarative.Rule.id) :
    (pool.cut rules).2.errorsOf id = pool.errorsOf id := by
  induction rules generalizing pool with
  | nil => rfl
  | cons rule rest ih =>
    rw [List.map_cons, List.mem_cons, not_or] at h
    calc ((pool.without rule.id).cut rest).2.errorsOf id
        = (pool.without rule.id).errorsOf id := ih h.2
      _ = pool.errorsOf id := errorsOf_without h.1

/-- If no two of them share an id, the rules that are cut take just what belongs to each. -/
theorem cut_fst (distinct : (rules.map Declarative.Rule.id).Nodup) :
    (pool.cut rules).1 =
      rules.flatMap fun rule => (pool.sourcesOf rule.id).map Source.ruleIndex := by
  induction rules generalizing pool with
  | nil => rfl
  | cons rule rest ih =>
    rw [List.map_cons, List.nodup_cons] at distinct
    have hrest : ((pool.without rule.id).cut rest).1 =
        rest.flatMap fun r => (pool.sourcesOf r.id).map Source.ruleIndex := by
      rw [ih distinct.2]
      refine List.flatMap_congr fun r hr => ?_
      have hne : r.id ≠ rule.id := fun h => distinct.1 (h ▸ List.mem_map_of_mem hr)
      rw [sourcesOf_without hne]
    rw [List.flatMap_cons, ← hrest]
    rfl

theorem keep_eq (distinct : (rules.map Declarative.Rule.id).Nodup) :
    pool.keep rules =
      (rules.flatMap fun rule => pool.sourcesOf rule.id,
        rules.flatMap fun rule => pool.errorsOf rule.id) := by
  induction rules generalizing pool with
  | nil => rfl
  | cons rule rest ih =>
    rw [List.map_cons, List.nodup_cons] at distinct
    -- What the first rule takes out of the pool is nothing that the later ones look for.
    have hne : ∀ r ∈ rest, r.id ≠ rule.id := by
      intro r hr h
      exact distinct.1 (h ▸ List.mem_map_of_mem hr)
    have hsources : rest.flatMap (fun r => (pool.without rule.id).sourcesOf r.id) =
        rest.flatMap fun r => pool.sourcesOf r.id :=
      List.flatMap_congr fun r hr => sourcesOf_without (hne r hr)
    have herrors : rest.flatMap (fun r => (pool.without rule.id).errorsOf r.id) =
        rest.flatMap fun r => pool.errorsOf r.id :=
      List.flatMap_congr fun r hr => errorsOf_without (hne r hr)
    simp only [keep, ih distinct.2, hsources, herrors, List.flatMap_cons]

end Pool

/-! ## The whole enforcement -/

theorem retained_sublist (limits : Limits) (rules : List Declarative.Rule) :
    (limits.retained rules).Sublist rules := select_sublist

/-- Every rule stays or is cut by one of the limits. -/
theorem retained_append_perm (limits : Limits) (rules : List Declarative.Rule) :
    (limits.retained rules ++ (limits.excessRegexps rules ++ limits.excess rules)).Perm rules := by
  obtain ⟨n, hsplit, -⟩ := splitRules_active limits rules
  obtain ⟨hexcess, hretained, hregexps⟩ := cuts_eq limits rules
  simp only [hsplit, splitRegexps_active] at hexcess hretained hregexps
  have hwithin : (limits.excessRegexps rules ++ limits.retained rules).Perm (rules.take n) := by
    rw [← hretained, ← hregexps]
    exact select_append_perm
  rw [← List.append_assoc, ← hexcess]
  calc (limits.retained rules ++ limits.excessRegexps rules ++ rules.drop n).Perm
        (rules.take n ++ rules.drop n) :=
        (List.perm_append_comm.trans hwithin).append_right _
    _ = rules := List.take_append_drop n rules

theorem length_excess {limits : Limits} {n : Nat} (h : limits.rules = some (n + 1))
    (rules : List Declarative.Rule) : (limits.excess rules).length = rules.length - (n + 1) := by
  rw [← (cuts_eq limits rules).1]
  simp [h, splitRules]

theorem length_excessRegexps {limits : Limits} {n : Nat} (h : limits.regexpRules = some (n + 1))
    (rules : List Declarative.Rule) :
    (limits.excessRegexps rules).length =
      (select (fun i _ => limits.isWithin i) rules).countP Declarative.Rule.isRegex - (n + 1) := by
  obtain ⟨m, hsplit, hwithin⟩ := splitRules_active limits rules
  have hcut : (splitRegexps (active? limits.regexpRules) (rules.take m)).2 =
      limits.excessRegexps rules := by
    have hregexps := (cuts_eq limits rules).2.2
    rwa [hsplit] at hregexps
  rw [select_congr hwithin, select_lt, ← length_splitRegexp_snd (n + 1), ← hcut, h]
  rfl

/-- What is reported on a limit depends on the number of rules that it is about. -/
theorem toList_limitation? {limit : Option Nat} {count : Nat} {cut : List Declarative.Rule}
    (hcut : ∀ n, limit = some (n + 1) → cut.length = count - (n + 1)) (kind : LimitKind)
    (excluded : List UInt32) :
    (limitation? kind (active? limit) cut excluded).toList = report kind limit count excluded := by
  rcases limit with _ | _ | n
  · rfl
  · rfl
  · have hlength := hcut n rfl
    cases cut with
    | nil =>
      have hfits : count ≤ n + 1 := by
        rw [List.length_nil] at hlength
        omega
      simp [limitation?, report, hfits]
    | cons rule rest =>
      have hover : ¬ count ≤ n + 1 := by
        rw [List.length_cons] at hlength
        omega
      simp [limitation?, report, hover, hlength]

/-- Entries and errors that are still to be handed out, before any rule is cut. -/
def Pool.ofConverted (converted : Converted) : Pool :=
  ⟨converted.sourceMap, converted.errors.filter (·.declarativeId?.isSome)⟩

theorem Pool.sourcesOf_ofConverted (converted : Converted) (rule : Declarative.Rule) :
    (ofConverted converted).sourcesOf rule.id = converted.entriesOf rule := rfl

theorem Pool.errorsOf_ofConverted (converted : Converted) (rule : Declarative.Rule) :
    (ofConverted converted).errorsOf rule.id = converted.errorsOf rule := by
  simp only [errorsOf, ofConverted, Converted.errorsOf, List.filter_filter]
  refine List.filter_congr fun e _ => ?_
  cases he : e.declarativeId? <;> simp

theorem enforce_eq_cuts (limits : Limits) (converted : Converted) :
    limits.enforce converted =
      let cut := (Pool.ofConverted converted).cut (limits.excess converted.rules)
      let cutRegexps := cut.2.cut (limits.excessRegexps converted.rules)
      let kept := cutRegexps.2.keep (limits.retained converted.rules)
      { rules := limits.retained converted.rules
        sourceMap := kept.1
        errors := kept.2 ++ converted.untiedErrors
        limitations :=
          (limitation? .rules (active? limits.rules)
            (limits.excess converted.rules) cut.1).toList ++
          (limitation? .regexpRules (active? limits.regexpRules)
            (limits.excessRegexps converted.rules) cutRegexps.1).toList } := by
  obtain ⟨hexcess, hretained, hregexps⟩ := cuts_eq limits converted.rules
  have huntied : converted.errors.filter (·.declarativeId?.isNone) = converted.untiedErrors :=
    List.filter_congr fun e _ => by cases e.declarativeId? <;> rfl
  rw [← hexcess, ← hretained, ← hregexps, ← huntied]
  rfl

/-- The result of enforcing limits on rules of which no two share an id. -/
theorem enforce_eq (limits : Limits) (converted : Converted)
    (distinct : (converted.rules.map Declarative.Rule.id).Nodup) :
    limits.enforce converted =
      { rules := limits.retained converted.rules
        sourceMap := (limits.retained converted.rules).flatMap converted.entriesOf
        errors := (limits.retained converted.rules).flatMap converted.errorsOf ++
          converted.untiedErrors
        limitations :=
          report .rules limits.rules converted.rules.length
            (converted.indicesOf (limits.excess converted.rules)) ++
          report .regexpRules limits.regexpRules
            ((select (fun i _ => limits.isWithin i) converted.rules).countP
              Declarative.Rule.isRegex)
            (converted.indicesOf (limits.excessRegexps converted.rules)) } := by
  have hids := ((retained_append_perm limits converted.rules).map Declarative.Rule.id).nodup_iff.mpr
    distinct
  rw [List.map_append, List.map_append] at hids
  obtain ⟨hretained, hcuts, hapart⟩ := List.nodup_append'.mp hids
  obtain ⟨hregexps, hexcess, hcutsApart⟩ := List.nodup_append'.mp hcuts
  -- What one kind of rules takes is still there after the rules of the other kinds were cut.
  have hcut : ((Pool.ofConverted converted).cut (limits.excess converted.rules)).1 =
      converted.indicesOf (limits.excess converted.rules) := by
    rw [Pool.cut_fst hexcess]
    rfl
  have hcutRegexps : (((Pool.ofConverted converted).cut (limits.excess converted.rules)).2.cut
      (limits.excessRegexps converted.rules)).1 =
        converted.indicesOf (limits.excessRegexps converted.rules) := by
    rw [Pool.cut_fst hregexps]
    refine List.flatMap_congr fun rule hrule => ?_
    rw [Pool.sourcesOf_cut (hcutsApart (List.mem_map_of_mem hrule)), Pool.sourcesOf_ofConverted]
  have hkept : (((Pool.ofConverted converted).cut (limits.excess converted.rules)).2.cut
      (limits.excessRegexps converted.rules)).2.keep (limits.retained converted.rules) =
        ((limits.retained converted.rules).flatMap converted.entriesOf,
          (limits.retained converted.rules).flatMap converted.errorsOf) := by
    rw [Pool.keep_eq hretained]
    have hout : ∀ rule ∈ limits.retained converted.rules,
        rule.id ∉ (limits.excessRegexps converted.rules).map Declarative.Rule.id ∧
          rule.id ∉ (limits.excess converted.rules).map Declarative.Rule.id := by
      intro rule hrule
      have h : rule.id ∉ (limits.excessRegexps converted.rules).map Declarative.Rule.id ++
          (limits.excess converted.rules).map Declarative.Rule.id :=
        fun hmem => hapart (List.mem_map_of_mem hrule) hmem
      rwa [List.mem_append, not_or] at h
    congr 1
    · refine List.flatMap_congr fun rule hrule => ?_
      rw [Pool.sourcesOf_cut (hout rule hrule).1, Pool.sourcesOf_cut (hout rule hrule).2,
        Pool.sourcesOf_ofConverted]
    · refine List.flatMap_congr fun rule hrule => ?_
      rw [Pool.errorsOf_cut (hout rule hrule).1, Pool.errorsOf_cut (hout rule hrule).2,
        Pool.errorsOf_ofConverted]
  have hrules := toList_limitation?
    (fun n (h : limits.rules = some (n + 1)) => length_excess h converted.rules)
    .rules (converted.indicesOf (limits.excess converted.rules))
  have hregexpRules := toList_limitation?
    (fun n (h : limits.regexpRules = some (n + 1)) => length_excessRegexps h converted.rules)
    .regexpRules (converted.indicesOf (limits.excessRegexps converted.rules))
  rw [enforce_eq_cuts]
  simp only [hcut, hcutRegexps, hkept, hrules, hregexpRules]

/-- What the limits do to rules of which no two share an id, position by position: which rules
stay, which entries and errors stay with them, and what is reported on each limit. -/
theorem enforce_positions (limits : Limits) (converted : Converted)
    (distinct : (converted.rules.map Declarative.Rule.id).Nodup) :
    let result := limits.enforce converted
    let rules := converted.rules
    (∀ i rule, rules[i]? = some rule →
      (rule ∈ result.rules ↔
        fits limits.rules (i + 1) ∧
          (rule.isRegex → fits limits.regexpRules (regexpsUpTo rules i)))) ∧
    result.rules.Sublist rules ∧
    result.sourceMap = result.rules.flatMap converted.entriesOf ∧
    result.errors = result.rules.flatMap converted.errorsOf ++ converted.untiedErrors ∧
    result.limitations =
      report .rules limits.rules rules.length
        (converted.indicesOf (select (fun i _ => !fits limits.rules (i + 1)) rules)) ++
      report .regexpRules limits.regexpRules
        ((select (fun i _ => fits limits.rules (i + 1)) rules).countP Declarative.Rule.isRegex)
        (converted.indicesOf
          (select (fun i rule => fits limits.rules (i + 1) &&
            (rule.isRegex && !fits limits.regexpRules (regexpsUpTo rules i))) rules)) := by
  rw [enforce_eq limits converted distinct]
  refine ⟨fun i rule hi => ?_, retained_sublist limits converted.rules, rfl, rfl, rfl⟩
  rw [retained, mem_select_iff distinct.of_map hi, isWithin, isExcessRegexp]
  cases rule.isRegex <;> simp

/-- A blocking rule with a regular expression or with an address pattern. -/
def sampleRule (id : UInt32) (regexp : Bool) : Declarative.Rule where
  id
  priority := 1
  action := { kind := .block }
  condition := if regexp then { regexFilter := some "ads" } else { urlFilter := some "ads" }

/-- Five rules, of which the second and the fourth come from two source rules each. -/
def sampleConverted : Converted where
  rules := [sampleRule 1 true, sampleRule 2 true, sampleRule 3 false, sampleRule 4 true,
    sampleRule 5 false]
  sourceMap := [⟨7, 10, 1⟩, ⟨7, 20, 2⟩, ⟨7, 21, 2⟩, ⟨7, 30, 3⟩, ⟨7, 40, 4⟩, ⟨7, 41, 4⟩, ⟨7, 50, 5⟩]
  errors := [.unsupported 7 60 "none", .degraded 2 7 21 "part", .degraded 1 7 10 "part",
    .degraded 5 7 50 "part"]

/-- Both limits cut: the last rule is over the limit of four, and the second and the fourth are
regular expressions after the first. -/
theorem enforce_positions_sample :
    (sampleConverted.rules.map Declarative.Rule.id).Nodup ∧
    (∀ i rule, sampleConverted.rules[i]? = some rule →
      (rule ∈ (Limits.enforce ⟨some 4, some 1⟩ sampleConverted).rules ↔
        fits (some 4) (i + 1) ∧
          (rule.isRegex → fits (some 1) (regexpsUpTo sampleConverted.rules i)))) ∧
    Limits.enforce ⟨some 4, some 1⟩ sampleConverted =
      { rules := [sampleRule 1 true, sampleRule 3 false]
        sourceMap := [⟨7, 10, 1⟩, ⟨7, 30, 3⟩]
        errors := [.degraded 1 7 10 "part", .unsupported 7 60 "none"]
        limitations := [⟨.rules, [50], 4, 1⟩, ⟨.regexpRules, [20, 21, 40, 41], 1, 2⟩] } := by
  have distinct : (sampleConverted.rules.map Declarative.Rule.id).Nodup := by decide
  exact ⟨distinct, (enforce_positions ⟨some 4, some 1⟩ sampleConverted distinct).1, by decide⟩

end Limits

end Blocklist
