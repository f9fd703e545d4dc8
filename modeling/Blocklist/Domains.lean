import Blocklist.Text.Ascii
import Blocklist.Text.Blank
import Blocklist.Text.Pieces

/-! # Domain lists

The domains of a rule are kept in ascending order without repeats, so that two rules with the same
domains are equal however they were written. Order is that of code points.
-/

namespace Blocklist

/-- One piece of a domain option. -/
inductive DomainEntry where
  /-- The rule holds on pages of this domain. -/
  | permitted (domain : String)
  /-- The rule does not hold on pages of this domain. -/
  | restricted (domain : String)
  deriving Repr, DecidableEq

namespace DomainEntry

/-- Reads one piece: a tilde before the domain restricts it, and a blank piece says nothing. -/
def ofPiece? (piece : List Char) : Option DomainEntry :=
  match Text.trimmed piece with
  | [] => none
  | '~' :: domain => some (.restricted (Text.lower (String.ofList domain)))
  | domain => some (.permitted (Text.lower (String.ofList domain)))

/-- Reads the value of a domain option, whose pieces are separated by bars. -/
def ofValue (value : String) : List DomainEntry :=
  (Text.pieces '|' value.toList).filterMap ofPiece?

/-- The domain, when the entry permits it. -/
def permitted? : DomainEntry → Option String
  | permitted domain => some domain
  | restricted _ => none

/-- The domain, when the entry restricts it. -/
def restricted? : DomainEntry → Option String
  | permitted _ => none
  | restricted domain => some domain

end DomainEntry

namespace Domains

/-- Puts a domain into an ascending list, unless it is there already. -/
def insert (domain : String) : List String → List String
  | [] => [domain]
  | d :: rest =>
    if domain < d then domain :: d :: rest
    else if domain = d then d :: rest
    else d :: insert domain rest

/-- Puts several domains into an ascending list. -/
def insertAll (domains : List String) (known : List String) : List String :=
  domains.foldl (fun known domain => insert domain known) known

@[simp] theorem mem_insert {d domain : String} {known : List String} :
    d ∈ insert domain known ↔ d = domain ∨ d ∈ known := by
  induction known with
  | nil => simp [insert]
  | cons e rest ih =>
    simp only [insert]
    split
    · simp
    · split
      · subst domain
        simp
      · simp only [List.mem_cons, ih, or_left_comm]

@[simp] theorem mem_insertAll {d : String} {domains known : List String} :
    d ∈ insertAll domains known ↔ d ∈ domains ∨ d ∈ known := by
  induction domains generalizing known with
  | nil => simp [insertAll]
  | cons e rest ih =>
    have h := @ih (insert e known)
    simp only [insertAll, List.foldl_cons] at h ⊢
    rw [h]
    simp only [mem_insert, List.mem_cons]
    constructor
    · rintro (h | h | h)
      · exact .inl (.inr h)
      · exact .inl (.inl h)
      · exact .inr h
    · rintro ((h | h) | h)
      · exact .inr (.inl h)
      · exact .inl h
      · exact .inr (.inr h)

theorem ascending_insert {domain : String} {known : List String}
    (h : known.Pairwise (· < ·)) : (insert domain known).Pairwise (· < ·) := by
  induction known with
  | nil => simp [insert]
  | cons d rest ih =>
    rcases List.pairwise_cons.1 h with ⟨hd, hrest⟩
    simp only [insert]
    split
    · next hlt =>
      refine List.pairwise_cons.2 ⟨fun e he => ?_, h⟩
      rcases List.mem_cons.1 he with rfl | he
      · exact hlt
      · exact String.lt_trans hlt (hd e he)
    · next hlt =>
      split
      · exact h
      · next hne =>
        refine List.pairwise_cons.2 ⟨fun e he => ?_, ih hrest⟩
        rcases mem_insert.1 he with rfl | he
        · refine Decidable.byContradiction fun hgt => hne ?_
          exact String.le_antisymm (String.not_lt.1 hgt) (String.not_lt.1 hlt)
        · exact hd e he

theorem ascending_insertAll {domains known : List String} (h : known.Pairwise (· < ·)) :
    (insertAll domains known).Pairwise (· < ·) := by
  induction domains generalizing known with
  | nil => exact h
  | cons d rest ih => exact ih (ascending_insert h)

end Domains

end Blocklist
