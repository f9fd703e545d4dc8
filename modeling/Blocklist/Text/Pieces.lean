/-! # Cutting texts at a mark and joining them

`pieces` cuts a text at every mark, `cutAt` at the first one only, `after?` takes off a known
start, `withoutEnd` takes off the marks at the end, `slashed?` takes off a pair of slashes, and
`joined` puts texts together with a separator between them.
-/

namespace Blocklist.Text

/-- The stretches between the marks, in order. There is one more of them than there are marks. -/
def pieces (mark : Char) : List Char → List (List Char)
  | [] => [[]]
  | c :: rest =>
    if c = mark then [] :: pieces mark rest
    else match pieces mark rest with
      | [] => [[c]]
      | piece :: more => (c :: piece) :: more

/-- What stands before and after the first mark, when there is one. -/
def cutAt (mark : Char) : List Char → Option (List Char × List Char)
  | [] => none
  | c :: rest =>
    if c = mark then some ([], rest)
    else (cutAt mark rest).map fun cut => (c :: cut.1, cut.2)

/-- What follows `start` in a text that begins with it. -/
def after? : (start text : List Char) → Option (List Char)
  | [], text => some text
  | _ :: _, [] => none
  | s :: start, c :: text => if s = c then after? start text else none

/-- The text without the marks at its end. -/
def withoutEnd (mark : Char) (cs : List Char) : List Char :=
  (cs.reverse.dropWhile (· = mark)).reverse

/-- What stands between a slash at the start and a slash at the end, when that is not empty. -/
def slashed? : List Char → Option (List Char)
  | '/' :: rest =>
    if rest.getLast? = some '/' ∧ rest.dropLast ≠ [] then some rest.dropLast else none
  | _ => none

/-- The texts one after the other, with `separator` between each two of them. -/
def joined (separator : String) : List String → String
  | [] => ""
  | [text] => text
  | text :: next :: more => text ++ separator ++ joined separator (next :: more)

/-- A text is cut at its first mark. -/
theorem cutAt_eq_some_iff {mark : Char} {cs left right : List Char} :
    cutAt mark cs = some (left, right) ↔ cs = left ++ mark :: right ∧ mark ∉ left := by
  induction cs generalizing left with
  | nil => simp [cutAt]
  | cons c rest ih =>
    by_cases hc : c = mark
    · subst hc
      cases left with
      | nil => simp [cutAt, eq_comm]
      | cons d left =>
        simp only [cutAt, if_true, Option.some.injEq, Prod.mk.injEq, reduceCtorEq, false_and,
          List.cons_append, List.cons.injEq, List.mem_cons, not_or, false_iff, not_and]
        exact fun h hd => absurd h.1 hd
    · cases left with
      | nil => simp [cutAt, hc]
      | cons d left =>
        simp only [cutAt, hc, if_false, Option.map_eq_some_iff, Prod.exists, Prod.mk.injEq,
          List.cons.injEq, List.cons_append, List.mem_cons, not_or]
        constructor
        · rintro ⟨a, b, h, ⟨rfl, rfl⟩, rfl⟩
          rcases ih.1 h with ⟨rfl, hm⟩
          exact ⟨⟨rfl, rfl⟩, fun he => hc he.symm, hm⟩
        · rintro ⟨⟨rfl, rfl⟩, _, hm⟩
          exact ⟨left, right, ih.2 ⟨rfl, hm⟩, ⟨rfl, rfl⟩, rfl⟩

/-- Nothing is cut where there is no mark. -/
theorem cutAt_eq_none_iff {mark : Char} {cs : List Char} : cutAt mark cs = none ↔ mark ∉ cs := by
  induction cs with
  | nil => simp [cutAt]
  | cons c rest ih =>
    by_cases hc : c = mark
    · simp [cutAt, hc]
    · simp [cutAt, hc, ih, Ne.symm hc]

theorem after?_eq_some_iff {start text rest : List Char} :
    after? start text = some rest ↔ text = start ++ rest := by
  induction start generalizing text with
  | nil => simp [after?]
  | cons s start ih =>
    cases text with
    | nil => simp [after?]
    | cons c text =>
      by_cases h : s = c
      · simp [after?, h, ih]
      · simp [after?, h, Ne.symm h]

theorem slashed?_eq_some_iff {text inside : List Char} :
    slashed? text = some inside ↔ text = '/' :: (inside ++ ['/']) ∧ inside ≠ [] := by
  constructor
  · intro h
    unfold slashed? at h
    split at h
    · next rest =>
      split at h
      · next hrest =>
        rcases List.getLast?_eq_some_iff.1 hrest.1 with ⟨front, rfl⟩
        simp_all
      · exact absurd h (by simp)
    · exact absurd h (by simp)
  · rintro ⟨rfl, hne⟩
    simp [slashed?, hne]

theorem pieces_ne_nil (mark : Char) (cs : List Char) : pieces mark cs ≠ [] := by
  cases cs with
  | nil => simp [pieces]
  | cons c rest =>
    unfold pieces
    split
    · simp
    · split <;> simp

/-- A text without the mark is its only piece. -/
theorem pieces_eq_singleton {mark : Char} {cs : List Char} (h : mark ∉ cs) :
    pieces mark cs = [cs] := by
  induction cs with
  | nil => rfl
  | cons c rest ih =>
    have hc : c ≠ mark := fun hc => h (hc ▸ List.mem_cons_self)
    have hrest : mark ∉ rest := fun hmem => h (List.mem_cons_of_mem c hmem)
    rw [pieces, if_neg hc, ih hrest]

/-- A mark between two texts keeps their pieces apart. -/
theorem pieces_append (mark : Char) (left right : List Char) :
    pieces mark (left ++ mark :: right) = pieces mark left ++ pieces mark right := by
  induction left with
  | nil => simp [pieces]
  | cons c left ih =>
    rw [List.cons_append]
    by_cases hc : c = mark
    · simp [pieces, hc, ih]
    · simp only [pieces, if_neg hc, ih]
      match h : pieces mark left with
      | [] => exact absurd h (pieces_ne_nil mark left)
      | piece :: more => rfl

/-- Texts that do not hold the separator can be told apart again when they are joined by it. -/
theorem pieces_joined {separator : String} {mark : Char} (hseparator : separator.toList = [mark])
    {texts : List String} (hne : texts ≠ []) (h : ∀ text ∈ texts, mark ∉ text.toList) :
    pieces mark (joined separator texts).toList = texts.map String.toList := by
  induction texts with
  | nil => exact absurd rfl hne
  | cons text rest ih =>
    obtain ⟨htext, hrest⟩ := List.forall_mem_cons.mp h
    cases rest with
    | nil => exact pieces_eq_singleton htext
    | cons next more =>
      have hlist : (joined separator (text :: next :: more)).toList =
          text.toList ++ mark :: (joined separator (next :: more)).toList := by
        rw [joined, String.toList_append, String.toList_append, hseparator, List.append_assoc,
          List.singleton_append]
      rw [hlist, pieces_append, pieces_eq_singleton htext, ih (List.cons_ne_nil _ _) hrest]
      rfl

/-- No piece holds the mark. -/
theorem not_mem_of_mem_pieces {mark : Char} {cs piece : List Char} (h : piece ∈ pieces mark cs) :
    mark ∉ piece := by
  induction cs generalizing piece with
  | nil => simp_all [pieces]
  | cons c rest ih =>
    unfold pieces at h
    split at h
    · rcases List.mem_cons.1 h with rfl | h
      · simp
      · exact ih h
    · next hc =>
      split at h
      · next hnil => exact absurd hnil (pieces_ne_nil mark rest)
      · next first more heq =>
        rcases List.mem_cons.1 h with rfl | h
        · have := ih (heq ▸ List.mem_cons_self)
          simp only [List.mem_cons, not_or]
          exact ⟨fun he => hc he.symm, this⟩
        · exact ih (heq ▸ List.mem_cons_of_mem _ h)

end Blocklist.Text
