import Mathlib.Data.List.Forall2
import Blocklist.Json.Token

/-! # Spellings of tokens

There are many ways to write a number or a string down. A fraction may follow the digits or not,
a character may stand for itself or behind a backslash, and hexadecimal digits are small or large.
The grammar of JSON says which texts are spellings of a numeral or a string. Each of them is cut off
as one token, whatever text comes after it. Only a number has to care about what comes after it.

* `Numeral.SpelledBy`, `SpellsString`: the texts of a numeral and of a string;
* `Numeral.scan_of_spelledBy`: all of a numeral is taken, and nothing of the text behind it;
* `scanString_of_spells`: a string ends at its own closing quote and no earlier;
* `Token.listAfter_of_spelledBy`, `Token.listAfter_of_spellsString`: one token and the tokens of the
  text behind it.
-/

namespace Blocklist.Json

/-! ## Numbers -/

/-- The character would belong to a number right before it. -/
def continuesNumber (c : Char) : Bool :=
  c.isDigit || c = '.' || c = 'e' || c = 'E'

/-- A number before the text is at its end. -/
def EndsNumber (text : List Char) : Prop :=
  ∀ c ∈ text.head?, continuesNumber c = false

theorem endsNumber_nil : EndsNumber [] := by
  intro c hc
  cases hc

theorem endsNumber_cons {c : Char} (text : List Char) (h : continuesNumber c = false) :
    EndsNumber (c :: text) := by
  intro d hd
  cases hd
  exact h

namespace Numeral

/-- Digits, and at least one of them. -/
def IsDigits (text : List Char) : Prop :=
  text ≠ [] ∧ ∀ c ∈ text, c.isDigit = true

/-- A fraction is a point and digits. -/
inductive SpellsFraction : Option (List Char) → List Char → Prop where
  | none : SpellsFraction none []
  | some {digits : List Char} (h : IsDigits digits) : SpellsFraction (some digits) ('.' :: digits)

/-- The sign of an exponent. A plus may be left out. -/
inductive SpellsSign : (minus : Bool) → List Char → Prop where
  | empty : SpellsSign false []
  | plus : SpellsSign false ['+']
  | minus : SpellsSign true ['-']

/-- An exponent is the letter, maybe a sign, and digits. -/
inductive SpellsExponent : Option (Bool × List Char) → List Char → Prop where
  | none : SpellsExponent none []
  | some {letter : Char} {minus : Bool} {sign digits : List Char}
      (hletter : letter = 'e' ∨ letter = 'E') (hsign : SpellsSign minus sign)
      (hdigits : IsDigits digits) :
      SpellsExponent (some (minus, digits)) (letter :: (sign ++ digits))

/-- The text writes the numeral down. Its whole part begins with a zero only if that is all of
it. -/
inductive SpelledBy : Numeral → List Char → Prop where
  | parts {negative : Bool} {whole fractionText exponentText : List Char}
      {fraction : Option (List Char)} {exponent : Option (Bool × List Char)}
      (hwhole : IsDigits whole) (hzero : whole.head? = some '0' → whole = ['0'])
      (hfraction : SpellsFraction fraction fractionText)
      (hexponent : SpellsExponent exponent exponentText) :
      SpelledBy ⟨negative, whole, fraction, exponent⟩
        ((if negative then ['-'] else []) ++ (whole ++ (fractionText ++ exponentText)))

/-- Digits are taken up to the first character that is none. -/
theorem takeWhile_of_isDigits {digits rest : List Char} (h : IsDigits digits)
    (hrest : ∀ c ∈ rest.head?, c.isDigit = false) :
    (digits ++ rest).takeWhile Char.isDigit = digits := by
  have hnone : rest.takeWhile Char.isDigit = [] := by
    cases rest with
    | nil => rfl
    | cons c more => rw [List.takeWhile_cons_of_neg (by simp [hrest c rfl])]
  rw [List.takeWhile_append_of_pos h.2, hnone, List.append_nil]

theorem isWhole_of_isDigits {whole : List Char} (h : IsDigits whole)
    (hzero : whole.head? = some '0' → whole = ['0']) : isWhole whole = true := by
  unfold isWhole
  split
  · exact absurd rfl h.1
  · rfl
  · rename_i hne
    exact absurd (hzero rfl) fun heq => hne (List.cons.inj heq).2
  · rfl

/-- Digits begin with a digit, so with none of the other characters of a number. -/
theorem exists_cons_of_isDigits {digits : List Char} (h : IsDigits digits) :
    ∃ c more, digits = c :: more ∧ c.isDigit = true := by
  cases digits with
  | nil => exact absurd rfl h.1
  | cons c more => exact ⟨c, more, rfl, h.2 c List.mem_cons_self⟩

section Parts

variable {rest : List Char} (hrest : EndsNumber rest)

include hrest

theorem not_isDigit_of_endsNumber : ∀ c ∈ rest.head?, c.isDigit = false := by
  intro c hc
  have hends := hrest c hc
  simp only [continuesNumber, Bool.or_eq_false_iff] at hends
  exact hends.1.1.1

/-- The digits of an exponent are read up to the end of the number. -/
theorem scanExponent_of_spells {exponent : Option (Bool × List Char)} {text : List Char}
    (h : SpellsExponent exponent text) :
    scanExponent (text ++ rest) = some (exponent, text.length) := by
  cases h with
  | none =>
    cases rest with
    | nil => rfl
    | cons c more =>
      have hc : ¬ (c = 'e' ∨ c = 'E') := by
        rintro (rfl | rfl)
        · exact absurd (hrest 'e' rfl) (by decide)
        · exact absurd (hrest 'E' rfl) (by decide)
      exact if_neg hc
  | @some letter minus sign digits hletter hsign hdigits =>
    have htake := takeWhile_of_isDigits hdigits (not_isDigit_of_endsNumber hrest)
    have hne := hdigits.1
    unfold scanExponent
    rw [List.cons_append]
    simp only [if_pos hletter]
    cases hsign with
    | empty =>
      -- Without a sign the first character is a digit, so it is not taken for a sign.
      obtain ⟨c, more, rfl, hc⟩ := exists_cons_of_isDigits hdigits
      simp only [List.nil_append, List.cons_append] at htake ⊢
      split
      · rename_i heq
        cases heq
        exact absurd hc (by decide)
      · rename_i heq
        cases heq
        exact absurd hc (by decide)
      · simp [htake]
    | plus => simp [htake, hne]
    | minus => simp [htake, hne]

/-- What follows the digits before it is a letter, or the end of the number. -/
theorem starts_of_spellsExponent {exponent : Option (Bool × List Char)} {text : List Char}
    (h : SpellsExponent exponent text) :
    ∀ c ∈ (text ++ rest).head?, c.isDigit = false ∧ c ≠ '.' := by
  intro c hc
  cases h with
  | none =>
    refine ⟨not_isDigit_of_endsNumber hrest c hc, ?_⟩
    rintro rfl
    exact absurd (hrest '.' hc) (by decide)
  | some hletter hsign hdigits =>
    cases hc
    rcases hletter with rfl | rfl <;> decide

end Parts

section Fraction

variable {rest : List Char} (hrest : ∀ c ∈ rest.head?, c.isDigit = false ∧ c ≠ '.')

include hrest

/-- The digits of a fraction are read up to the exponent. -/
theorem scanFraction_of_spells {fraction : Option (List Char)} {text : List Char}
    (h : SpellsFraction fraction text) :
    scanFraction (text ++ rest) = some (fraction, text.length) := by
  cases h with
  | none =>
    unfold scanFraction
    split
    · rename_i more heq
      rw [List.nil_append] at heq
      subst heq
      exact absurd rfl (hrest '.' rfl).2
    · rfl
  | some hdigits =>
    have htake := takeWhile_of_isDigits hdigits fun c hc => (hrest c hc).1
    rw [List.cons_append, scanFraction]
    simp [htake, hdigits.1]

theorem not_isDigit_of_spellsFraction {fraction : Option (List Char)} {text : List Char}
    (h : SpellsFraction fraction text) : ∀ c ∈ (text ++ rest).head?, c.isDigit = false := by
  intro c hc
  cases h with
  | none => exact (hrest c hc).1
  | some hdigits =>
    cases hc
    rfl

end Fraction

/-- All of a numeral is taken, and nothing of the text behind it. -/
theorem scan_of_spelledBy {n : Numeral} {text rest : List Char} (h : n.SpelledBy text)
    (hrest : EndsNumber rest) : scan (text ++ rest) = some (n, text.length) := by
  cases h with
  | @parts negative whole fractionText exponentText fraction exponent hwhole hzero hfraction
      hexponent =>
    -- Each part ends where the next one begins, since that one does not begin with a digit.
    have hend := starts_of_spellsExponent hrest hexponent
    have htake := takeWhile_of_isDigits hwhole (not_isDigit_of_spellsFraction hend hfraction)
    have hdrop : (whole ++ (fractionText ++ (exponentText ++ rest))).drop whole.length =
        fractionText ++ (exponentText ++ rest) := List.drop_left
    have hdrop' : (fractionText ++ (exponentText ++ rest)).drop fractionText.length =
        exponentText ++ rest := List.drop_left
    have hscan := scanFraction_of_spells hend hfraction
    have hscan' := scanExponent_of_spells hrest hexponent
    have hisWhole := isWhole_of_isDigits hwhole hzero
    cases negative with
    | true =>
      simp [scan, htake, hdrop, hdrop', hscan, hscan', hisWhole]
      omega
    | false =>
      -- A digit is no sign, so that the whole part begins with it.
      have hminus : ∀ more, whole ++ (fractionText ++ (exponentText ++ rest)) ≠ '-' :: more := by
        obtain ⟨c, digits, rfl, hc⟩ := exists_cons_of_isDigits hwhole
        intro more heq
        cases heq
        exact absurd hc (by decide)
      show scan ((whole ++ (fractionText ++ exponentText)) ++ rest) = _
      rw [List.append_assoc, List.append_assoc]
      unfold scan
      split
      rename_i negative signs text heq
      split at heq
      · rename_i hcons
        exact absurd hcons (hminus _)
      · cases heq
        simp [htake, hisWhole, hdrop, hscan, hdrop', hscan']
        omega

/-- A numeral begins with a minus or a digit. -/
theorem exists_cons_of_spelledBy {n : Numeral} {text : List Char} (h : n.SpelledBy text) :
    ∃ c more, text = c :: more ∧ (c = '-' ∨ c.isDigit = true) := by
  cases h with
  | @parts negative whole fractionText exponentText fraction exponent hwhole hzero hfraction
      hexponent =>
    cases negative with
    | true => exact ⟨'-', _, rfl, .inl rfl⟩
    | false =>
      obtain ⟨c, more, rfl, hc⟩ := exists_cons_of_isDigits hwhole
      exact ⟨c, _, rfl, .inr hc⟩

end Numeral

/-! ## Strings -/

/-- The character is a hexadecimal digit, small or large. -/
def IsHexDigit (n : Nat) (c : Char) : Prop :=
  n < 16 ∧ (c = n.digitChar ∨ c = n.digitChar.toUpper)

/-- Four hexadecimal digits spell a code unit. -/
inductive SpellsUnit : Nat → List Char → Prop where
  | digits {n₁ n₂ n₃ n₄ : Nat} {a b c d : Char} (ha : IsHexDigit n₁ a) (hb : IsHexDigit n₂ b)
      (hc : IsHexDigit n₃ c) (hd : IsHexDigit n₄ d) :
      SpellsUnit (16 * (16 * (16 * n₁ + n₂) + n₃) + n₄) [a, b, c, d]

/-- The letters and marks that may stand behind a backslash, with the characters they stand for. -/
def shortEscapes : List (Char × Char) :=
  [('"', '"'), ('\\', '\\'), ('/', '/'), ('b', '\x08'), ('f', '\x0c'), ('n', '\n'),
   ('r', '\r'), ('t', '\t')]

/-- Code unit that begins the pair for a character above the first 65536. -/
def leadingUnit (c : Char) : Nat :=
  0xd800 + (c.toNat - 0x10000) / 1024

/-- Code unit that ends the pair. -/
def trailingUnit (c : Char) : Nat :=
  0xdc00 + (c.toNat - 0x10000) % 1024

/-- The text stands for the character inside of a string. -/
inductive SpellsChar (c : Char) : List Char → Prop where
  /-- The character itself. -/
  | plain (hcontrol : 0x20 ≤ c.toNat) (hquote : c ≠ '"') (hslash : c ≠ '\\') : SpellsChar c [c]
  | short {e : Char} (h : (e, c) ∈ shortEscapes) : SpellsChar c ['\\', e]
  | unit {digits : List Char} (h : SpellsUnit c.toNat digits) :
      SpellsChar c ('\\' :: 'u' :: digits)
  | pair {high low : List Char} (hc : 0x10000 ≤ c.toNat) (hhigh : SpellsUnit (leadingUnit c) high)
      (hlow : SpellsUnit (trailingUnit c) low) :
      SpellsChar c ('\\' :: 'u' :: (high ++ '\\' :: 'u' :: low))

/-- The text is the string between quotes, each of its characters spelled in one of the ways. -/
def SpellsString (s : String) (text : List Char) : Prop :=
  ∃ pieces, List.Forall₂ SpellsChar s.toList pieces ∧ text = '"' :: (pieces.flatten ++ ['"'])

/-- The elements of a string stand for the character, whatever elements come after them. -/
def StandFor (units : List TextUnit) (c : Char) : Prop :=
  ∀ more, unitChars? (units ++ more) = (unitChars? more).map (c :: ·)

theorem standFor_char (c : Char) : StandFor [.char c] c :=
  fun _ => rfl

/-- A character is no half of a surrogate pair. -/
theorem isLeading_toNat (c : Char) : isLeading c.toNat = false := by
  unfold isLeading
  have hvalid : c.toNat < 0xd800 ∨ 0xdfff < c.toNat ∧ c.toNat < 0x110000 := c.valid
  simp only [Bool.and_eq_false_iff, decide_eq_false_iff_not]
  omega

theorem isTrailing_toNat (c : Char) : isTrailing c.toNat = false := by
  unfold isTrailing
  have hvalid : c.toNat < 0xd800 ∨ 0xdfff < c.toNat ∧ c.toNat < 0x110000 := c.valid
  simp only [Bool.and_eq_false_iff, decide_eq_false_iff_not]
  omega

/-- A code unit that is a character by itself is taken as that character. -/
theorem standFor_unit (c : Char) : StandFor [.unit c.toNat] c := by
  intro more
  -- What comes next decides whether a pair is looked for. There is none to be found.
  cases more with
  | nil =>
    simp only [List.append_nil, unitChars?, isLeading_toNat, isTrailing_toNat, Bool.or_self,
      Bool.false_eq_true, if_false, Char.ofNat_toNat]
  | cons u more =>
    rw [List.cons_append, List.nil_append]
    conv_lhs => unfold unitChars?
    cases u with
    | char d =>
      simp only [isLeading_toNat, isTrailing_toNat, Bool.or_self, Bool.false_eq_true, if_false,
        Char.ofNat_toNat]
    | unit low =>
      simp only [isLeading_toNat, isTrailing_toNat, Bool.false_eq_true, if_false,
        Char.ofNat_toNat]

/-- A pair of code units is taken as the character that it was made of. -/
theorem standFor_pair {c : Char} (h : 0x10000 ≤ c.toNat) :
    StandFor [.unit (leadingUnit c), .unit (trailingUnit c)] c := by
  have hvalid : c.toNat < 0xd800 ∨ 0xdfff < c.toNat ∧ c.toNat < 0x110000 := c.valid
  have hleading : isLeading (leadingUnit c) = true := by
    unfold isLeading leadingUnit
    simp only [Bool.and_eq_true, decide_eq_true_eq]
    omega
  have htrailing : isTrailing (trailingUnit c) = true := by
    unfold isTrailing trailingUnit
    simp only [Bool.and_eq_true, decide_eq_true_eq]
    omega
  have hcode : 0x10000 + 1024 * (leadingUnit c - 0xd800) + (trailingUnit c - 0xdc00) = c.toNat := by
    unfold leadingUnit trailingUnit
    omega
  intro more
  rw [List.cons_append, List.cons_append, List.nil_append, unitChars?, if_pos hleading,
    if_pos htrailing, hcode, Char.ofNat_toNat]

theorem hexDigit?_of_isHexDigit {n : Nat} {c : Char} (h : IsHexDigit n c) :
    Text.hexDigit? c = some n := by
  have hdigits : ∀ n < 16, Text.hexDigit? n.digitChar = some n ∧
      Text.hexDigit? n.digitChar.toUpper = some n := by decide
  obtain ⟨hn, rfl | rfl⟩ := h
  · exact (hdigits n hn).1
  · exact (hdigits n hn).2

theorem length_of_spellsUnit {code : Nat} {digits : List Char} (h : SpellsUnit code digits) :
    digits.length = 4 := by
  cases h
  rfl

theorem scanString_unit {code : Nat} {digits : List Char} (h : SpellsUnit code digits)
    (rest : List Char) :
    scanString ('\\' :: 'u' :: (digits ++ rest)) =
      (scanString rest).map fun (units, n) => (.unit code :: units, n + 6) := by
  cases h with
  | @digits n₁ n₂ n₃ n₄ a b c d ha hb hc hd =>
    have hcode : hexUnit? a b c d = some (16 * (16 * (16 * n₁ + n₂) + n₃) + n₄) := by
      simp [hexUnit?, Text.hexNumber?, hexDigit?_of_isHexDigit ha, hexDigit?_of_isHexDigit hb,
        hexDigit?_of_isHexDigit hc, hexDigit?_of_isHexDigit hd]
    simp only [List.cons_append, List.nil_append]
    rw [scanString, hcode]
    cases scanString rest <;> rfl

theorem scanString_short {e c : Char} (h : (e, c) ∈ shortEscapes) (rest : List Char) :
    scanString ('\\' :: e :: rest) =
      (scanString rest).map fun (units, n) => (.char c :: units, n + 2) := by
  have hescape : ∀ p ∈ shortEscapes, shortEscape? p.1 = some p.2 ∧ p.1 ≠ 'u' := by decide
  obtain ⟨hc, hu⟩ := hescape _ h
  rw [scanString]
  · simp only [hc]
    cases scanString rest <;> rfl
  · intro a b c d more heq _
    exact hu heq

theorem scanString_plain {c : Char} (hcontrol : 0x20 ≤ c.toNat) (hquote : c ≠ '"')
    (hslash : c ≠ '\\') (rest : List Char) :
    scanString (c :: rest) =
      (scanString rest).map fun (units, n) => (.char c :: units, n + 1) := by
  have hplain : ¬ (c.toNat < 0x20 ∨ c = '\\') := by
    rintro (hlow | heq)
    · omega
    · exact hslash heq
  rw [scanString]
  · rw [if_neg hplain]
    cases scanString rest <;> rfl
  · exact hquote
  · intro a b c d more heq _
    exact hslash heq
  · intro e more heq _
    exact hslash heq

/-- Whichever way a character is spelled, the same character is read. -/
theorem scanString_of_spellsChar {c : Char} {text : List Char} (h : SpellsChar c text) :
    ∃ units, StandFor units c ∧ ∀ rest, scanString (text ++ rest) =
      (scanString rest).map fun (more, n) => (units ++ more, n + text.length) := by
  cases h with
  | plain hcontrol hquote hslash =>
    exact ⟨[.char c], standFor_char c, scanString_plain hcontrol hquote hslash⟩
  | short h => exact ⟨[.char c], standFor_char c, scanString_short h⟩
  | unit h =>
    refine ⟨[.unit c.toNat], standFor_unit c, ?_⟩
    intro rest
    rw [List.length_cons, List.length_cons, length_of_spellsUnit h]
    exact scanString_unit h rest
  | @pair high low hc hhigh hlow =>
    refine ⟨[.unit (leadingUnit c), .unit (trailingUnit c)], standFor_pair hc, ?_⟩
    intro rest
    have hscan := scanString_unit hhigh ('\\' :: 'u' :: (low ++ rest))
    rw [scanString_unit hlow rest] at hscan
    simp only [List.cons_append, List.append_assoc, hscan, List.length_cons, List.length_append,
      length_of_spellsUnit hhigh, length_of_spellsUnit hlow, Option.map_map]
    rfl

/-- A string is read up to its closing quote, and its characters come out. -/
theorem scanString_of_forall₂ {chars : List Char} {pieces : List (List Char)}
    (h : List.Forall₂ SpellsChar chars pieces) (rest : List Char) :
    ∃ units, unitChars? units = some chars ∧
      scanString (pieces.flatten ++ '"' :: rest) = some (units, pieces.flatten.length + 1) := by
  induction h with
  | nil => exact ⟨[], rfl, rfl⟩
  | @cons c piece chars pieces hpiece hpieces ih =>
    obtain ⟨more, hmore, hscan⟩ := ih
    obtain ⟨units, hunits, hstep⟩ := scanString_of_spellsChar hpiece
    refine ⟨units ++ more, ?_, ?_⟩
    · rw [hunits more, hmore]
      rfl
    · rw [List.flatten_cons, List.append_assoc, hstep, hscan, List.length_append]
      simp only [Option.map_some, Option.some.injEq, Prod.mk.injEq, true_and]
      omega

/-! ## Tokens -/

namespace Token

/-- The characters of the token before are passed over. -/
theorem listAfter_append (word rest : List Char) :
    listAfter word.length (word ++ rest) = listAfter 0 rest := by
  induction word with
  | nil => rfl
  | cons c word ih => exact ih

/-- White space before a token. -/
theorem listAfter_space {spaces : List Char} (h : ∀ c ∈ spaces, isSpace c = true)
    (rest : List Char) : listAfter 0 (spaces ++ rest) = listAfter 0 rest := by
  induction spaces with
  | nil => rfl
  | cons c spaces ih =>
    have hc : isSpace c = true := h c List.mem_cons_self
    calc listAfter 0 (c :: (spaces ++ rest))
        = listAfter 0 (spaces ++ rest) := by
          rw [listAfter]
          exact if_pos hc
      _ = listAfter 0 rest := ih fun d hd => h d (List.mem_cons_of_mem c hd)

/-- A token that takes all of `word` is followed by the tokens of the text behind it. -/
theorem listAfter_cons {c : Char} {word rest : List Char} {token : Token}
    (hc : isSpace c = false) (h : scan c (word ++ rest) = some (token, word.length)) :
    listAfter 0 (c :: (word ++ rest)) = token :: listAfter 0 rest := by
  rw [listAfter]
  simp only [hc, h, listAfter_append]
  rfl

/-- A string is one token, however it is spelled. -/
theorem listAfter_of_spellsString {s : String} {text : List Char} (h : SpellsString s text)
    (rest : List Char) : listAfter 0 (text ++ rest) = .string (some s) :: listAfter 0 rest := by
  obtain ⟨pieces, hpieces, rfl⟩ := h
  obtain ⟨units, hunits, hscan⟩ := scanString_of_forall₂ hpieces rest
  have hword : (pieces.flatten ++ ['"']) ++ rest = pieces.flatten ++ '"' :: rest := by simp
  apply listAfter_cons (by decide)
  unfold scan
  rw [hword, hscan]
  simp [hunits]

/-- Only a number begins with a minus or a digit. -/
theorem scan_of_sign_or_digit {c : Char} (h : c = '-' ∨ c.isDigit = true) (rest : List Char) :
    scan c rest = (Numeral.scan (c :: rest)).map fun (numeral, n) => (number numeral, n - 1) := by
  unfold scan
  split <;> first | rfl | exact absurd h (by decide)

theorem isSpace_of_sign_or_digit {c : Char} (h : c = '-' ∨ c.isDigit = true) :
    isSpace c = false := by
  unfold isSpace
  simp only [Bool.or_eq_false_iff, decide_eq_false_iff_not]
  refine ⟨⟨⟨?_, ?_⟩, ?_⟩, ?_⟩ <;> (rintro rfl; exact absurd h (by decide))

/-- A number is one token, as long as nothing behind it belongs to it. -/
theorem listAfter_of_spelledBy {n : Numeral} {text rest : List Char} (h : n.SpelledBy text)
    (hrest : EndsNumber rest) :
    listAfter 0 (text ++ rest) = .number n :: listAfter 0 rest := by
  have hscan := Numeral.scan_of_spelledBy h hrest
  obtain ⟨c, more, rfl, hc⟩ := Numeral.exists_cons_of_spelledBy h
  apply listAfter_cons (isSpace_of_sign_or_digit hc)
  rw [scan_of_sign_or_digit hc, ← List.cons_append, hscan]
  simp

/-- A word that stands for a truth value. -/
theorem listAfter_bool (b : Bool) (rest : List Char) :
    listAfter 0 ((if b then "true" else "false").toList ++ rest) = .bool b :: listAfter 0 rest := by
  cases b <;> rfl

end Token

end Blocklist.Json
