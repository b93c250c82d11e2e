/-
**What the text of a value is made of.**

A character of a text between quotes is printed as it is or as an escape (`Escape`), so the text of
a value holds no control character, and no line feed above all (`printed_chars`). A quote that is
not escaped ends its text. So where a text is the last thing in an object, a brace with a quote
behind it can only stand at the very end (`tail_of_brace_quote`).
-/

import Arcade.Proofs.Json.Tokens

namespace Arcade.Json

/-- Whether a character is printed: it is no control character. -/
def IsPrinted (char : Char) : Prop := 32 ≤ char.toNat

instance (char : Char) : Decidable (IsPrinted char) := inferInstanceAs (Decidable (32 ≤ char.toNat))

/-- What the characters of a given text are made of can be computed. -/
theorem printed_of_all {chars : List Char} (all : chars.all (fun char => decide (IsPrinted char))) :
    ∀ char ∈ chars, IsPrinted char :=
  fun char member => of_decide_eq_true (List.all_eq_true.mp all char member)

/-! ### Texts between quotes -/

/-- How a character stands in a text: as it is, if it is printed and no quote, or as an escape,
whose characters behind the backslash are printed and no opening braces. -/
inductive Escape (char : Char) : List Char → Prop where
  | plain (printed : IsPrinted char) (unquoted : char ≠ '"') : Escape char [char]
  | escaped {rest : List Char} (printed : ∀ other ∈ rest, IsPrinted other)
      (unbraced : '\x7b' ∉ rest) : Escape char ('\\' :: rest)

theorem escape_control : ∀ code < 32, ∃ rest, escapeChar (Char.ofNat code) = '\\' :: rest ∧
    (∀ other ∈ rest, IsPrinted other) ∧ '\x7b' ∉ rest := by
  have each : ∀ code < 32, (escapeChar (Char.ofNat code)).head? = some '\\' ∧
      (escapeChar (Char.ofNat code)).tail.all (fun other => decide (IsPrinted other)) ∧
      '\x7b' ∉ (escapeChar (Char.ofNat code)).tail := by decide
  intro code small
  obtain ⟨head, printed, unbraced⟩ := each code small
  exact ⟨_, List.eq_cons_of_mem_head? head, printed_of_all printed, unbraced⟩

theorem escape_escapeChar (char : Char) : Escape char (escapeChar char) := by
  by_cases control : char.toNat < 32
  · obtain ⟨rest, escape, printed, unbraced⟩ := escape_control char.toNat control
    rw [Char.ofNat_toNat] at escape
    rw [escape]
    exact .escaped printed unbraced
  · unfold escapeChar
    split
    case isTrue => exact .escaped (printed_of_all rfl) (by decide)
    case isFalse unquoted =>
      split
      case isTrue => exact .escaped (printed_of_all rfl) (by decide)
      case isFalse => exact .plain (Nat.le_of_not_lt control) unquoted

namespace Escape

variable {char : Char} {chars : List Char}

theorem isPrinted (escape : Escape char chars) : ∀ other ∈ chars, IsPrinted other := by
  cases escape with
  | plain printed => simpa using printed
  | escaped printed => exact List.forall_mem_cons.mpr ⟨by decide, printed⟩

/-- No character in a text starts with a quote. -/
theorem ne_quote {rest : List Char} (escape : Escape char ('"' :: rest)) : False := by
  cases escape with
  | plain _ unquoted => exact unquoted rfl

/-- A brace in a text stands for itself. -/
theorem brace {front back : List Char} (escape : Escape char (front ++ '\x7b' :: back)) :
    front = [] ∧ back = [] := by
  generalize whole : front ++ '\x7b' :: back = chars at escape
  cases escape with
  | plain =>
    obtain ⟨rfl, -, rfl⟩ | ⟨_, -, absent⟩ := List.append_eq_cons_iff.mp whole
    · exact ⟨rfl, rfl⟩
    · simp at absent
  | escaped _ unbraced =>
    cases front with
    | nil => simp at whole
    | cons first front =>
      obtain ⟨-, rfl⟩ := List.cons.inj whole
      exact absurd List.mem_append_cons_self unbraced

end Escape

theorem printed_quote (content : String) : ∀ char ∈ quote content, IsPrinted char := by
  intro char member
  rw [quote, List.mem_append, List.mem_cons, List.mem_singleton, List.mem_flatMap] at member
  rcases member with (rfl | ⟨origin, -, member⟩) | rfl
  · decide
  · exact (escape_escapeChar origin).isPrinted char member
  · decide

/-- **A quote that is not escaped ends its text**: behind a brace it can only stand at the end. -/
theorem tail_of_brace_quote {content front back : List Char}
    (text : content.flatMap escapeChar ++ ['"', '\x7d'] = front ++ '\x7b' :: '"' :: back) :
    back = ['\x7d'] := by
  induction content generalizing front with
  | nil =>
    rcases front with _ | ⟨first, _ | ⟨second, _ | ⟨third, front⟩⟩⟩ <;> simp at text
  | cons char rest ih =>
    rw [List.flatMap_cons, List.append_assoc] at text
    -- The brace stands behind the first character, or within what that is written as.
    rcases List.append_eq_append_iff.mp text with ⟨front', -, apart⟩ | ⟨part, escape, apart⟩
    · exact ih apart
    · cases part with
      | nil => exact @ih [] apart.symm
      | cons brace part =>
        obtain ⟨rfl, behind⟩ := List.cons.inj apart
        obtain ⟨-, rfl⟩ := Escape.brace (escape ▸ escape_escapeChar char)
        -- So the brace is the first character, and no other can start with the quote behind it.
        cases rest with
        | nil => exact (List.cons.inj behind).2
        | cons next rest =>
          have unquoted := escape_escapeChar next
          cases shown : escapeChar next with
          | nil => rw [shown] at unquoted; cases unquoted
          | cons first more =>
            rw [List.flatMap_cons, shown] at behind
            obtain ⟨rfl, -⟩ := List.cons.inj behind
            exact (shown ▸ unquoted).ne_quote.elim

/-- So it is if something without a brace stands before the text. -/
theorem tail_of_labelled {label content front back : List Char} (unbraced : '\x7b' ∉ label)
    (text : label ++ '"' :: (content.flatMap escapeChar ++ ['"', '\x7d']) =
      front ++ '\x7b' :: '"' :: back) :
    back = ['\x7d'] := by
  rcases List.append_eq_append_iff.mp text with ⟨front', -, apart⟩ | ⟨part, rfl, apart⟩
  · cases front' with
    | nil => simp at apart
    | cons quote front' => exact tail_of_brace_quote (List.cons.inj apart).2
  · cases part with
    | nil => simp at apart
    | cons brace part =>
      obtain ⟨rfl, -⟩ := List.cons.inj apart
      exact absurd List.mem_append_cons_self unbraced

/-! ### Values -/

/-- What stands between commas is one of them or in one of the parts. -/
theorem mem_separated {char : Char} {parts : List (List Char)} (member : char ∈ separated parts) :
    char = ',' ∨ ∃ part ∈ parts, char ∈ part := by
  induction parts with
  | nil => cases member
  | cons part rest ih =>
    cases rest with
    | nil => exact .inr ⟨part, List.mem_singleton.mpr rfl, member⟩
    | cons second rest =>
      rcases List.mem_append.mp member with first | member
      · exact .inr ⟨part, List.mem_cons_self, first⟩
      · rcases List.mem_cons.mp member with comma | member
        · exact .inl comma
        · rcases ih member with comma | ⟨other, among, member⟩
          · exact .inl comma
          · exact .inr ⟨other, List.mem_cons_of_mem _ among, member⟩

theorem printed_of_isDigit {char : Char} (digit : char.isDigit = true) : IsPrinted char := by
  simp only [Char.isDigit, Bool.and_eq_true, decide_eq_true_eq] at digit
  have least : 48 ≤ char.toNat := digit.1
  show 32 ≤ char.toNat
  omega

theorem printed_integerChars (value : Int) : ∀ char ∈ integerChars value, IsPrinted char := by
  have digits (number : Nat) : ∀ char ∈ decimalDigits number, IsPrinted char :=
    fun char member => printed_of_isDigit (isDigit_decimalDigits number char member)
  cases value with
  | ofNat number => exact digits number
  | negSucc number => exact List.forall_mem_cons.mpr ⟨by decide, digits _⟩

theorem printed_number : (number : Number) → ∀ char ∈ number.chars, IsPrinted char
  | .integer value => printed_integerChars value
  | .decimal negative magnitude => by
    have sign : ∀ char ∈ (if negative then ['-'] else []), IsPrinted char := by
      cases negative <;> exact printed_of_all rfl
    exact List.forall_mem_append.mpr
      ⟨List.forall_mem_append.mpr ⟨sign, printed_integerChars (.ofNat magnitude.significand)⟩,
        List.forall_mem_cons.mpr ⟨by decide, printed_integerChars magnitude.exponent⟩⟩

theorem printed_separated {parts : List (List Char)}
    (each : ∀ part ∈ parts, ∀ char ∈ part, IsPrinted char) :
    ∀ char ∈ separated parts, IsPrinted char := by
  intro char member
  rcases mem_separated member with rfl | ⟨part, among, member⟩
  · decide
  · exact each part among char member

/-- The items of an array are written one by one. -/
theorem itemChars_eq_map (items : List Value) : itemChars items = items.map Value.chars := by
  induction items with
  | nil => rfl
  | cons item rest ih => rw [itemChars, ih, List.map_cons]

mutual

/-- **The text of a value holds no control character**, whatever characters its texts hold. -/
theorem printed_chars : (value : Value) → ∀ char ∈ value.chars, IsPrinted char
  | .null => printed_of_all rfl
  | .boolean true => printed_of_all rfl
  | .boolean false => printed_of_all rfl
  | .number value => printed_number value
  | .text content => printed_quote content
  | .array items => List.forall_mem_append.mpr
      ⟨List.forall_mem_cons.mpr ⟨by decide, printed_separated (printed_items items)⟩,
        printed_of_all rfl⟩
  | .object entries => List.forall_mem_append.mpr
      ⟨List.forall_mem_cons.mpr ⟨by decide, printed_separated (printed_entries entries)⟩,
        printed_of_all rfl⟩

theorem printed_items : (items : List Value) →
    ∀ part ∈ itemChars items, ∀ char ∈ part, IsPrinted char
  | [] => by simp [itemChars]
  | item :: rest => List.forall_mem_cons.mpr ⟨printed_chars item, printed_items rest⟩

theorem printed_entries : (entries : List (String × Value)) →
    ∀ part ∈ entryChars entries, ∀ char ∈ part, IsPrinted char
  | [] => by simp [entryChars]
  | (key, value) :: rest => List.forall_mem_cons.mpr
      ⟨List.forall_mem_append.mpr
          ⟨printed_quote key, List.forall_mem_cons.mpr ⟨by decide, printed_chars value⟩⟩,
        printed_entries rest⟩

end

end Arcade.Json
