/-
**The tokens of a value's text.**

A value has a list of tokens (`Value.tokens`), which are what its text is read as. Reading goes on
behind a number until a character comes that does not belong to it, so a text that ends in a number
leaves the number open (`LexState.Behind`); the next punctuation mark, or the end, closes it.

* `lex_escapeChar`: a character of a text is read back from what it is written as;
* `reads_quote` and `reads_integer`: texts and integers are read as their tokens;
* `reads_value`: so are all values whose integers are stored exactly;
* `tokens_chars`: the tokens of a value's text are the value's tokens.
-/

import Mathlib.Data.List.Forall2
import Arcade.Json.Token

namespace Arcade.Json

/-! ### Tokens of a value -/

/-- Puts a comma between the parts of a list of tokens. -/
def separatedTokens : List (List Token) → List Token
  | [] => []
  | [part] => part
  | part :: rest => part ++ .comma :: separatedTokens rest

mutual

/-- The tokens of a value. -/
def Value.tokens : Value → List Token
  | .null => [.null]
  | .boolean value => [.boolean value]
  | .number value => [.number value]
  | .text value => [.text (some value)]
  | .array items => .openBracket :: separatedTokens (itemTokens items) ++ [.closeBracket]
  | .object entries => .openBrace :: separatedTokens (entryTokens entries) ++ [.closeBrace]

/-- The tokens of each item of an array. -/
def itemTokens : List Value → List (List Token)
  | [] => []
  | item :: rest => item.tokens :: itemTokens rest

/-- The tokens of each entry of an object. -/
def entryTokens : List (String × Value) → List (List Token)
  | [] => []
  | (key, value) :: rest => (.text (some key) :: .colon :: value.tokens) :: entryTokens rest

end

/-- Whether a number is read back from its text: it is an integer that is stored exactly. -/
def Number.IsExact : Number → Prop
  | .integer value => exactRange value = true
  | .decimal _ _ => False

mutual

/-- Whether all numbers of a value are read back from their texts. -/
def Value.IsExact : Value → Prop
  | .null | .boolean _ | .text _ => True
  | .number value => value.IsExact
  | .array items => ItemsExact items
  | .object entries => EntriesExact entries

/-- Whether all numbers of some items are read back from their texts. -/
def ItemsExact : List Value → Prop
  | [] => True
  | item :: rest => item.IsExact ∧ ItemsExact rest

/-- Whether all numbers of some entries are read back from their texts. -/
def EntriesExact : List (String × Value) → Prop
  | [] => True
  | (_, value) :: rest => value.IsExact ∧ EntriesExact rest

end

/-! ### Reading whole tokens -/

/-- Where reading stands behind some whole tokens, the latest first: between two tokens, or at the
end of a number, which the next character may still belong to. -/
inductive LexState.Behind : LexState → List Token → Prop where
  | between (reversed : List Token) : Behind ⟨.between, reversed⟩ reversed
  | number {partialNumber : PartialNumber} (reversed : List Token)
      (whole : partialNumber.phase = .zero ∨ partialNumber.phase = .whole) :
      Behind ⟨.number partialNumber, reversed⟩ (.number partialNumber.value :: reversed)

/-- The token of a mark that may come behind a value. -/
def closingMark? : Char → Option Token
  | ',' => some .comma
  | ']' => some .closeBracket
  | '\x7d' => some .closeBrace
  | _ => none

/-- Some characters are read as some tokens. -/
def Reads (chars : List Char) (read : List Token) : Prop :=
  ∀ reversed, (lexOnto ⟨.between, reversed⟩ chars).Behind (read.reverse ++ reversed)

/-- Some characters are read as some tokens, the last of which is closed. -/
def ReadsClosed (chars : List Char) (read : List Token) : Prop :=
  ∀ reversed, lexOnto ⟨.between, reversed⟩ chars = ⟨.between, read.reverse ++ reversed⟩

variable {chars more : List Char} {read later : List Token}

theorem lexOnto_cons (state : LexState) (char : Char) (rest : List Char) :
    lexOnto state (char :: rest) = lexOnto (lexStep state char) rest := rfl

/-- At the end of the text the tokens are known. -/
theorem LexState.Behind.finish {state : LexState} {reversed : List Token}
    (behind : state.Behind reversed) : state.finish = reversed.reverse := by
  cases behind with
  | between => rfl
  | number reversed whole =>
    have final : ∀ phase, phase = NumberPhase.zero ∨ phase = .whole → phase.isFinal = true := by
      rintro _ (rfl | rfl) <;> rfl
    simp only [LexState.finish, final _ whole, if_true]

/-- A mark behind a value closes it. -/
theorem LexState.Behind.mark {state : LexState} {reversed : List Token} {char : Char}
    {token : Token} (behind : state.Behind reversed) (marks : closingMark? char = some token) :
    lexStep state char = ⟨.between, token :: reversed⟩ := by
  unfold closingMark? at marks
  split at marks
  case h_4 => cases marks
  all_goals
    cases marks
    cases behind with
    | between => rfl
    | number reversed whole =>
      rcases whole with phase | phase <;>
        simp [lexStep, PartialNumber.step, phase, Char.isDigit] <;> rfl

theorem ReadsClosed.reads (closed : ReadsClosed chars read) : Reads chars read := by
  intro reversed
  rw [closed reversed]
  exact .between _

theorem reads_nil : Reads [] [] := fun reversed => .between reversed

theorem ReadsClosed.append (first : ReadsClosed chars read) (second : Reads more later) :
    Reads (chars ++ more) (read ++ later) := by
  intro reversed
  rw [lexOnto_append, first reversed, List.reverse_append, List.append_assoc]
  exact second _

theorem Reads.mark {char : Char} {token : Token} (first : Reads chars read)
    (marks : closingMark? char = some token) : ReadsClosed (chars ++ [char]) (read ++ [token]) := by
  intro reversed
  rw [lexOnto_append, List.reverse_append]
  exact (first reversed).mark marks

/-- Parts are read one after another, and the commas between them. -/
theorem reads_separated {parts : List (List Char)} {partTokens : List (List Token)}
    (each : List.Forall₂ Reads parts partTokens) :
    Reads (separated parts) (separatedTokens partTokens) := by
  induction each with
  | nil => exact reads_nil
  | cons first others ih =>
    cases others with
    | nil => exact first
    | cons second others =>
      have closed : ReadsClosed (_ ++ [',']) (_ ++ [.comma]) := first.mark rfl
      simpa [separated, separatedTokens] using closed.append ih

/-! ### Texts -/

variable {partialText : PartialText} {reversed : List Token}

theorem digitValue?_lowerDigits (digit : Nat) (small : digit < 16) :
    Text.digitValue? 16 (Text.lowerDigits.getD digit '0') = some digit := by
  revert digit
  decide

theorem lexStep_hex {first : Option Nat} {count value digit : Nat} (small : digit < 16) :
    lexStep ⟨.hex partialText first count value, reversed⟩ (Text.lowerDigits.getD digit '0') =
      if count = 3 then ⟨afterHex partialText first (value * 16 + digit), reversed⟩
      else ⟨.hex partialText first (count + 1) (value * 16 + digit), reversed⟩ := by
  simp only [lexStep, digitValue?_lowerDigits digit small]

/-- Four hexadecimal digits are read as their number. -/
theorem lex_hexDigits {number : Nat} (small : number < 65536) :
    lexOnto ⟨.hex partialText none 0 0, reversed⟩
        (Text.hexDigits Text.lowerDigits 4 number) =
      ⟨afterHex partialText none number, reversed⟩ := by
  have nibble : ∀ value, value % 16 < 16 := fun value => Nat.mod_lt value (by decide)
  have whole : (((0 * 16 + number / 16 / 16 / 16 % 16) * 16 + number / 16 / 16 % 16) * 16 +
      number / 16 % 16) * 16 + number % 16 = number := by omega
  show lexStep (lexStep (lexStep (lexStep _ _) _) _) _ = _
  rw [lexStep_hex (nibble _), if_neg (by decide), lexStep_hex (nibble _), if_neg (by decide),
    lexStep_hex (nibble _), if_neg (by decide), lexStep_hex (nibble _), if_pos rfl, whole]

theorem eq_ofNat_of_toNat {char : Char} {code : Nat} (same : char.toNat = code) :
    char = Char.ofNat code := by
  rw [← same, Char.ofNat_toNat]

/-- A character of a text is read back from what it is written as. -/
theorem lex_escapeChar (char : Char) :
    lexOnto ⟨.text partialText, reversed⟩ (escapeChar char) =
      ⟨.text (partialText.push char), reversed⟩ := by
  unfold escapeChar
  split
  case isTrue quoted =>
    subst quoted
    rfl
  case isFalse unquoted =>
  split
  case isTrue slanted =>
    subst slanted
    rfl
  case isFalse unslanted =>
  split
  case isTrue control =>
    split
    case h_1 letter escapes =>
      unfold escapeLetter? at escapes
      split at escapes
      case h_6 => cases escapes
      all_goals
        rename_i code
        cases escapes
        obtain rfl := eq_ofNat_of_toNat code
        rfl
    case h_2 =>
      have narrow : char.toNat < 65536 := by omega
      have start : lexOnto ⟨.text partialText, reversed⟩ ['\\', 'u'] =
          ⟨.hex partialText none 0 0, reversed⟩ := rfl
      have halves : isFirstHalf char.toNat = false ∧ isSecondHalf char.toNat = false := by
        simp only [isFirstHalf, isSecondHalf, Bool.and_eq_false_iff, decide_eq_false_iff_not]
        omega
      show lexOnto _ (['\\', 'u'] ++ Text.hexDigits Text.lowerDigits 4 char.toNat) = _
      rw [lexOnto_append, start, lex_hexDigits narrow]
      simp [afterHex, halves, Char.ofNat_toNat]
  case isFalse printed =>
    simp [lexOnto, lexStep, lexText, unquoted, unslanted, printed]

theorem lex_content (content : List Char) :
    lexOnto ⟨.text partialText, reversed⟩ (content.flatMap escapeChar) =
      ⟨.text { partialText with reversed := content.reverse ++ partialText.reversed },
        reversed⟩ := by
  induction content generalizing partialText with
  | nil => rfl
  | cons char rest ih =>
    rw [List.flatMap_cons, lexOnto_append, lex_escapeChar, ih]
    simp [PartialText.push]

/-- **A text is read back from what it is written as**, whatever characters it holds. -/
theorem reads_quote (content : String) : ReadsClosed (quote content) [.text (some content)] := by
  intro reversed
  show lexOnto ⟨.text ⟨[], true⟩, reversed⟩ (content.toList.flatMap escapeChar ++ ['"']) = _
  rw [lexOnto_append, lex_content]
  simp [lexOnto, lexStep, lexText, PartialText.token]

/-! ### Integers -/

theorem digitChar_ne_zero : ∀ digit < 10, 0 < digit → digit.digitChar ≠ '0' := by
  decide

/-- The digits of a number that is not zero start with another digit than zero. -/
theorem decimalDigits_eq_cons {number : Nat} (positive : 0 < number) :
    ∃ first rest, decimalDigits number = first :: rest ∧ first ≠ '0' := by
  induction number using Nat.strongRecOn with
  | _ number ih =>
    unfold decimalDigits
    by_cases short : number < 10
    · exact ⟨_, [], Nat.toDigits_of_lt_base short, digitChar_ne_zero number short positive⟩
    · obtain ⟨first, rest, digits, other⟩ := ih (number / 10) (by omega) (by omega)
      rw [Nat.toDigits_of_base_le (by decide) (by omega), ← decimalDigits, digits]
      exact ⟨first, _, rfl, other⟩

theorem isDigit_decimalDigits (number : Nat) :
    ∀ char ∈ decimalDigits number, char.isDigit = true :=
  fun _ member => Nat.isDigit_of_mem_toDigits (by decide) (by decide) member

theorem mem_digits {char : Char} (digit : char.isDigit = true) :
    char ∈ ['0', '1', '2', '3', '4', '5', '6', '7', '8', '9'] := by
  have listed : ∀ code < 58, (Char.ofNat code).isDigit = true →
      Char.ofNat code ∈ ['0', '1', '2', '3', '4', '5', '6', '7', '8', '9'] := by decide
  have small : char.toNat < 58 := by
    simp only [Char.isDigit, Bool.and_eq_true, decide_eq_true_eq] at digit
    exact Nat.lt_succ_of_le digit.2
  rw [← Char.ofNat_toNat char] at digit ⊢
  exact listed _ small digit

/-- A number may start with any digit but zero, with a sign before it or not. -/
theorem lex_firstDigit {first : Char} (digit : first.isDigit = true) (other : first ≠ '0') :
    lexOnto ⟨.between, reversed⟩ [first] =
        ⟨.number ⟨false, .whole, [first], [], false, []⟩, reversed⟩ ∧
      lexOnto ⟨.between, reversed⟩ ['-', first] =
        ⟨.number ⟨true, .whole, [first], [], false, []⟩, reversed⟩ := by
  have member := mem_digits digit
  simp only [List.mem_cons, List.not_mem_nil, or_false] at member
  rcases member with rfl | rfl | rfl | rfl | rfl | rfl | rfl | rfl | rfl | rfl
  · exact absurd rfl other
  all_goals exact ⟨rfl, rfl⟩

/-- A number goes on as long as digits come. -/
theorem lex_digits {partialNumber : PartialNumber} {digits : List Char}
    (each : ∀ char ∈ digits, char.isDigit = true) (whole : partialNumber.phase = .whole) :
    lexOnto ⟨.number partialNumber, reversed⟩ digits =
      ⟨.number { partialNumber with wholeDigits := digits.reverse ++ partialNumber.wholeDigits },
        reversed⟩ := by
  induction digits generalizing partialNumber with
  | nil => rfl
  | cons char rest ih =>
    obtain ⟨digit, others⟩ := List.forall_mem_cons.mp each
    have unlike : ∀ mark, mark.isDigit = false → (char == mark) = false := by
      intro mark unlike
      refine beq_false_of_ne ?_
      rintro rfl
      rw [digit] at unlike
      cases unlike
    have taken : partialNumber.step char =
        .more { partialNumber with wholeDigits := char :: partialNumber.wholeDigits } := by
      simp [PartialNumber.step, whole, digit, unlike '.' rfl, unlike 'e' rfl, unlike 'E' rfl]
    have next := @ih { partialNumber with wholeDigits := char :: partialNumber.wholeDigits }
      others whole
    rw [lexOnto_cons]
    simp only [lexStep, taken]
    rw [next]
    simp

/-- The digits of a number, as they are kept, stand for it. -/
theorem numberOfReversed_decimalDigits (number : Nat) :
    numberOfReversed (decimalDigits number).reverse = number := by
  rw [numberOfReversed, List.reverse_reverse]
  exact Nat.ofDigitChars_ten_toDigits

/-- A number of whole digits, read in full. -/
theorem value_whole (negative : Bool) (number : Nat) {value : Int}
    (stands : (if negative then -(number : Int) else number) = value)
    (signed : negative = true → 0 < number) (exact : exactRange value = true) :
    PartialNumber.value ⟨negative, .whole, (decimalDigits number).reverse, [], false, []⟩ =
      .integer value := by
  have plain : (negative && number == 0) = false := by
    cases negative with
    | false => rfl
    | true => simpa using Nat.ne_of_gt (signed rfl)
  simp only [PartialNumber.value, numberOfReversed_decimalDigits, stands, exact, plain,
    Bool.not_false, Bool.and_self, if_true]

/-- The digits of a number that is not zero are read, with a sign before them or not. -/
theorem lex_decimalDigits (negative : Bool) {number : Nat} (positive : 0 < number) :
    lexOnto ⟨.between, reversed⟩ ((if negative then ['-'] else []) ++ decimalDigits number) =
      ⟨.number ⟨negative, .whole, (decimalDigits number).reverse, [], false, []⟩, reversed⟩ := by
  obtain ⟨first, rest, digits, other⟩ := decimalDigits_eq_cons positive
  obtain ⟨digit, others⟩ := List.forall_mem_cons.mp (digits ▸ isDigit_decimalDigits number)
  obtain ⟨plain, signed⟩ := @lex_firstDigit reversed first digit other
  have start : lexOnto ⟨.between, reversed⟩ ((if negative then ['-'] else []) ++ [first]) =
      ⟨.number ⟨negative, .whole, [first], [], false, []⟩, reversed⟩ := by
    cases negative with
    | false => exact plain
    | true => exact signed
  rw [digits, show first :: rest = [first] ++ rest from rfl, ← List.append_assoc, lexOnto_append,
    start, lex_digits others rfl]
  simp

/-- **An integer that is stored exactly is read back from its digits.** -/
theorem reads_integer {value : Int} (exact : exactRange value = true) :
    Reads (integerChars value) [.number (.integer value)] := by
  intro reversed
  cases value with
  | ofNat number =>
    by_cases zero : number = 0
    · subst zero
      exact .number _ (.inl rfl)
    · have read : lexOnto ⟨.between, reversed⟩ (integerChars (.ofNat number)) = _ :=
        lex_decimalDigits false (Nat.pos_of_ne_zero zero)
      have stands : PartialNumber.value ⟨false, .whole, (decimalDigits number).reverse, [], false,
          []⟩ = .integer (.ofNat number) :=
        value_whole false number rfl (fun signed => by cases signed) exact
      rw [read, ← stands]
      exact .number _ (.inr rfl)
  | negSucc number =>
    have read : lexOnto ⟨.between, reversed⟩ (integerChars (.negSucc number)) = _ :=
      lex_decimalDigits true (Nat.succ_pos number)
    have stands : PartialNumber.value ⟨true, .whole, (decimalDigits (number + 1)).reverse, [],
        false, []⟩ = .integer (.negSucc number) :=
      value_whole true (number + 1) rfl (fun _ => Nat.succ_pos number) exact
    rw [read, ← stands]
    exact .number _ (.inr rfl)

/-! ### Values -/

theorem readsClosed_open : ReadsClosed ['['] [.openBracket] ∧ ReadsClosed ['\x7b'] [.openBrace] ∧
    ReadsClosed [':'] [.colon] :=
  ⟨fun _ => rfl, fun _ => rfl, fun _ => rfl⟩

mutual

/-- **A value whose numbers are read back is read as its tokens.** -/
theorem reads_value : (value : Value) → value.IsExact → Reads value.chars value.tokens
  | .null, _ => fun reversed => .between _
  | .boolean true, _ => fun reversed => .between _
  | .boolean false, _ => fun reversed => .between _
  | .number (.integer value), exact => reads_integer exact
  | .text content, _ => (reads_quote content).reads
  | .array items, exact => by
    have inner : ReadsClosed (_ ++ [']']) (_ ++ [.closeBracket]) :=
      (reads_separated (reads_items items exact)).mark rfl
    exact readsClosed_open.1.append inner.reads
  | .object entries, exact => by
    have inner : ReadsClosed (_ ++ ['\x7d']) (_ ++ [.closeBrace]) :=
      (reads_separated (reads_entries entries exact)).mark rfl
    exact readsClosed_open.2.1.append inner.reads

theorem reads_items : (items : List Value) → ItemsExact items →
    List.Forall₂ Reads (itemChars items) (itemTokens items)
  | [], _ => .nil
  | item :: rest, exact => .cons (reads_value item exact.1) (reads_items rest exact.2)

theorem reads_entries : (entries : List (String × Value)) → EntriesExact entries →
    List.Forall₂ Reads (entryChars entries) (entryTokens entries)
  | [], _ => .nil
  | (key, value) :: rest, exact => by
    have named : Reads (quote key ++ ([':'] ++ value.chars)) _ :=
      (reads_quote key).append (readsClosed_open.2.2.append (reads_value value exact.1))
    exact .cons named (reads_entries rest exact.2)

end

/-- **The tokens of a value's text are the value's tokens.** -/
theorem tokens_chars {value : Value} (exact : value.IsExact) :
    tokens value.chars = value.tokens := by
  rw [tokens, (reads_value value exact []).finish, List.append_nil, List.reverse_reverse]

end Arcade.Json
