/-
**Messages as lines.**

A line sink writes the record of a message, which is the bytes of its text, and a line feed. A
record holds no line feed (`lineFeed_not_mem_record`) and is read back as its message
(`ofLine?_record`). No record ends in another record (`eq_nil_of_append_record`): a quote right
behind a brace is where an object starts or where a text and its object end. So a line that ends in
a record tells whether something stands before it.
-/

import Arcade.Sink.Lines
import Arcade.Proofs.Json.Printable
import Arcade.Proofs.Message.RoundTrip
import Arcade.Proofs.Text.Utf8

namespace Arcade

open Json Text

/-! ### Lines -/

/-- The byte that ends a line. -/
def lineFeed : UInt8 := 10

/-- The lines that are ended among some bytes. -/
def linesOf (bytes : List UInt8) : List (List UInt8) := (bytes.splitOn lineFeed).dropLast

/-- Bytes that hold no line feed end no line. -/
theorem linesOf_eq_nil {bytes : List UInt8} (unended : lineFeed ∉ bytes) : linesOf bytes = [] := by
  rw [linesOf, List.splitOn_eq_singleton unended]
  rfl

/-- The first line ends at the first line feed. -/
theorem linesOf_append_cons {first rest : List UInt8} (unended : lineFeed ∉ first) :
    linesOf (first ++ lineFeed :: rest) = first :: linesOf rest := by
  rw [linesOf, List.splitOn_append_cons_self_of_not_mem unended,
    List.dropLast_cons_of_ne_nil (List.splitOn_ne_nil _ _)]
  rfl

namespace Message

/-- The bytes of a message's text. -/
def record (message : Message) : List UInt8 := LineSink.bytesOf message.render

/-- A message's record and the line feed behind it. -/
def line (message : Message) : List UInt8 := message.record ++ [lineFeed]

/-- The message that a line is read as, if it is one. -/
def ofLine? (line : List UInt8) : Option Message := do
  let content ← String.fromUTF8? line.toByteArray
  (readText Message.read content).toOption

variable {message : Message}

theorem record_eq (message : Message) : message.record = octets message.value.chars := by
  rw [record, LineSink.bytesOf, toList_toUTF8, render, Value.render, String.toList_ofList]

/-- **A message is read back from its record.** -/
theorem ofLine?_record (message : Message) : ofLine? message.record = some message := by
  rw [ofLine?, record_eq, fromUTF8?_octets]
  show (readText Message.read message.value.render).toOption = _
  rw [message.isReadBack.1]
  rfl

/-- **A record holds no line feed**, whatever the message's texts hold. -/
theorem lineFeed_not_mem_record (message : Message) : lineFeed ∉ message.record := by
  intro member
  rw [record_eq] at member
  obtain ⟨char, among, part⟩ := List.mem_flatMap.mp member
  have code : char.toNat = 10 := toNat_eq_of_mem part (by decide)
  have printed : 32 ≤ char.toNat := printed_chars message.value char among
  omega

/-! ### No record ends in another -/

/-- A record starts with a brace and a quote, and more than one brace follows. -/
theorem exists_chars : (message : Message) →
    ∃ rest, message.value.chars = '\x7b' :: '"' :: rest ∧ rest ≠ ['\x7d']
  | .frame _ => ⟨'f' :: _, rfl, by simp⟩
  | .started _ => ⟨'s' :: _, rfl, by simp⟩
  | .error _ => ⟨'e' :: _, rfl, by simp⟩

theorem record_ne_nil (message : Message) : message.record ≠ [] := by
  obtain ⟨rest, chars, -⟩ := message.exists_chars
  rw [record_eq, chars]
  exact List.cons_ne_nil _ _

/-- The brace at the start of a frame's text is the only one. -/
theorem brace_not_mem_frame (pixels : List UInt8) :
    '\x7b' ∉ (Message.frame pixels).value.chars.tail := by
  let items : List Value := pixels.map fun pixel => .natural pixel.toNat
  have plain : '\x7b' ∉ separated (itemChars items) := by
    intro member
    rcases mem_separated member with comma | ⟨part, among, member⟩
    · exact absurd comma (by decide)
    · rw [itemChars_eq_map, List.map_map] at among
      obtain ⟨pixel, -, rfl⟩ := List.mem_map.mp among
      exact absurd (isDigit_decimalDigits pixel.toNat _ member) (by decide)
  have tail : (Message.frame pixels).value.chars.tail =
      (quote "frame" ++ [':', '[']) ++ (separated (itemChars items) ++ [']', '\x7d']) := by
    simp [Message.value, Value.chars, entryChars, separated, items]
  rw [tail]
  intro member
  rcases List.mem_append.mp member with name | member
  · exact absurd name (by decide)
  · rcases List.mem_append.mp member with member | close
    · exact plain member
    · exact absurd close (by decide)

theorem chars_text (name content : String) :
    (Value.object [(name, .text content)]).chars = '\x7b' :: ((quote name ++ [':']) ++
      '"' :: (content.toList.flatMap escapeChar ++ ['"', '\x7d'])) := by
  simp [Value.chars, entryChars, separated, quote]

/-- In a message a brace with a quote behind it is the first thing or the last. -/
theorem brace_quote {front back : List Char}
    (chars : message.value.chars = front ++ '\x7b' :: '"' :: back) :
    front = [] ∨ back = ['\x7d'] := by
  cases front with
  | nil => exact .inl rfl
  | cons first front =>
    refine .inr ?_
    cases message with
    | frame pixels =>
      have member := brace_not_mem_frame pixels
      rw [chars] at member
      exact absurd List.mem_append_cons_self member
    | started id =>
      rw [value, SessionId.value, chars_text] at chars
      exact tail_of_labelled (by decide) (List.cons.inj chars).2
    | error reason =>
      rw [value, chars_text] at chars
      exact tail_of_labelled (by decide) (List.cons.inj chars).2

/-- **No record ends in another record**: nothing stands before a record that ends a record. -/
theorem eq_nil_of_append_record {other : Message} {front : List UInt8}
    (whole : other.record = front ++ message.record) : front = [] := by
  obtain ⟨rest, chars, long⟩ := message.exists_chars
  rw [record_eq, record_eq, chars] at whole
  -- Both marks are bytes below 128, so they are marks in the text of the other message.
  have brace : octets other.value.chars = front ++ 0x7b :: 0x22 :: octets rest := whole
  obtain ⟨before, after, split, rfl, behind⟩ := octets_split (by decide) brace
  have quote : octets after = [] ++ 0x22 :: octets rest := behind
  obtain ⟨gap, back, rfl, empty, same⟩ := octets_split (by decide) quote
  obtain rfl : gap = [] := octets_injective empty
  obtain rfl : back = rest := octets_injective same
  rcases brace_quote split with rfl | short
  · rfl
  · exact absurd short long

end Message

end Arcade
