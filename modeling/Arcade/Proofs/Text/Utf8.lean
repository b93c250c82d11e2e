/-
**Texts and their bytes.**

The bytes of a text are those of its characters in UTF-8 (`octets`). A byte below 128 is a character
of its own and no part of any other, so where such a byte stands among the bytes of a text, the text
itself can be taken apart.

* `toList_toUTF8`, `fromUTF8?_octets`: from texts to bytes and back;
* `toNat_eq_of_mem`: a byte below 128 belongs to the character with its number only;
* `octets_split`: taking a text apart at such a byte.
-/

import Mathlib.Data.List.Basic

namespace Arcade.Text

/-- The bytes of some characters. -/
def octets (chars : List Char) : List UInt8 := chars.flatMap String.utf8EncodeChar

theorem octets_cons (char : Char) (rest : List Char) :
    octets (char :: rest) = String.utf8EncodeChar char ++ octets rest := rfl

/-! ### Bytes of texts -/

theorem toList_loop (bytes : ByteArray) (place : Nat) (reversed : List UInt8) :
    ByteArray.toList.loop bytes place reversed =
      reversed.reverse ++ bytes.data.toList.drop place := by
  fun_induction ByteArray.toList.loop bytes place reversed with
  | case1 place reversed inside ih =>
    have short : place < bytes.data.toList.length := inside
    have byte : bytes.get! place = bytes.data.toList[place] :=
      getElem!_pos bytes.data place inside
    rw [ih, List.drop_eq_getElem_cons short, byte, List.reverse_cons, List.append_assoc]
    rfl
  | case2 place reversed outside =>
    rw [List.drop_eq_nil_of_le (Nat.le_of_not_lt outside), List.append_nil]

theorem toList_toByteArray (bytes : List UInt8) : bytes.toByteArray.toList = bytes := by
  rw [ByteArray.toList, toList_loop]
  simp

/-- The bytes of a text are those of its characters. -/
theorem toList_toUTF8 (content : String) : content.toUTF8.toList = octets content.toList := by
  rw [String.toUTF8_eq_toByteArray, ← String.utf8Encode_toList, List.utf8Encode,
    toList_toByteArray]
  rfl

/-- **A text is read back from its bytes.** -/
theorem fromUTF8?_octets (chars : List Char) :
    String.fromUTF8? (octets chars).toByteArray = some (String.ofList chars) :=
  dif_pos ByteArray.isValidUTF8_utf8Encode

/-- Texts with the same bytes are the same. -/
theorem octets_injective {first second : List Char} (same : octets first = octets second) :
    first = second := by
  have texts := fromUTF8?_octets first
  rw [same, fromUTF8?_octets second] at texts
  exact (String.ofList_injective (Option.some.inj texts)).symm

/-! ### Bytes that are characters -/

/-- A byte below 128 belongs to the character with its number only. -/
theorem toNat_eq_of_mem {char : Char} {byte : UInt8} (member : byte ∈ String.utf8EncodeChar char)
    (small : byte.toNat < 128) : char.toNat = byte.toNat := by
  show char.val.toNat = byte.toNat
  rw [String.utf8EncodeChar] at member
  split at member
  case isTrue short =>
    obtain rfl := List.mem_singleton.mp member
    rw [UInt8.toNat_ofNat']
    omega
  case isFalse =>
    -- All bytes of a longer character are at least 128.
    exfalso
    split at member
    case' isFalse => split at member
    all_goals
      simp only [List.mem_cons, List.not_mem_nil, or_false] at member
      rcases member with rfl | rfl | rfl | rfl <;> rw [UInt8.toNat_ofNat'] at small <;> omega

/-- A character below 128 is one byte. -/
theorem utf8EncodeChar_of_lt {char : Char} (small : char.toNat < 128) :
    String.utf8EncodeChar char = [UInt8.ofNat char.toNat] :=
  if_pos (Nat.le_of_lt_succ small)

/-- **A text can be taken apart where a byte below 128 stands.** -/
theorem octets_split {chars : List Char} {front back : List UInt8} {byte : UInt8}
    (small : byte.toNat < 128) (bytes : octets chars = front ++ byte :: back) :
    ∃ before after, chars = before ++ Char.ofNat byte.toNat :: after ∧
      octets before = front ∧ octets after = back := by
  induction chars generalizing front with
  | nil => exact absurd bytes (by simp [octets])
  | cons char rest ih =>
    have onward {front' : List UInt8} (apart : octets rest = front' ++ byte :: back) :
        ∃ before after, char :: rest = before ++ Char.ofNat byte.toNat :: after ∧
          octets before = String.utf8EncodeChar char ++ front' ∧ octets after = back := by
      obtain ⟨before, after, whole, left, right⟩ := ih apart
      exact ⟨char :: before, after, by rw [whole]; rfl, by rw [octets_cons, left], right⟩
    rw [octets_cons] at bytes
    -- The byte stands behind the first character, or it is one of that character's bytes.
    rcases List.append_eq_append_iff.mp bytes with ⟨front', rfl, apart⟩ | ⟨part, encoded, apart⟩
    · exact onward apart
    · cases part with
      | nil =>
        obtain rfl : String.utf8EncodeChar char = front := by simpa using encoded
        simpa using @onward [] (by simpa using apart.symm)
      | cons first part =>
        obtain ⟨rfl, rfl⟩ := List.cons.inj apart
        have code : char.toNat = byte.toNat := toNat_eq_of_mem (by simp [encoded]) small
        rw [utf8EncodeChar_of_lt (by omega)] at encoded
        obtain ⟨rfl, -, rfl⟩ : front = [] ∧ _ ∧ part = [] := by
          simpa [List.append_eq_cons_iff, eq_comm] using encoded
        exact ⟨[], rest, by rw [← code, Char.ofNat_toNat]; rfl, rfl, rfl⟩

end Arcade.Text
