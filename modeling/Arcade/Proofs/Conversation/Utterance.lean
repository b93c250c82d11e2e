/-
**What may be said.**

A line is looked at without the blanks around it. What it is can be said for each kind of line by
itself (`Utterance.Fits`), without an order in which the kinds are tried, and what a line of a kind
leads to, too (`Utterance.LeadsTo`). The kinds do not meet: no word of a command, and no text that
asks for a program, is a text in JSON, since its first letter starts no value.

* `Json.Value.ofText_of_stops`: a text whose first character starts no token is no value;
* `Utterance.exists_fits_iff`: every line is of one kind;
* `Utterance.leadsTo_iff`: a line of a kind has one effect, the one that it is given.
-/

import Arcade.Conversation.Basic
import Arcade.OrderedEntries

namespace Arcade

/-! ### Texts that are no values -/

namespace Json

theorem lexOnto_broken (reversed : List Token) (chars : List Char) :
    lexOnto ⟨.broken, reversed⟩ chars = ⟨.broken, reversed⟩ := by
  induction chars with
  | nil => rfl
  | cons _ rest ih => exact ih

/-- **A text whose first character starts no token is no value.** -/
theorem Value.ofText_of_stops {first : Char} (rest : List Char)
    (stops : lexStep ⟨.between, []⟩ first = ⟨.broken, []⟩) :
    Value.ofText (String.ofList (first :: rest)) = .error .malformed := by
  have nothing : Json.tokens (first :: rest) = [.malformed] := by
    have read : lexOnto ⟨.between, []⟩ (first :: rest) = ⟨.broken, []⟩ := by
      rw [← lexOnto_broken [] rest, ← stops]
      rfl
    rw [Json.tokens, read]
    rfl
  simp only [Value.ofText, Document.ofText, String.toList_ofList, nothing]
  rfl

theorem Value.ofText_empty : Value.ofText "" = .error .malformed := rfl

end Json

/-! ### Kinds of lines -/

/-- What a line may be. -/
inductive Utterance where
  | silence
  | quit
  | pause
  | stats
  /-- A program is asked for. -/
  | rom (name : String)
  /-- A value in JSON with a member "key". -/
  | keyed (value : Json.Value)
  /-- Another value in JSON. -/
  | keyless (value : Json.Value)
  /-- Anything else. -/
  | noise

/-- Whether a value is an object with a member of a name. -/
def Json.Value.HasMember (key : String) (value : Json.Value) : Prop :=
  ∃ entries, value = .object entries ∧ key ∈ entries.map Prod.fst

theorem Json.Value.hasMember_iff (key : String) (value : Json.Value) :
    value.HasMember key ↔ (value.entry? key).isSome = true := by
  cases value with
  | object entries =>
    have looked : entries.lookup key = none ↔ key ∉ entries.map Prod.fst := lookup_eq_none_iff
    rw [Json.Value.entry?, Option.isSome_iff_ne_none, Ne, looked, Classical.not_not]
    exact ⟨fun ⟨_, same, member⟩ => by cases same; exact member, fun member => ⟨_, rfl, member⟩⟩
  | _ => exact ⟨fun ⟨_, same, _⟩ => (by cases same), fun found => (by cases found)⟩

namespace Utterance

/-- How a text starts that asks for a program. -/
def asking : List Char := ['r', 'o', 'm', ' ']

/-- Whether a text without blanks around it is of a kind. -/
def Fits (chars : List Char) : Utterance → Prop
  | .silence => chars = []
  | .quit => chars = ['q', 'u', 'i', 't']
  | .pause => chars = ['p', 'a', 'u', 's', 'e']
  | .stats => chars = ['s', 't', 'a', 't', 's']
  | .rom name => ∃ rest, chars = asking ++ rest ∧ name = String.ofList (Text.trimmed rest)
  | .keyed value =>
    Json.Value.ofText (String.ofList chars) = .ok value ∧ value.HasMember "key"
  | .keyless value =>
    Json.Value.ofText (String.ofList chars) = .ok value ∧ ¬ value.HasMember "key"
  | .noise =>
    chars ≠ [] ∧ chars ≠ ['q', 'u', 'i', 't'] ∧ chars ≠ ['p', 'a', 'u', 's', 'e'] ∧
      chars ≠ ['s', 't', 'a', 't', 's'] ∧ (∀ rest, chars ≠ asking ++ rest) ∧
        ∀ value, Json.Value.ofText (String.ofList chars) ≠ .ok value

/-- What a line of a kind leads to: what is asked of the session, if it is anything. -/
inductive LeadsTo (settings : Settings) (read : FileReader) (seed : UInt64) :
    Utterance → Effect → Prop
  | silence : LeadsTo settings read seed .silence .nothing
  | quit : LeadsTo settings read seed .quit .leave
  | pause : LeadsTo settings read seed .pause (.ask .toggle)
  | stats : LeadsTo settings read seed .stats .report
  /-- A program of the catalog whose file can be read. -/
  | rom {name entry program} (known : settings.roms.lookup? name = some entry)
      (loads : entry.load read = .ok program) :
    LeadsTo settings read seed (.rom name) (.ask (.changeRom program seed))
  /-- A program of the catalog whose file cannot be read. -/
  | unloadable {name entry cause} (known : settings.roms.lookup? name = some entry)
      (fails : entry.load read = .error cause) : LeadsTo settings read seed (.rom name) .nothing
  | unknown {name} (absent : settings.roms.lookup? name = none) :
    LeadsTo settings read seed (.rom name) .nothing
  | press {value event} (decodes : Json.readValue KeyEvent.read value = .ok event) :
    LeadsTo settings read seed (.keyed value) (.ask (.press event))
  | badEvent {value flaw} (fails : Json.readValue KeyEvent.read value = .error flaw) :
    LeadsTo settings read seed (.keyed value) .nothing
  | change {value wish} (decodes : Json.readValue ParamChange.read value = .ok wish) :
    LeadsTo settings read seed (.keyless value) (.ask (.change wish))
  | badChange {value flaw} (fails : Json.readValue ParamChange.read value = .error flaw) :
    LeadsTo settings read seed (.keyless value) .nothing
  | noise : LeadsTo settings read seed .noise .nothing

/-! ### One kind each -/

variable {chars : List Char}

/-- **Every text is of one kind.** -/
theorem exists_fits_iff (chars : List Char) :
    ∃ utterance : Utterance, ∀ other, other.Fits chars ↔ other = utterance := by
  have stops (first : Char) (rest : List Char)
      (stop : Json.lexStep ⟨.between, []⟩ first = ⟨.broken, []⟩) :=
    Json.Value.ofText_of_stops rest stop
  by_cases empty : chars = []
  · subst empty
    exact ⟨.silence, fun other => by cases other <;> simp [Fits, asking, Json.Value.ofText_empty]⟩
  by_cases quit : chars = ['q', 'u', 'i', 't']
  · subst quit
    have none := stops 'q' ['u', 'i', 't'] rfl
    exact ⟨.quit, fun other => by cases other <;> simp [Fits, asking, none]⟩
  by_cases pause : chars = ['p', 'a', 'u', 's', 'e']
  · subst pause
    have none := stops 'p' ['a', 'u', 's', 'e'] rfl
    exact ⟨.pause, fun other => by cases other <;> simp [Fits, asking, none]⟩
  by_cases stats : chars = ['s', 't', 'a', 't', 's']
  · subst stats
    have none := stops 's' ['t', 'a', 't', 's'] rfl
    exact ⟨.stats, fun other => by cases other <;> simp [Fits, asking, none]⟩
  by_cases asks : ∃ rest, chars = asking ++ rest
  · obtain ⟨rest, rfl⟩ := asks
    have none := stops 'r' (['o', 'm', ' '] ++ rest) rfl
    exact ⟨.rom (String.ofList (Text.trimmed rest)), fun other => by
      cases other <;> simp_all [Fits, asking]⟩
  -- what is left is told apart by whether it is a value
  rw [not_exists] at asks
  cases read : Json.Value.ofText (String.ofList chars) with
  | error flaw =>
    exact ⟨.noise, fun other => by
      cases other <;> simp [Fits, read, empty, quit, pause, stats, asks]⟩
  | ok value =>
    by_cases member : value.HasMember "key"
    · refine ⟨.keyed value, fun other => ?_⟩
      cases other with
      | keyed found =>
        simp only [Fits, read, Except.ok.injEq, keyed.injEq]
        exact ⟨fun fits => fits.1.symm, fun same => ⟨same.symm, same ▸ member⟩⟩
      | keyless found =>
        simp only [Fits, read, Except.ok.injEq, reduceCtorEq, iff_false, not_and, Classical.not_not]
        exact fun same => same ▸ member
      | _ => simp [Fits, read, empty, quit, pause, stats, asks]
    · refine ⟨.keyless value, fun other => ?_⟩
      cases other with
      | keyed found =>
        simp only [Fits, read, Except.ok.injEq, reduceCtorEq, iff_false, not_and]
        exact fun same => same ▸ member
      | keyless found =>
        simp only [Fits, read, Except.ok.injEq, keyless.injEq]
        exact ⟨fun fits => fits.1.symm, fun same => ⟨same.symm, same ▸ member⟩⟩
      | _ => simp [Fits, read, empty, quit, pause, stats, asks]

/-! ### One effect each -/

/-- A text is of one kind. -/
theorem Fits.unique {one two : Utterance} (fits : one.Fits chars) (also : two.Fits chars) :
    one = two := by
  obtain ⟨utterance, only⟩ := exists_fits_iff chars
  exact ((only one).mp fits).trans ((only two).mp also).symm

theorem toList_of_ofList {text : String} (equal : String.ofList chars = text) :
    chars = text.toList := by
  rw [← equal, String.toList_ofList]

/-- A text that asks for a program. -/
theorem ofTrimmed_asking (rest : List Char) :
    Command.ofTrimmed (asking ++ rest) = .rom (String.ofList (Text.trimmed rest)) := by
  unfold Command.ofTrimmed
  split
  case h_5 => rfl
  all_goals
    rename_i equal
    cases toList_of_ofList equal

/-- A text that is no word of a command and asks for no program is a message. -/
theorem ofTrimmed_of_message {utterance : Utterance} (fits : utterance.Fits chars)
    (wordless : utterance ≠ .silence ∧ utterance ≠ .quit ∧ utterance ≠ .pause ∧
      utterance ≠ .stats) (asks : ∀ name, utterance ≠ .rom name) :
    Command.ofTrimmed chars = Command.ofMessage (String.ofList chars) := by
  obtain ⟨spoken, stays, runs, uncounted⟩ := wordless
  unfold Command.ofTrimmed
  split
  · rename_i equal
    have said : Fits chars .silence := toList_of_ofList equal
    exact absurd (fits.unique said) spoken
  · rename_i equal
    have said : Fits chars .quit := toList_of_ofList equal
    exact absurd (fits.unique said) stays
  · rename_i equal
    have said : Fits chars .pause := toList_of_ofList equal
    exact absurd (fits.unique said) runs
  · rename_i equal
    have said : Fits chars .stats := toList_of_ofList equal
    exact absurd (fits.unique said) uncounted
  · split
    · rename_i name _ _ _ _
      have asked : Fits (asking ++ name) (.rom (String.ofList (Text.trimmed name))) :=
        ⟨name, rfl, rfl⟩
      exact absurd (fits.unique asked) (asks _)
    · rfl

variable {settings : Settings} {read : FileReader} {seed : UInt64} {utterance : Utterance}
  {effect : Effect}

/-- A line leads to one thing. -/
theorem LeadsTo.unique {other : Effect} (leads : utterance.LeadsTo settings read seed effect)
    (also : utterance.LeadsTo settings read seed other) : effect = other := by
  cases leads <;> cases also <;> simp_all

/-- What a program that is asked for leads to. -/
theorem leadsTo_rom (name : String) :
    (rom name).LeadsTo settings read seed ((Command.rom name).effect settings read seed) := by
  cases known : settings.roms.lookup? name with
  | none =>
    simp only [Command.effect, Settings.program?, known, bind, Option.bind]
    exact .unknown known
  | some entry =>
    cases loads : entry.load read with
    | error cause =>
      simp only [Command.effect, Settings.program?, known, loads, Except.toOption, bind,
        Option.bind]
      exact .unloadable known loads
    | ok program =>
      simp only [Command.effect, Settings.program?, known, loads, Except.toOption, bind,
        Option.bind]
      exact .rom known loads

/-- What a key event leads to, if it is one. -/
theorem leadsTo_keyed {content : String} {value : Json.Value}
    (found : Json.Value.ofText content = .ok value) (member : value.HasMember "key") :
    (keyed value).LeadsTo settings read seed
      ((Command.ofMessage content).effect settings read seed) := by
  rw [Json.Value.hasMember_iff] at member
  cases decodes : Json.readValue KeyEvent.read value with
  | error flaw =>
    simp only [Command.ofMessage, found, member, decodes, if_true, Command.effect]
    exact .badEvent decodes
  | ok event =>
    simp only [Command.ofMessage, found, member, decodes, if_true, Command.effect]
    exact .press decodes

/-- What a parameter change leads to, if it is one. -/
theorem leadsTo_keyless {content : String} {value : Json.Value}
    (found : Json.Value.ofText content = .ok value) (absent : ¬ value.HasMember "key") :
    (keyless value).LeadsTo settings read seed
      ((Command.ofMessage content).effect settings read seed) := by
  rw [Json.Value.hasMember_iff] at absent
  cases decodes : Json.readValue ParamChange.read value with
  | error flaw =>
    simp only [Command.ofMessage, found, absent, decodes, Command.effect]
    exact .badChange decodes
  | ok wish =>
    simp only [Command.ofMessage, found, absent, decodes, Command.effect]
    exact .change decodes

/-- A line leads to the effect that it is given. -/
theorem leadsTo_effect (fits : utterance.Fits chars) :
    utterance.LeadsTo settings read seed
      ((Command.ofTrimmed chars).effect settings read seed) := by
  cases utterance with
  | silence => cases fits; exact .silence
  | quit => cases fits; exact .quit
  | pause => cases fits; exact .pause
  | stats => cases fits; exact .stats
  | rom name =>
    obtain ⟨rest, rfl, rfl⟩ := fits
    rw [ofTrimmed_asking]
    exact leadsTo_rom _
  | keyed value =>
    rw [ofTrimmed_of_message fits (by simp) (by simp)]
    exact leadsTo_keyed fits.1 fits.2
  | keyless value =>
    rw [ofTrimmed_of_message fits (by simp) (by simp)]
    exact leadsTo_keyless fits.1 fits.2
  | noise =>
    rw [ofTrimmed_of_message fits (by simp) (by simp), Command.ofMessage]
    obtain ⟨-, -, -, -, -, unread⟩ := fits
    cases found : Json.Value.ofText (String.ofList chars) with
    | error flaw => exact .noise
    | ok value => exact absurd found (unread value)

/-- **A line of a kind has one effect, the one that it is given.** -/
theorem leadsTo_iff (fits : utterance.Fits chars) :
    utterance.LeadsTo settings read seed effect ↔
      effect = (Command.ofTrimmed chars).effect settings read seed :=
  ⟨fun leads => leads.unique (leadsTo_effect fits), fun same => same ▸ leadsTo_effect fits⟩

end Utterance

end Arcade
