/-
**Values and their documents.**

The tokens of a value build the value's tree, whatever containers are open around it
(`feedAll_tokens`). So the text of a value is a document with the value's tree and nothing behind it
(`document_render`), from which typed data is read (`readText_render`). The value itself is read
back if its containers are not nested too deep and the entries of its objects are in order
(`Value.ofText_render`), and then typed data may as well be read from it
(`readThroughValue_render`).
-/

import Arcade.Json.Reading
import Arcade.Proofs.Json.Tokens

namespace Arcade.Json

/-! ### Building trees -/

/-- The first item of an array starts like any other value. -/
theorem feedAll_firstItem (value : Value) (containers : List OpenContainer) :
    feedAll (.inside containers .firstItem) value.tokens =
      feedAll (.inside containers .value) value.tokens := by
  cases value <;> rfl

mutual

/-- **The tokens of a value build its tree**, whatever containers are open. -/
theorem feedAll_tokens : (value : Value) → (containers : List OpenContainer) →
    feedAll (.inside containers .value) value.tokens = accept containers value.tree
  | .null, _ => rfl
  | .boolean _, _ => rfl
  | .number _, _ => rfl
  | .text _, _ => rfl
  | .array [], _ => rfl
  | .array (item :: rest), containers => by
    have first : feedAll (.inside (.array [] :: containers) .firstItem)
        (separatedTokens (itemTokens (item :: rest))) =
        feedAll (.inside (.array [] :: containers) .value)
          (separatedTokens (itemTokens (item :: rest))) := by
      cases rest with
      | nil => exact feedAll_firstItem item _
      | cons second rest =>
        simp only [itemTokens, separatedTokens, feedAll_append, feedAll_firstItem]
    show feedAll (feed _ .openBracket)
      (separatedTokens (itemTokens (item :: rest)) ++ [.closeBracket]) = _
    rw [feedAll_append]
    show feed (feedAll (.inside (.array [] :: containers) .firstItem) _) .closeBracket = _
    rw [first, feedAll_items (item :: rest) (by simp)]
    simp [feed, afterValue, closeInnermost, OpenContainer.close, Value.tree]
  | .object [], _ => rfl
  | .object (entry :: rest), containers => by
    show feedAll (feed _ .openBrace)
      (separatedTokens (entryTokens (entry :: rest)) ++ [.closeBrace]) = _
    rw [feedAll_append]
    show feed (feedAll (.inside (.object [] none :: containers) .firstKey) _) .closeBrace = _
    obtain ⟨key, built⟩ := feedAll_entries (entry :: rest) (by simp) .firstKey (.inl rfl) [] none
      containers
    rw [built]
    simp [feed, afterValue, closeInnermost, OpenContainer.close, Value.tree]

/-- The items of an array are added to it one after another. -/
theorem feedAll_items : (items : List Value) → items ≠ [] →
    (added : List Tree) → (outer : List OpenContainer) →
    feedAll (.inside (.array added :: outer) .value) (separatedTokens (itemTokens items)) =
      .inside (.array ((itemTrees items).reverse ++ added) :: outer) .separator
  | [], nonempty, _, _ => absurd rfl nonempty
  | [item], _, added, outer => feedAll_tokens item (.array added :: outer)
  | item :: second :: rest, _, added, outer => by
    show feedAll _ (item.tokens ++ .comma :: separatedTokens (itemTokens (second :: rest))) = _
    rw [feedAll_append, feedAll_tokens item]
    show feedAll (.inside (.array (item.tree :: added) :: outer) .value) _ = _
    rw [feedAll_items (second :: rest) (by simp)]
    simp [itemTrees]

/-- The entries of an object are added to it one after another. -/
theorem feedAll_entries : (entries : List (String × Value)) → entries ≠ [] →
    (expected : Expected) → expected = .firstKey ∨ expected = .key →
    (added : List (Option String × Tree)) → (before : Option String) →
    (outer : List OpenContainer) →
    ∃ key, feedAll (.inside (.object added before :: outer) expected)
        (separatedTokens (entryTokens entries)) =
      .inside (.object ((entryTrees entries).reverse ++ added) key :: outer) .separator
  | [], nonempty, _, _, _, _, _ => absurd rfl nonempty
  | [(key, value)], _, _, keyed, added, before, outer => by
    refine ⟨some key, ?_⟩
    have named := feedAll_tokens value (.object added (some key) :: outer)
    rcases keyed with rfl | rfl <;> exact named
  | (key, value) :: second :: rest, _, expected, keyed, added, before, outer => by
    obtain ⟨last, built⟩ := feedAll_entries (second :: rest) (by simp) .key (.inr rfl)
      ((some key, value.tree) :: added) (some key) outer
    have named : feedAll (.inside (.object added before :: outer) expected)
        (separatedTokens (entryTokens ((key, value) :: second :: rest))) =
        feedAll (.inside (.object added (some key) :: outer) .value)
          (value.tokens ++ .comma :: separatedTokens (entryTokens (second :: rest))) := by
      rcases keyed with rfl | rfl <;> rfl
    refine ⟨last, ?_⟩
    rw [named, feedAll_append, feedAll_tokens value]
    show feedAll (.inside (.object ((some key, value.tree) :: added) (some key) :: outer) .key) _ =
      _
    rw [built]
    simp [entryTrees]

end

/-- **The text of a value is a document with the value's tree**, and nothing is behind it. -/
theorem document_render {value : Value} (exact : value.IsExact) :
    Document.ofText value.render = ⟨value.tree, false⟩ := by
  rw [Document.ofText, Value.render, String.toList_ofList, tokens_chars exact, feedAll_tokens]
  rfl

/-! ### Values of trees -/

mutual

/-- Whether a value is read back from its tree: its containers are not nested deeper than the given
number of levels, and the entries of its objects are in the order of their keys. -/
def Value.Fits (depth : Nat) : Value → Prop
  | .null | .boolean _ | .text _ => True
  | .number value => value.isFinite = true
  | .array items => 0 < depth ∧ ItemsFit (depth - 1) items
  | .object entries =>
    0 < depth ∧ (entries.map Prod.fst).Pairwise (· < ·) ∧ EntriesFit (depth - 1) entries

/-- Whether some items are read back from their trees. -/
def ItemsFit (depth : Nat) : List Value → Prop
  | [] => True
  | item :: rest => item.Fits depth ∧ ItemsFit depth rest

/-- Whether the values of some entries are read back from their trees. -/
def EntriesFit (depth : Nat) : List (String × Value) → Prop
  | [] => True
  | (_, value) :: rest => value.Fits depth ∧ EntriesFit depth rest

end

/-- An entry whose key comes behind all others is put in at the end. -/
theorem insertEntry_of_forall_lt {α : Type} {key : String} {value : α}
    {entries : List (String × α)} (behind : ∀ name ∈ entries.map Prod.fst, name < key) :
    insertEntry key value entries = entries ++ [(key, value)] := by
  induction entries with
  | nil => rfl
  | cons entry rest ih =>
    obtain ⟨less, others⟩ := List.forall_mem_cons.mp behind
    rw [insertEntry, if_neg (String.lt_asymm less), if_neg (String.ne_of_lt less).symm,
      ih others]
    rfl

mutual

/-- **A value is read back from its tree.** -/
theorem Value.ofTree_tree : (value : Value) → (depth : Nat) → value.Fits depth →
    Value.ofTree depth value.tree = .ok value
  | .null, _, _ => rfl
  | .boolean _, _, _ => rfl
  | .number value, _, finite => if_pos finite
  | .text _, _, _ => rfl
  | .array items, depth, ⟨inside, fit⟩ => by
    have read := Value.ofItems_itemTrees items (depth - 1) fit
    rw [Value.tree, Value.ofTree, if_neg (Nat.ne_of_gt inside), read]
    rfl
  | .object entries, depth, ⟨inside, sorted, fit⟩ => by
    have read := Value.ofEntries_entryTrees entries (depth - 1) fit [] sorted
    rw [Value.tree, Value.ofTree, if_neg (Nat.ne_of_gt inside), read]
    rfl

theorem Value.ofItems_itemTrees : (items : List Value) → (depth : Nat) → ItemsFit depth items →
    Value.ofItems depth (itemTrees items) = .ok items
  | [], _, _ => rfl
  | item :: rest, depth, ⟨fits, others⟩ => by
    rw [itemTrees, Value.ofItems, Value.ofTree_tree item depth fits,
      Value.ofItems_itemTrees rest depth others]
    rfl

theorem Value.ofEntries_entryTrees : (entries : List (String × Value)) → (depth : Nat) →
    EntriesFit depth entries → (before : List (String × Value)) →
    ((before ++ entries).map Prod.fst).Pairwise (· < ·) →
    Value.ofEntries depth before (entryTrees entries) = .ok (before ++ entries)
  | [], _, _, before, _ => congrArg Except.ok (List.append_nil before).symm
  | (key, value) :: rest, depth, ⟨fits, others⟩, before, sorted => by
    have behind : ∀ name ∈ before.map Prod.fst, name < key := by
      rw [List.map_append, List.pairwise_append] at sorted
      exact fun name member => sorted.2.2 name member key (by simp)
    rw [← List.singleton_append, ← List.append_assoc] at sorted ⊢
    rw [← insertEntry_of_forall_lt behind] at sorted ⊢
    have read := Value.ofEntries_entryTrees rest depth others _ sorted
    rw [List.singleton_append, entryTrees, Value.ofEntries, Value.ofTree_tree value depth fits]
    exact read

end

/-- **A value that fits is read back from its text.** -/
theorem Value.ofText_render {value : Value} (exact : value.IsExact)
    (fits : value.Fits depthLimit) : Value.ofText value.render = .ok value := by
  rw [Value.ofText, document_render exact, Value.ofTree_tree value depthLimit fits]
  rfl

/-! ### Typed data -/

variable {α : Type} {read : Origin → Tree → Reading α}

/-- Typed data is read from the text of a value as it is read from the value's tree. -/
theorem readText_render {value : Value} (exact : value.IsExact) :
    readText read value.render = read .text value.tree := by
  rw [readText, document_render exact]
  cases read .text value.tree <;> rfl

/-- So it is by way of the value, if that fits. -/
theorem readThroughValue_render {value : Value} (exact : value.IsExact)
    (fits : value.Fits depthLimit) :
    readThroughValue read value.render = read .value value.tree := by
  rw [readThroughValue, Value.ofText_render exact fits]
  rfl

end Arcade.Json
