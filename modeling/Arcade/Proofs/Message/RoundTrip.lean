/-
**Payloads are read back.**

What clients and sessions say to each other is written as the text of a value. Each payload is read
back from that text, directly as well as by way of the value (`IsReadBack`), whatever characters its
texts hold and however many pixels a frame has. The reader of messages is told nothing about which
kind of message comes, so it takes no kind for another; and what is absent from a parameter change
is absent afterwards.

* `isReadBack_of_tree`: it is enough to read a payload back from its tree;
* `payloads_read_back`: all payloads are read back.
-/

import Arcade.Message.Json
import Arcade.Proofs.Json.Documents

namespace Arcade

open Json

namespace Json

/-- A payload with a value is read back from the value's text, directly and by way of the value. -/
def IsReadBack {α : Type} (value : Value) (read : Origin → Tree → Reading α) (payload : α) : Prop :=
  readText read value.render = .ok payload ∧ readThroughValue read value.render = .ok payload

/-- **It is enough to read a payload back from its tree**, if the tree's value is. -/
theorem isReadBack_of_tree {α : Type} {value : Value} {read : Origin → Tree → Reading α}
    {payload : α} (exact : value.IsExact) (fits : value.Fits depthLimit)
    (readBack : ∀ origin, read origin value.tree = .ok payload) :
    IsReadBack value read payload :=
  ⟨(readText_render exact).trans (readBack .text),
    (readThroughValue_render exact fits).trans (readBack .value)⟩

/-- A natural number of sixty-four bits is stored exactly. -/
theorem isExact_natural {number : Nat} (small : number < UInt64.size) :
    (Value.natural number).IsExact := by
  show exactRange number = true
  have least : Int64.minValue.toInt ≤ 0 := by decide
  rw [exactRange, Bool.and_eq_true, decide_eq_true_eq, decide_eq_true_eq]
  omega

/-- An entry whose value fits is taken, and reading goes on behind it. -/
theorem Tree.entries_cons {σ : Type} {take : σ → String → Tree → Option (Reading σ)}
    {complete : Bool} {state next : σ} {key : String} {value : Tree}
    {rest : List (Option String × Tree)} (taken : take state key value = some (.ok next)) :
    Tree.entries take complete state ((some key, value) :: rest) =
      Tree.entries take complete next rest := by
  rw [Tree.entries, taken]
  rfl

/-- A field that was not read before is read. -/
theorem Tree.field_none {α : Type} {read : Tree → Reading α} {value : Tree} {data : α}
    (reads : read value = .ok data) : Tree.field none read value = .ok (some data) := by
  rw [Tree.field, reads]
  rfl

theorem itemsExact_of_forall {items : List Value} (each : ∀ item ∈ items, item.IsExact) :
    ItemsExact items := by
  induction items with
  | nil => trivial
  | cons item rest ih =>
    obtain ⟨exact, others⟩ := List.forall_mem_cons.mp each
    exact ⟨exact, ih others⟩

theorem itemsFit_of_forall {depth : Nat} {items : List Value}
    (each : ∀ item ∈ items, item.Fits depth) : ItemsFit depth items := by
  induction items with
  | nil => trivial
  | cons item rest ih =>
    obtain ⟨fits, others⟩ := List.forall_mem_cons.mp each
    exact ⟨fits, ih others⟩

end Json

/-! ### Keys, names and numbers -/

theorem Key.read_tree (key : Key) (origin : Origin) : Key.read origin key.value.tree = .ok key := by
  have small : key.val < 256 := Nat.lt_trans key.isLt (by decide)
  have found : Key.ofNat? key.val = some key := dif_pos key.isLt
  rw [Key.read, Key.value, natural_tree small]
  simp only [bind, Except.bind, found]
  rfl

theorem Key.isExact_value (key : Key) : key.value.IsExact :=
  isExact_natural (Nat.lt_trans key.isLt (by decide))

theorem Positive32.read_tree (number : Positive32) :
    Positive32.read number.value.tree = .ok number := by
  rw [Positive32.read, Positive32.value, natural_tree number.toNat_lt]
  show Tree.required (Positive32.ofNat? number.toNat) = _
  rw [Positive32.ofNat?_toNat]
  rfl

theorem Positive32.isExact_value (number : Positive32) : number.value.IsExact :=
  isExact_natural (Nat.lt_trans number.toNat_lt (by decide))

/-! ### Key events and parameter changes -/

theorem KeyEvent.read_tree (event : KeyEvent) (origin : Origin) :
    KeyEvent.read origin event.value.tree = .ok event := by
  have key : PartialKeyEvent.take origin ⟨none, none⟩ "key" event.key.value.tree =
      some (.ok ⟨some event.key, none⟩) := by
    simp only [PartialKeyEvent.take, Tree.field_none (event.key.read_tree origin)]
    rfl
  show (do
    let read ← Tree.entries (PartialKeyEvent.take origin) true ⟨none, none⟩
      [(some "key", event.key.value.tree), (some "pressed", .boolean event.pressed)]
    return ⟨← Tree.required read.key, ← Tree.required read.pressed⟩ : Reading KeyEvent) = _
  rw [Tree.entries_cons key]
  rfl

theorem KeyEvent.isExact_value (event : KeyEvent) : event.value.IsExact :=
  ⟨event.key.isExact_value, trivial, trivial⟩

theorem KeyEvent.fits_value (event : KeyEvent) : event.value.Fits depthLimit :=
  have sorted : ["key", "pressed"].Pairwise (· < ·) := by decide
  ⟨by decide, sorted, rfl, trivial, trivial⟩

/-- A parameter that is there is taken, whichever it is. -/
theorem PartialParamChange.take_number (number : Positive32) (change : PartialParamChange) :
    (change.cyclesPerFrame = none → change.take "cyclesPerFrame" number.value.tree =
        some (.ok { change with cyclesPerFrame := some (some number) })) ∧
      (change.frameRate = none → change.take "frameRate" number.value.tree =
        some (.ok { change with frameRate := some (some number) })) := by
  have given : Tree.optional Positive32.read number.value.tree = .ok (some number) := by
    show (do return some (← Positive32.read number.value.tree) : Reading (Option Positive32)) = _
    rw [Positive32.read_tree]
    rfl
  constructor <;> intro unread <;>
    simp only [PartialParamChange.take, unread, Tree.field_none given] <;> rfl

theorem ParamChange.read_tree (change : ParamChange) (origin : Origin) :
    ParamChange.read origin change.value.tree = .ok change := by
  have read (entries) (read : PartialParamChange)
      (taken : Tree.entries PartialParamChange.take true ⟨none, none⟩ entries = .ok read) :
      ParamChange.read origin (.object entries true) =
        .ok ⟨read.cyclesPerFrame.join, read.frameRate.join⟩ := by
    rw [ParamChange.read, taken]
    rfl
  obtain ⟨_ | cyclesPerFrame, _ | frameRate⟩ := change
  case none.none => rfl
  case none.some =>
    exact read [(some "frameRate", _)] _
      (Tree.entries_cons ((PartialParamChange.take_number frameRate _).2 rfl))
  case some.none =>
    exact read [(some "cyclesPerFrame", _)] _
      (Tree.entries_cons ((PartialParamChange.take_number cyclesPerFrame _).1 rfl))
  case some.some =>
    exact read [(some "cyclesPerFrame", _), (some "frameRate", _)] _
      ((Tree.entries_cons ((PartialParamChange.take_number cyclesPerFrame _).1 rfl)).trans
        (Tree.entries_cons ((PartialParamChange.take_number frameRate _).2 rfl)))

theorem ParamChange.isExact_value (change : ParamChange) : change.value.IsExact := by
  obtain ⟨_ | cyclesPerFrame, _ | frameRate⟩ := change
  · exact trivial
  · exact ⟨frameRate.isExact_value, trivial⟩
  · exact ⟨cyclesPerFrame.isExact_value, trivial⟩
  · exact ⟨cyclesPerFrame.isExact_value, frameRate.isExact_value, trivial⟩

theorem ParamChange.fits_value (change : ParamChange) : change.value.Fits depthLimit := by
  obtain ⟨_ | cyclesPerFrame, _ | frameRate⟩ := change
  · exact ⟨by decide, .nil, trivial⟩
  · exact ⟨by decide, List.pairwise_singleton _ _, rfl, trivial⟩
  · exact ⟨by decide, List.pairwise_singleton _ _, rfl, trivial⟩
  · have sorted : ["cyclesPerFrame", "frameRate"].Pairwise (· < ·) := by decide
    exact ⟨by decide, sorted, rfl, rfl, trivial⟩

/-! ### Messages of a session -/

/-- The pixels of a frame are read back, however many there are. -/
theorem readPixels_tree (pixels : List UInt8) :
    readPixels (Value.array (pixels.map fun pixel => .natural pixel.toNat)).tree = .ok pixels := by
  show (itemTrees _).mapM _ = _
  induction pixels with
  | nil => rfl
  | cons pixel rest ih =>
    have read : (Value.natural pixel.toNat).tree.natural 256 = .ok pixel.toNat :=
      natural_tree pixel.toNat_lt
    rw [List.map_cons, itemTrees, List.mapM_cons, read, ih]
    show Except.ok (UInt8.ofNat pixel.toNat :: rest) = _
    rw [UInt8.ofNat_toNat]

theorem Message.isExact_value : (message : Message) → message.value.IsExact
  | .frame pixels => by
    refine ⟨itemsExact_of_forall ?_, trivial⟩
    intro item member
    obtain ⟨pixel, -, rfl⟩ := List.mem_map.mp member
    exact isExact_natural (Nat.lt_trans pixel.toNat_lt (by decide))
  | .started _ => ⟨trivial, trivial⟩
  | .error _ => ⟨trivial, trivial⟩

theorem Message.fits_value : (message : Message) → message.value.Fits depthLimit
  | .frame pixels => by
    refine ⟨by decide, by simp, ⟨by decide, itemsFit_of_forall ?_⟩, trivial⟩
    intro item member
    obtain ⟨pixel, -, rfl⟩ := List.mem_map.mp member
    rfl
  | .started _ => ⟨by decide, by simp, trivial, trivial⟩
  | .error _ => ⟨by decide, by simp, trivial, trivial⟩

theorem Message.read_tree (message : Message) (origin : Origin) :
    Message.read origin message.value.tree = .ok message := by
  have looked : Value.ofTree depthLimit message.value.tree = .ok message.value :=
    Value.ofTree_tree _ _ message.fits_value
  unfold Message.read
  rw [looked]
  cases message with
  | frame pixels =>
    show Message.ofEntries
      [(some "frame", (Value.array (pixels.map fun pixel => .natural pixel.toNat)).tree)] = _
    have sole (tree : Tree) : soleEntry? "frame" [(some "frame", tree)] = some tree := rfl
    simp only [Message.ofEntries, sole, Option.bind_eq_bind, Option.bind_some, readPixels_tree]
    rfl
  | started id => rfl
  | error reason => rfl

theorem Message.isReadBack (message : Message) : IsReadBack message.value Message.read message :=
  isReadBack_of_tree message.isExact_value message.fits_value message.read_tree

/-- **Every payload is read back from its text**, directly and by way of a value. -/
theorem payloads_read_back :
    (∀ key : Key, IsReadBack key.value Key.read key) ∧
      (∀ event : KeyEvent, IsReadBack event.value KeyEvent.read event) ∧
      (∀ change : ParamChange, IsReadBack change.value ParamChange.read change) ∧
      (∀ id : SessionId, IsReadBack id.value SessionId.read id) ∧
      ∀ message : Message, IsReadBack message.value Message.read message := by
  refine ⟨fun key => ?key, fun event => ?event, fun change => ?change, fun id => ?id,
    Message.isReadBack⟩
  case key => exact isReadBack_of_tree key.isExact_value rfl key.read_tree
  case event => exact isReadBack_of_tree event.isExact_value event.fits_value event.read_tree
  case change => exact isReadBack_of_tree change.isExact_value change.fits_value change.read_tree
  case id => exact isReadBack_of_tree trivial trivial fun _ => rfl

end Arcade
