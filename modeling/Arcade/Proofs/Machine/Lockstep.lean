/-
**Cells in lockstep with a machine.**

An opcode is taken apart by masks and shifts into the operands that the machine reads
(`Opcode.ofWord_toNat`), and each opcode does to the cells of a machine what it does to the machine.
The cases are those of the machine of cells, which goes by the first nibble, then by the last one or
by the lower byte; each is the case of one form, and what remains carries no instruction.

* `Machine.cells_execute`: so does every opcode, wherever it comes from;
* `Clockwork.cells_operate` and `Clockwork.cells_run`: so does everything an owner may do, and no
  check fails on the way.
-/

import Arcade.Proofs.Machine.Embedding
import Arcade.Proofs.Machine.Nesting
import Arcade.Proofs.Machine.Repertoire

namespace Arcade

open Checked

/-! ### Opcodes -/

namespace Opcode

/-- The operands of an opcode. -/
def operands (opcode : Opcode) : Operands :=
  ⟨opcode.op, opcode.x.val, opcode.y.val, opcode.n.val, opcode.nn.toNat, opcode.nnn.val⟩

/-- Masks and shifts take an opcode apart. -/
theorem ofWord_toNat (opcode : Opcode) : Operands.ofWord opcode.toNat = .ok opcode.operands := by
  have bound := opcode.toNat_lt
  have op : (opcode.toNat &&& 0xF000) / 2 ^ 12 = _ := and_field 4 12 opcode.toNat
  have x : (opcode.toNat &&& 0x0F00) / 2 ^ 8 = _ := and_field 4 8 opcode.toNat
  have y : (opcode.toNat &&& 0x00F0) / 2 ^ 4 = _ := and_field 4 4 opcode.toNat
  have n : opcode.toNat &&& 0x000F = _ := and_ones 4 opcode.toNat
  have nn : opcode.toNat &&& 0x00FF = _ := and_ones 8 opcode.toNat
  have nnn : opcode.toNat &&& 0x0FFF = _ := and_ones 12 opcode.toNat
  unfold Operands.ofWord
  rw [shiftRight_of_lt (by decide), ok_bind, shiftRight_of_lt (by decide), ok_bind,
    shiftRight_of_lt (by decide), ok_bind, op, x, y, n, nn, nnn]
  simp only [operands, Opcode.op, Opcode.x, Opcode.y, Opcode.n, Opcode.nn, Opcode.nnn,
    lowNibble_val, Address.wrap_val, UInt8.toNat_ofNat']
  congr 2 <;> omega

theorem nnn_mod (opcode : Opcode) : opcode.nnn.val % memorySize = opcode.nnn.val :=
  Nat.mod_eq_of_lt opcode.nnn.isLt

end Opcode

namespace Machine

variable {machine : Machine} {timer : Clock}

/-- What executing an opcode came to, in cells; a fault leaves the cells as they were. -/
def outcome (machine : Machine) (timer : Clock) :
    Except Fault (Flow × Machine) → Except Fault Flow × Cells
  | .ok (flow, after) => (.ok flow, after.cells timer)
  | .error fault => (.error fault, machine.cells timer)

/-- An opcode that has the form of an instruction is performed. -/
theorem execute_of_form {opcode : Opcode} {instruction : Instruction}
    (form : opcode.HasForm instruction) :
    machine.execute opcode = machine.perform instruction :=
  (machine.execute_of_hasForm form).1

theorem execute_of_none {opcode : Opcode} (bare : Instruction.decode? opcode = none) :
    machine.execute opcode = .ok (.unsupported, machine) := by
  unfold execute
  rw [bare]

theorem toNat_beq (one two : UInt8) : (one.toNat == two.toNat) = (one == two) := by
  rw [Bool.eq_iff_iff, beq_iff_eq, beq_iff_eq, UInt8.toNat_inj]

/-- The arithmetic opcodes. -/
theorem cells_executeArithmetic {opcode : Opcode} (family : opcode.op = 0x8) :
    ((machine.cells timer).executeArithmetic opcode.operands >>= fun (flow, cells) =>
        Except.ok (Except.ok flow, cells)) =
      .ok (machine.outcome timer (machine.execute opcode)) := by
  have boundX := (machine.v opcode.x).toNat_lt
  have boundY := (machine.v opcode.y).toNat_lt
  unfold Cells.executeArithmetic Opcode.operands
  simp only [cells_v, ok_bind]
  -- One case for each last nibble, from `0` to `7` and `E`.
  split
  case h_1 =>
    rename_i member
    have form : opcode.HasForm (.copy opcode.x opcode.y) := ⟨family, member, rfl, rfl⟩
    rw [execute_of_form form, cells_setV opcode.x (toNat_mod _)]
    rfl
  case h_2 =>
    rename_i member
    have form : opcode.HasForm (.or opcode.x opcode.y) := ⟨family, member, rfl, rfl⟩
    rw [execute_of_form form, ← UInt8.toNat_or, cells_setV opcode.x (toNat_mod _)]
    rfl
  case h_3 =>
    rename_i member
    have form : opcode.HasForm (.and opcode.x opcode.y) := ⟨family, member, rfl, rfl⟩
    rw [execute_of_form form, ← UInt8.toNat_and, cells_setV opcode.x (toNat_mod _)]
    rfl
  case h_4 =>
    rename_i member
    have form : opcode.HasForm (.xor opcode.x opcode.y) := ⟨family, member, rfl, rfl⟩
    rw [execute_of_form form, ← UInt8.toNat_xor, cells_setV opcode.x (toNat_mod _)]
    rfl
  case h_5 =>
    rename_i member
    have form : opcode.HasForm (.add opcode.x opcode.y) := ⟨family, member, rfl, rfl⟩
    rw [execute_of_form form, sum_of_lt (by omega), ok_bind,
      cells_setResult opcode.x _ (UInt8.toNat_add _ _).symm]
    rfl
  case h_6 =>
    rename_i member
    have form : opcode.HasForm (.sub opcode.x opcode.y) := ⟨family, member, rfl, rfl⟩
    rw [execute_of_form form, ← UInt8.toNat_sub, cells_setResult opcode.x _ (toNat_mod _)]
    rfl
  case h_7 =>
    rename_i member
    have form : opcode.HasForm (.shiftRight opcode.x) := ⟨family, member, rfl⟩
    have half : (machine.v opcode.x).toNat / 2 ^ 1 % 2 ^ 8 = (machine.v opcode.x >>> 1).toNat := by
      rw [UInt8.toNat_shiftRight, Nat.shiftRight_eq_div_pow]
      exact Nat.mod_eq_of_lt (by omega)
    rw [execute_of_form form, shiftRight_of_lt (by decide), ok_bind, Nat.and_one_is_mod,
      cells_setResult opcode.x _ half]
    rfl
  case h_8 =>
    rename_i member
    have form : opcode.HasForm (.subFrom opcode.x opcode.y) := ⟨family, member, rfl, rfl⟩
    rw [execute_of_form form, ← UInt8.toNat_sub, cells_setResult opcode.x _ (toNat_mod _)]
    rfl
  case h_9 =>
    rename_i member
    have form : opcode.HasForm (.shiftLeft opcode.x) := ⟨family, member, rfl⟩
    have twice : (machine.v opcode.x).toNat * 2 ^ 1 % 2 ^ 8 = (machine.v opcode.x <<< 1).toNat := by
      rw [UInt8.toNat_shiftLeft, Nat.shiftLeft_eq]
      rfl
    have highest : ((machine.v opcode.x).toNat / 2 ^ 7 &&& 1 == 1) =
        decide (128 ≤ (machine.v opcode.x).toNat) := by
      rw [Nat.and_one_is_mod, Bool.eq_iff_iff, beq_iff_eq, decide_eq_true_iff]
      omega
    rw [execute_of_form form, shiftLeft_of_lt (by decide) (by omega), ok_bind,
      shiftRight_of_lt (by decide), ok_bind, highest, cells_setResult opcode.x _ twice]
    rfl
  case h_10 =>
    have bare : Instruction.decode? opcode = none := by
      simp [Instruction.decode?, Instruction.decodeArithmetic?, *]
    rw [execute_of_none bare]
    rfl

theorem cells_dark :
    { machine.cells timer with picture := Vector.replicate displaySize 0 } =
      ({ machine with display := Display.dark } : Machine).cells timer := by
  simp only [cells, Display.cells, Display.dark, Vector.map_replicate, Bool.toNat_false]

/-- The opcodes about calls, the picture, keys, timers and memory. -/
theorem cells_executeDevice {opcode : Opcode}
    (family : opcode.op = 0x0 ∨ opcode.op = 0xE ∨ opcode.op = 0xF) :
    (machine.cells timer).executeDevice opcode.operands =
      .ok (machine.outcome timer (machine.execute opcode)) := by
  unfold Cells.executeDevice Opcode.operands
  simp only [cells_v, ok_bind]
  -- One case for each first nibble and lower byte, from `00E0` to `Fx65`.
  split
  case h_1 =>
    rename_i family member
    split
    · rename_i system
      have form : opcode.HasForm .clearDisplay :=
        (Opcode.toNat_eq_iff 0xE0).mpr ⟨family, Fin.ext system, UInt8.toNat_inj.mp member⟩
      rw [execute_of_form form, cells_dark]
      rfl
    · rename_i other
      have bare : Instruction.decode? opcode = none := by
        simp [Instruction.decode?, family, firstRegister, Fin.ext_iff, other]
      rw [execute_of_none bare]
      rfl
  case h_2 =>
    rename_i family member
    split
    · rename_i system
      have form : opcode.HasForm .returnFromCall :=
        (Opcode.toNat_eq_iff 0xEE).mpr ⟨family, Fin.ext system, UInt8.toNat_inj.mp member⟩
      rw [execute_of_form form, cells_pop, ok_bind]
      unfold perform
      cases machine.stack.pop with
      | error fault => rfl
      | ok popped =>
        obtain ⟨address, stack⟩ := popped
        have jumped : (({ machine with stack } : Machine).cells timer).jump address.toNat = _ :=
          cells_jump (Address.wrap address.toNat) rfl
        exact congrArg (fun cells => Except.ok (Except.ok Flow.jump, cells)) jumped
    · rename_i other
      have bare : Instruction.decode? opcode = none := by
        simp [Instruction.decode?, family, firstRegister, Fin.ext_iff, other]
      rw [execute_of_none bare]
      rfl
  case h_3 =>
    rename_i family member
    have form : opcode.HasForm (.skipIfDown opcode.x) := ⟨family, UInt8.toNat_inj.mp member, rfl⟩
    rw [execute_of_form form, cells_isPressed (Key.ofLowBits _) rfl, ok_bind, cells_skipIf, ok_bind]
    rfl
  case h_4 =>
    rename_i family member
    have form : opcode.HasForm (.skipIfUp opcode.x) := ⟨family, UInt8.toNat_inj.mp member, rfl⟩
    rw [execute_of_form form, cells_isPressed (Key.ofLowBits _) rfl, ok_bind, cells_skipIf, ok_bind]
    rfl
  case h_5 =>
    rename_i family member
    have form : opcode.HasForm (.readDelay opcode.x) := ⟨family, UInt8.toNat_inj.mp member, rfl⟩
    rw [execute_of_form form]
    show ((machine.cells timer).setV opcode.x.val machine.delay.toNat >>= _) = _
    rw [cells_setV opcode.x (toNat_mod _)]
    rfl
  case h_6 =>
    rename_i family member
    have form : opcode.HasForm (.waitForKey opcode.x) := ⟨family, UInt8.toNat_inj.mp member, rfl⟩
    rw [execute_of_form form, cells_firstPressed, ok_bind]
    unfold perform
    cases machine.keypad.lowest? with
    | none => rw [cells_rewind]; rfl
    | some key =>
      show ((machine.cells timer).setV opcode.x.val key.val >>= _) = _
      rw [cells_setV opcode.x UInt8.toNat_ofNat'.symm]
      rfl
  case h_7 =>
    rename_i family member
    have form : opcode.HasForm (.setDelay opcode.x) := ⟨family, UInt8.toNat_inj.mp member, rfl⟩
    rw [execute_of_form form]
    simp only [cells, Cell.set_holding, toNat_mod]
    rfl
  case h_8 =>
    rename_i family member
    have form : opcode.HasForm (.setSound opcode.x) := ⟨family, UInt8.toNat_inj.mp member, rfl⟩
    rw [execute_of_form form]
    simp only [cells, Cell.set_holding, toNat_mod]
    rfl
  case h_9 =>
    rename_i family member
    have form : opcode.HasForm (.addIndex opcode.x) := ⟨family, UInt8.toNat_inj.mp member, rfl⟩
    have index := machine.index_lt
    have value := (machine.v opcode.x).toNat_lt
    have low : (machine.index.toNat + (machine.v opcode.x).toNat) % 2 ^ 16 =
        (machine.index + (machine.v opcode.x).toUInt16).toNat := by
      rw [UInt16.toNat_add, UInt8.toNat_toUInt16]
    rw [execute_of_form form]
    show (sum 32 machine.index.toNat (machine.v opcode.x).toNat >>= _) = _
    rw [sum_of_lt (by omega), ok_bind, cells_setIndex _ low]
    rfl
  case h_10 =>
    rename_i family member
    have form : opcode.HasForm (.loadGlyph opcode.x) := ⟨family, UInt8.toNat_inj.mp member, rfl⟩
    have digit : (machine.v opcode.x).toNat &&& 0xF = (machine.v opcode.x).toNat % 16 :=
      and_ones 4 _
    have start : fontStart.val = 80 := rfl
    rw [execute_of_form form, digit, glyphHeight, product_of_lt (by omega), ok_bind,
      sum_of_lt (by omega), ok_bind, cells_setIndex _ UInt16.toNat_ofNat'.symm]
    rfl
  case h_11 =>
    rename_i family member
    have form : opcode.HasForm (.storeDecimal opcode.x) := ⟨family, UInt8.toNat_inj.mp member, rfl⟩
    rw [execute_of_form form, cells_storeDecimal, ok_bind]
    rfl
  case h_12 =>
    rename_i family member
    have form : opcode.HasForm (.saveRegisters opcode.x) := ⟨family, UInt8.toNat_inj.mp member, rfl⟩
    rw [execute_of_form form, cells_address, ← registersUpTo_map_val, cells_saveRegisters, ok_bind]
    rfl
  case h_13 =>
    rename_i family member
    have form : opcode.HasForm (.restoreRegisters opcode.x) :=
      ⟨family, UInt8.toNat_inj.mp member, rfl⟩
    rw [execute_of_form form, cells_address, ← registersUpTo_map_val, cells_restoreRegisters,
      ok_bind]
    rfl
  case h_14 =>
    have bare : Instruction.decode? opcode = none := by
      rcases family with family | family | family <;>
        simp_all [Instruction.decode?, Instruction.decodeDevice?]
    rw [execute_of_none bare]
    rfl

/-- An opcode does to the cells of a machine what it does to the machine. -/
theorem cells_execute (opcode : Opcode) :
    (machine.cells timer).execute opcode.toNat =
      .ok (machine.outcome timer (machine.execute opcode)) := by
  have bound := opcode.toNat_lt
  unfold Cells.execute
  rw [opcode.ofWord_toNat, ok_bind]
  have operands : opcode.operands = ⟨opcode.op, opcode.x.val, opcode.y.val, opcode.n.val,
    opcode.nn.toNat, opcode.nnn.val⟩ := rfl
  simp only [operands, cells_v, ok_bind, toNat_beq, bne, cells_skipIf]
  -- One case for each first nibble; `0`, `E` and `F` come first.
  split
  case h_1 | h_2 | h_3 =>
    rename_i family
    exact cells_executeDevice (by omega)
  case h_4 =>
    rename_i family
    have form : opcode.HasForm (.jump opcode.nnn) := ⟨family, rfl⟩
    rw [execute_of_form form, cells_jump opcode.nnn opcode.nnn_mod]
    rfl
  case h_5 =>
    rename_i family
    have form : opcode.HasForm (.call opcode.nnn) := ⟨family, rfl⟩
    rw [execute_of_form form, cells_pc, ← Address.toNat_ofNat, cells_push, ok_bind]
    unfold perform
    cases machine.stack.push (UInt16.ofNat machine.counter.val) with
    | error fault => rfl
    | ok stack =>
      have jumped : (({ machine with stack } : Machine).cells timer).jump opcode.nnn.val = _ :=
        cells_jump opcode.nnn opcode.nnn_mod
      exact congrArg (fun cells => Except.ok (Except.ok Flow.jump, cells)) jumped
  case h_6 =>
    rename_i family
    have form : opcode.HasForm (.skipIfByte opcode.x opcode.nn) := ⟨family, rfl, rfl⟩
    rw [execute_of_form form]
    rfl
  case h_7 =>
    rename_i family
    have form : opcode.HasForm (.skipUnlessByte opcode.x opcode.nn) := ⟨family, rfl, rfl⟩
    rw [execute_of_form form]
    rfl
  case h_8 =>
    rename_i family
    have form : opcode.HasForm (.skipIfEqual opcode.x opcode.y) := ⟨family, rfl, rfl⟩
    rw [execute_of_form form]
    rfl
  case h_9 =>
    rename_i family
    have form : opcode.HasForm (.loadByte opcode.x opcode.nn) := ⟨family, rfl, rfl⟩
    rw [execute_of_form form, cells_setV opcode.x (toNat_mod _)]
    rfl
  case h_10 =>
    rename_i family
    have form : opcode.HasForm (.addByte opcode.x opcode.nn) := ⟨family, rfl, rfl⟩
    rw [execute_of_form form, ← UInt8.toNat_add, cells_setV opcode.x (toNat_mod _)]
    rfl
  case h_11 =>
    rename_i family
    exact cells_executeArithmetic family
  case h_12 =>
    rename_i family
    have form : opcode.HasForm (.skipUnlessEqual opcode.x opcode.y) := ⟨family, rfl, rfl⟩
    rw [execute_of_form form]
    rfl
  case h_13 =>
    rename_i family
    have form : opcode.HasForm (.loadIndex opcode.nnn) := ⟨family, rfl⟩
    rw [execute_of_form form, cells_setIndex _ UInt16.toNat_ofNat'.symm]
    rfl
  case h_14 =>
    rename_i family
    have form : opcode.HasForm (.jumpOffset opcode.nnn) := ⟨family, rfl⟩
    have offset := (machine.v firstRegister).toNat_lt
    have target : opcode.nnn.val < 4096 := opcode.nnn.isLt
    have first : (machine.cells timer).v 0 = .ok (machine.v firstRegister).toNat :=
      cells_v firstRegister
    rw [execute_of_form form, first, ok_bind, sum_of_lt (by omega), ok_bind,
      cells_jump (Address.wrap _) rfl]
    rfl
  case h_15 =>
    rename_i family
    have form : opcode.HasForm (.random opcode.x opcode.nn) := ⟨family, rfl, rfl⟩
    have moved : { machine.cells timer with random := (machine.cells timer).random.next } =
      ({ machine with random := machine.random.next } : Machine).cells timer := rfl
    have masked : (machine.cells timer).random.byte.toNat &&& opcode.nn.toNat =
      (machine.random.byte &&& opcode.nn).toNat := (UInt8.toNat_and ..).symm
    rw [execute_of_form form, moved, masked, cells_setV opcode.x (toNat_mod _)]
    rfl
  case h_16 =>
    rename_i family
    have form : opcode.HasForm (.draw opcode.x opcode.y opcode.n) := ⟨family, rfl, rfl, rfl⟩
    rw [execute_of_form form, cells_drawSprite]
    rfl
  case h_17 =>
    have op : opcode.op < 16 := by
      unfold Opcode.op
      omega
    grind

/-! ### Operations -/

theorem cells_fetch :
    (machine.cells timer).fetch = .ok (machine.currentOpcode.toNat, machine.skip.cells timer) := by
  have bound := machine.counter_lt
  have here : Address.wrap machine.counter.val = machine.counter :=
    Fin.ext (Nat.mod_eq_of_lt machine.counter.isLt)
  have upper := (machine.memory.get machine.counter).toNat_lt
  have lower := (machine.memory.get (Address.wrap (machine.counter.val + 1))).toNat_lt
  unfold Cells.fetch wordOfBytes
  rw [cells_pc, cells_byteAt, ok_bind, here, sum_of_lt (by omega), ok_bind, cells_byteAt, ok_bind,
    shiftLeft_of_lt (by decide) (by omega), ok_bind, ok_bind, cells_skip, ← Nat.shiftLeft_eq,
    ← Nat.shiftLeft_add_eq_or_of_lt lower, Nat.shiftLeft_eq]
  unfold currentOpcode
  rw [Opcode.ofBytes_toNat]
  rfl

theorem cells_countDown (now : Moment) :
    (machine.cells timer).countDown now =
      .ok ((machine.countDown timer now).1.cells (machine.countDown timer now).2) := by
  unfold Cells.countDown countDown
  have mode : (machine.cells timer).timerMode = machine.timerMode := rfl
  rw [mode]
  cases machine.timerMode with
  | perInstruction => exact cells_tickTimers
  | realtime =>
    show (if (timer.tick now).1 then (machine.cells (timer.tick now).2).tickTimers
      else .ok (machine.cells (timer.tick now).2)) = _
    simp only
    split
    · exact cells_tickTimers
    · rfl

theorem cells_clear :
    (machine.cells timer).clear =
      ({ machine with
        memory := Memory.blank
        stack := CallStack.empty
        display := Display.dark } : Machine).cells timer := by
  simp only [Cells.clear, cells, Memory.blank, CallStack.empty, Display.cells, Display.dark,
    Vector.map_replicate]
  rfl

theorem cells_loadFont :
    (machine.cells timer).loadFont =
      .ok (({ machine with memory := machine.memory.load fontStart.val font } : Machine).cells
        timer) :=
  cells_loadBlock (by decide)

theorem cells_load (program : List UInt8) (now : Moment) :
    (machine.cells timer).load program now =
      .ok (match machine.load program with
        | .ok loaded => (.ok (), loaded.cells (timer.reset now))
        | .error error => (.error error, machine.cells timer)) := by
  have least : programStart.val ≤ memorySize := programStart.isLt.le
  have limit : memorySize - programStart.val = programLimit := rfl
  unfold Cells.load load
  rw [difference_of_le least, ok_bind, limit]
  split
  · rename_i fits
    have start : programStart.val = 512 := rfl
    have room : programLimit = 3584 := rfl
    rw [cells_clear, cells_loadFont, ok_bind, cells_loadBlock (by omega), ok_bind,
      cells_jump programStart (Nat.mod_eq_of_lt programStart.isLt)]
    rfl
  · rfl

end Machine

namespace Clockwork

variable {clockwork : Clockwork}

/-- The cells of a machine with its clock. -/
def cells (clockwork : Clockwork) : Cells := clockwork.machine.cells clockwork.timer

theorem cells_blank (timerMode : TimerMode) (seed : UInt64) (timer : Clock) :
    Cells.blank (.holding 12 0) (.holding 16 0) (.holding 8 0) timerMode (RandomSource.ofSeed seed)
        timer =
      ({ Machine.new timerMode seed with memory := Memory.blank } : Machine).cells timer := by
  have keys : Keypad.released.bits = 0 := by decide
  simp only [Cells.blank, Machine.cells, Machine.new, keys, Memory.blank, CallStack.empty,
    Display.cells, Display.dark, Vector.map_replicate]
  rfl

/-- A new machine is set up without an overrun. -/
theorem cells_new (timerMode : TimerMode) (seed : UInt64) (now : Moment) :
    Cells.new timerMode (RandomSource.ofSeed seed) now = .ok (new timerMode seed now).cells := by
  unfold Cells.new Cell.ofBytes
  rw [Cell.ofBits_of_lt (by decide), ok_bind, product_of_lt (by decide), ok_bind,
    Cell.ofBits_of_lt (by decide), ok_bind, product_of_lt (by decide), ok_bind,
    Cell.ofBits_of_lt (by decide), ok_bind]
  show (Cells.blank (.holding 12 0) (.holding 16 0) (.holding 8 0) _ _ _).loadFont = _
  rw [cells_blank, Machine.cells_loadFont]
  rfl

theorem cells_step (now : Moment) :
    clockwork.cells.step now = .ok ((clockwork.step now).1, (clockwork.step now).2.cells) := by
  unfold Cells.step cells
  simp only [Machine.cells_fetch, ok_bind, Machine.cells_execute]
  unfold step Machine.stepAt Machine.fetch
  simp only
  cases clockwork.machine.skip.execute clockwork.machine.currentOpcode with
  | error fault => rfl
  | ok result =>
    show ((result.2.cells clockwork.timer).countDown now >>= _) = _
    rw [Machine.cells_countDown]
    rfl

theorem cells_cycle (moments : List Moment) :
    clockwork.cells.cycle moments =
      .ok ((clockwork.cycle moments).1, (clockwork.cycle moments).2.cells) := by
  induction moments generalizing clockwork with
  | nil => rfl
  | cons now later ih =>
    rw [Cells.cycle, cells_step, ok_bind, cycle]
    obtain ⟨flow, stepped⟩ := clockwork.step now
    cases flow with
    | error fault => rfl
    | ok flow => exact ih

/-- **An operation on the cells of a machine is the operation on the machine**, and none of its
checks fails. -/
theorem cells_operate (operation : Operation) :
    clockwork.cells.operate operation =
      .ok ((clockwork.operate operation).1, (clockwork.operate operation).2.cells) := by
  unfold Cells.operate operate
  cases operation with
  | load program now =>
    simp only [cells, Machine.cells_load, ok_bind]
    cases clockwork.machine.load program <;> rfl
  | fetch =>
    simp only [cells, Machine.cells_fetch, ok_bind, Opcode.toNat, UInt16.ofNat_toNat]
    rfl
  | execute opcode =>
    simp only [cells, Machine.cells_execute, ok_bind]
    cases clockwork.machine.execute opcode <;> rfl
  | step now =>
    simp only [cells_step, ok_bind]
    obtain ⟨flow, stepped⟩ := clockwork.step now
    cases flow <;> rfl
  | cycle moments =>
    simp only [cells_cycle, ok_bind]
    obtain ⟨fault, cycled⟩ := clockwork.cycle moments
    cases fault <;> rfl
  | countDown =>
    simp only [cells, Machine.cells_tickTimers, ok_bind]
  | press event =>
    simp only [cells, Machine.cells_setKey, ok_bind]

/-- **A run on the cells of a machine is the run of the machine**, and none of its checks fails. -/
theorem cells_run (operations : List Operation) :
    clockwork.cells.run operations = .ok (clockwork.run operations).cells := by
  induction operations generalizing clockwork with
  | nil => rfl
  | cons operation later ih =>
    rw [Cells.run, cells_operate, ok_bind]
    exact ih

end Clockwork

end Arcade
