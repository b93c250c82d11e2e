/-
**Where a step leads.**

The program counter has twelve bits and may be odd. A step reads an opcode whose second byte may lie
at the other end of memory, moves past it, and then the opcode may jump, skip or go back
(`Machine.destination?`). What kind of work was done tells the jumps, the waits for a key, the
drawings and the sounds apart, and each of them shows in the opcode.

* `Instruction.flow` and `Machine.flow_perform_eq`: the kind of work of each instruction;
* `Machine.does_of_execute`: which opcodes do which kind of work;
* `Machine.destination?_eq`: where the program counter points to once the opcode is executed;
* `Clockwork.steers`: where a step leads, and the kind of work it reports.
-/

import Arcade.Proofs.Machine.Bounds
import Arcade.Proofs.Machine.Repertoire

namespace Arcade

theorem Keypad.lowest?_eq_none {keypad : Keypad} :
    keypad.lowest? = none ↔ ∀ key, keypad.isDown key = false := by
  simp [lowest?]

/-! ### Kinds of work -/

/-- The kind of work that an instruction does. -/
def Instruction.flow (machine : Machine) : Instruction → Flow
  | .jump _ | .call _ | .jumpOffset _ | .returnFromCall => .jump
  | .draw _ _ _ => .draw
  | .setSound _ => .sound
  | .waitForKey _ => if machine.keypad.lowest? = none then .keyWait else .plain
  | .clearDisplay | .skipIfByte _ _ | .skipUnlessByte _ _ | .skipIfEqual _ _ | .skipUnlessEqual _ _
  | .skipIfDown _ | .skipIfUp _ | .loadByte _ _ | .addByte _ _ | .copy _ _ | .or _ _ | .and _ _
  | .xor _ _ | .add _ _ | .sub _ _ | .shiftRight _ | .subFrom _ _ | .shiftLeft _ | .loadIndex _
  | .random _ _ | .readDelay _ | .setDelay _ | .addIndex _ | .loadGlyph _ | .storeDecimal _
  | .saveRegisters _ | .restoreRegisters _ => .plain

namespace Opcode

/-- Whether an opcode is a jump, a call or a return. -/
def Jumps (opcode : Opcode) : Prop :=
  opcode.op = 0x1 ∨ opcode.op = 0x2 ∨ opcode.op = 0xB ∨ opcode.toNat = 0x00EE

instance (opcode : Opcode) : Decidable opcode.Jumps := inferInstanceAs (Decidable (_ ∨ _))

/-- Whether an opcode waits for a key and none is down. -/
def IsStalled (opcode : Opcode) (machine : Machine) : Prop :=
  opcode.op = 0xF ∧ opcode.nn = 0x0A ∧ ∀ key, machine.keypad.isDown key = false

instance (opcode : Opcode) (machine : Machine) : Decidable (opcode.IsStalled machine) :=
  inferInstanceAs (Decidable (_ ∧ _))

instance (opcode : Opcode) (machine : Machine) : Decidable (opcode.IsTaken machine) :=
  inferInstanceAs (Decidable (_ ∨ _))

/-- The kinds of work that stand out, each with the opcodes that do it. -/
structure Does (opcode : Opcode) (machine : Machine) (flow : Flow) : Prop where
  jump : flow = .jump ↔ opcode.Jumps
  keyWait : flow = .keyWait ↔ opcode.IsStalled machine
  draw : flow = .draw ↔ opcode.op = 0xD
  sound : flow = .sound ↔ opcode.op = 0xF ∧ opcode.nn = 0x18

variable {opcode : Opcode} {instruction : Instruction} {machine : Machine}

/-- The kind of work of an instruction shows in its opcodes. -/
theorem does_of_hasForm (form : opcode.HasForm instruction) :
    opcode.Does machine (instruction.flow machine) := by
  have bare : opcode.op ≠ 0x0 → opcode.toNat ≠ 0x00EE :=
    fun other same => other ((toNat_eq_iff 0xEE).mp same).1
  cases instruction with
  | clearDisplay =>
    obtain ⟨family, -, -⟩ := (toNat_eq_iff 0xE0).mp form
    have apart : opcode.toNat ≠ 0x00EE := by rw [show opcode.toNat = 0x00E0 from form]; decide
    constructor <;> simp [Instruction.flow, Jumps, IsStalled, family, apart]
  | returnFromCall =>
    obtain ⟨family, -, -⟩ := (toNat_eq_iff 0xEE).mp form
    have same : opcode.toNat = 0x00EE := form
    constructor <;> simp [Instruction.flow, Jumps, IsStalled, family, same]
  | jump | call | jumpOffset | loadIndex | skipIfByte | skipUnlessByte | skipIfEqual
  | skipUnlessEqual | loadByte | addByte | random | copy | or | and | xor | add | sub | shiftRight
  | subFrom | shiftLeft | draw =>
    have family := form.1
    have apart := bare (by rw [family]; decide)
    constructor <;> simp [Instruction.flow, Jumps, IsStalled, family, apart]
  | waitForKey x =>
    obtain ⟨family, member, -⟩ := form
    have apart := bare (by rw [family]; decide)
    by_cases up : machine.keypad.lowest? = none
    · have released := Keypad.lowest?_eq_none.mp up
      constructor <;> simp [Instruction.flow, Jumps, IsStalled, family, apart, member, up, released]
    · have pressed := mt Keypad.lowest?_eq_none.mpr up
      rw [Instruction.flow, if_neg up]
      constructor <;> simp_all [Jumps, IsStalled]
  | skipIfDown | skipIfUp | readDelay | setDelay | setSound | addIndex | loadGlyph | storeDecimal
  | saveRegisters | restoreRegisters =>
    obtain ⟨family, member, -⟩ := form
    have apart := bare (by rw [family]; decide)
    constructor <;> simp [Instruction.flow, Jumps, IsStalled, family, apart, member]

/-- An opcode that carries no instruction does none of this. -/
theorem does_unsupported (bare : ∀ instruction, ¬ opcode.HasForm instruction) :
    opcode.Does machine .unsupported where
  jump := by
    refine iff_of_false Flow.noConfusion ?_
    rintro (jump | call | offset | form)
    · exact bare (.jump opcode.nnn) ⟨jump, rfl⟩
    · exact bare (.call opcode.nnn) ⟨call, rfl⟩
    · exact bare (.jumpOffset opcode.nnn) ⟨offset, rfl⟩
    · exact bare .returnFromCall form
  keyWait := by
    refine iff_of_false Flow.noConfusion ?_
    rintro ⟨family, member, -⟩
    exact bare (.waitForKey opcode.x) ⟨family, member, rfl⟩
  draw := iff_of_false Flow.noConfusion fun family =>
    bare (.draw opcode.x opcode.y opcode.n) ⟨family, rfl, rfl, rfl⟩
  sound := iff_of_false Flow.noConfusion fun ⟨family, member⟩ =>
    bare (.setSound opcode.x) ⟨family, member, rfl⟩

end Opcode

namespace Machine

variable {machine after : Machine} {opcode : Opcode} {flow : Flow}

/-- An instruction that succeeds reports its kind of work. -/
theorem flow_perform_eq {instruction : Instruction}
    (performed : machine.perform instruction = .ok (flow, after)) :
    flow = instruction.flow machine := by
  cases instruction with
  | returnFromCall | call =>
    simp only [perform, bind, Except.bind] at performed
    split at performed
    · cases performed
    · cases performed
      rfl
  | waitForKey =>
    simp only [perform] at performed
    split at performed
    · rename_i key down
      cases performed
      simp [Instruction.flow, down]
    · rename_i up
      cases performed
      simp [Instruction.flow, up]
  | _ =>
    cases performed
    rfl

/-- **Which opcodes do which kind of work.** -/
theorem does_of_execute (executed : machine.execute opcode = .ok (flow, after)) :
    opcode.Does machine flow := by
  by_cases carries : ∃ instruction, opcode.HasForm instruction
  · obtain ⟨instruction, form⟩ := carries
    rw [(execute_of_hasForm machine form).1] at executed
    rw [flow_perform_eq executed]
    exact Opcode.does_of_hasForm form
  · have bare := not_exists.mp carries
    rw [(execute_of_bare machine bare).1] at executed
    cases executed
    exact Opcode.does_unsupported bare

/-! ### The program counter -/

/-- Where a step leads, unless it returns with no call open. -/
def destination? (machine : Machine) : Option Nat :=
  let opcode := machine.currentOpcode
  if opcode.op = 0x1 ∨ opcode.op = 0x2 then
    some opcode.nnn.val
  else if opcode.op = 0xB then
    some ((opcode.nnn.val + (machine.v firstRegister).toNat) % memorySize)
  else if opcode.toNat = 0x00EE then
    machine.stack.pop.toOption.map fun (address, _) => address.toNat
  else if opcode.IsStalled machine then
    some machine.counter.val
  else if opcode.IsTaken machine then
    some ((machine.counter.val + 4) % memorySize)
  else
    some ((machine.counter.val + 2) % memorySize)

/-- A skip that is taken moves past the next instruction. -/
theorem execute_of_isTaken (taken : opcode.IsTaken machine) :
    machine.execute opcode = .ok (.plain, machine.skip) := by
  rcases taken with ⟨family, equal⟩ | ⟨family, different⟩ | ⟨family, equal⟩ | ⟨family, different⟩ |
    ⟨family, member, down⟩ | ⟨family, member, up⟩
  · have form : opcode.HasForm (.skipIfByte opcode.x opcode.nn) := ⟨family, rfl, rfl⟩
    rw [execute_of_form form]
    simp [perform, skipIf, equal]
  · have form : opcode.HasForm (.skipUnlessByte opcode.x opcode.nn) := ⟨family, rfl, rfl⟩
    rw [execute_of_form form]
    simp [perform, skipIf, different]
  · have form : opcode.HasForm (.skipIfEqual opcode.x opcode.y) := ⟨family, rfl, rfl⟩
    rw [execute_of_form form]
    simp [perform, skipIf, equal]
  · have form : opcode.HasForm (.skipUnlessEqual opcode.x opcode.y) := ⟨family, rfl, rfl⟩
    rw [execute_of_form form]
    simp [perform, skipIf, different]
  · have form : opcode.HasForm (.skipIfDown opcode.x) := ⟨family, member, rfl⟩
    rw [execute_of_form form]
    simp [perform, skipIf, down]
  · have form : opcode.HasForm (.skipIfUp opcode.x) := ⟨family, member, rfl⟩
    rw [execute_of_form form]
    simp [perform, skipIf, up]

/-- Passing two opcodes adds four, in twelve bits. -/
theorem counter_skip_skip (machine : Machine) :
    machine.skip.skip.counter.val = (machine.counter.val + 4) % memorySize := by
  simp only [skip, Address.next, Address.wrap_val, memorySize]
  omega

/-- A return leads to the address that it takes off the stack. -/
theorem pop_of_return (low : machine.stack.IsLow)
    (performed : machine.perform .returnFromCall = .ok (flow, after)) :
    machine.stack.pop.toOption.map (fun (address, _) => address.toNat) =
      some after.counter.val := by
  simp only [perform, bind, Except.bind] at performed
  split at performed
  · cases performed
  · rename_i result popped
    cases performed
    have held := CallStack.toList_pop popped
    have inside : result.1.toNat < memorySize :=
      low result.1 (held ▸ List.mem_append_right _ List.mem_cons_self)
    rw [popped]
    exact congrArg some (Nat.mod_eq_of_lt inside).symm

/-- **Where the program counter points to once the opcode is executed.** -/
theorem destination?_eq (low : machine.stack.IsLow)
    (executed : machine.skip.execute machine.currentOpcode = .ok (flow, after)) :
    machine.destination? = some after.counter.val := by
  unfold destination?
  generalize machine.currentOpcode = opcode at executed ⊢
  simp only
  by_cases direct : opcode.op = 0x1 ∨ opcode.op = 0x2
  · rw [if_pos direct]
    rcases direct with family | family
    · have form : opcode.HasForm (.jump opcode.nnn) := ⟨family, rfl⟩
      rw [execute_of_form form] at executed
      cases executed
      rfl
    · have form : opcode.HasForm (.call opcode.nnn) := ⟨family, rfl⟩
      rw [execute_of_form form] at executed
      simp only [perform, bind, Except.bind] at executed
      split at executed
      · cases executed
      · cases executed
        rfl
  rw [if_neg direct]
  by_cases offset : opcode.op = 0xB
  · have form : opcode.HasForm (.jumpOffset opcode.nnn) := ⟨offset, rfl⟩
    rw [execute_of_form form] at executed
    rw [if_pos offset]
    cases executed
    rfl
  rw [if_neg offset]
  by_cases returns : opcode.toNat = 0x00EE
  · have form : opcode.HasForm .returnFromCall := returns
    rw [execute_of_form form] at executed
    rw [if_pos returns]
    exact pop_of_return low executed
  rw [if_neg returns]
  by_cases stalled : opcode.IsStalled machine
  · obtain ⟨family, member, released⟩ := stalled
    have form : opcode.HasForm (.waitForKey opcode.x) := ⟨family, member, rfl⟩
    rw [execute_of_form form] at executed
    have up : machine.skip.keypad.lowest? = none := Keypad.lowest?_eq_none.mpr released
    simp only [perform, up] at executed
    rw [if_pos ⟨family, member, released⟩]
    cases executed
    exact congrArg (some ∘ Fin.val) (Address.previous_next machine.counter).symm
  rw [if_neg stalled]
  by_cases taken : opcode.IsTaken machine
  · have skipped : machine.skip.execute opcode = .ok (.plain, machine.skip.skip) :=
      execute_of_isTaken taken
    rw [skipped] at executed
    rw [if_pos taken]
    cases executed
    exact congrArg some (counter_skip_skip machine).symm
  rw [if_neg taken]
  have foreign : ¬ opcode.Owns machine.skip .counter := by
    rintro (jump | call | jump | form | skips | ⟨family, member, up⟩)
    · exact direct (.inl jump)
    · exact direct (.inr call)
    · exact offset jump
    · exact returns form
    · exact taken skips
    · exact stalled ⟨family, member, Keypad.lowest?_eq_none.mp up⟩
  have kept : (machine.skip.executed opcode).Alike machine.skip .counter := alike_executed foreign
  unfold Machine.executed at kept
  rw [executed] at kept
  exact congrArg (some ∘ Fin.val) (Eq.symm kept)

end Machine

namespace Clockwork

/-- **Where a step leads, and the kind of work it reports.** Whatever was done with a machine, a step
that succeeds reads its opcode from two bytes, the second of which may lie at the start of memory,
and leads where the opcode says, judged by the values before the step. -/
theorem steers (timerMode : TimerMode) (seed : UInt64) (now : Moment) (operations : List Operation)
    (moment : Moment) (flow : Flow)
    (succeeds : (((new timerMode seed now).run operations).step moment).1 = .ok flow) :
    let start := (new timerMode seed now).run operations
    let machine := start.machine
    machine.currentOpcode.toNat = (machine.memory.get machine.counter).toNat * 256 +
        (machine.memory.get (Address.wrap (machine.counter.val + 1))).toNat ∧
      machine.destination? = some (start.step moment).2.machine.counter.val ∧
      machine.currentOpcode.Does machine flow := by
  intro start machine
  have low : machine.stack.IsLow := isLow_run operations CallStack.isLow_empty
  refine ⟨Opcode.ofBytes_toNat _ _, ?_⟩
  have result : (start.step moment).1 = .ok flow := succeeds
  rw [flow_step] at result
  cases executed : machine.skip.execute machine.currentOpcode with
  | error fault =>
    rw [executed] at result
    cases result
  | ok outcome =>
    obtain ⟨reported, after⟩ := outcome
    rw [executed] at result
    cases result
    have counter : (start.step moment).2.machine.counter = after.counter := by
      have alike : (start.step moment).2.machine.Alike _ .counter :=
        alike_step .counter moment (by decide) (by decide)
      unfold Machine.executed at alike
      rw [executed] at alike
      exact alike
    rw [counter]
    have does := Machine.does_of_execute executed
    exact ⟨Machine.destination?_eq low executed, does.jump, does.keyWait, does.draw, does.sound⟩

/-- A machine whose program jumps to the last byte of memory. -/
def brink : List Operation := [.load [0x1F, 0xFF] 0, .step 1]

/-- The opcode there ends in the first byte of memory, and the step leads to the second. -/
theorem steers_brink :
    ((new .perInstruction 0 0).run brink).machine.counter.val = 0xFFF ∧
      (((new .perInstruction 0 0).run brink).step 2).2.machine.counter.val = 0x001 := by
  have facts : ((new .perInstruction 0 0).run brink).machine.counter.val = 0xFFF ∧
      (((new .perInstruction 0 0).run brink).step 2).1 = .ok .unsupported ∧
      ((new .perInstruction 0 0).run brink).machine.destination? = some 0x001 := by decide +kernel
  obtain ⟨last, succeeds, leads⟩ := facts
  have steered := (steers .perInstruction 0 0 brink 2 .unsupported succeeds).2.1
  exact ⟨last, Option.some.inj (steered.symm.trans leads)⟩

end Clockwork

end Arcade
