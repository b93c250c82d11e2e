/-
**What an opcode may change.**

A machine is made of parts: its registers, each byte of its memory, its picture, and so on
(`Machine.eq_of_alike`). Each instruction owns a few of them and leaves all others alone, also where
addresses wrap around and where a result goes to the flag register. Which parts an opcode owns is
read off its nibbles (`Opcode.Owns`); it depends on the machine where an instruction does, as a skip
owns the program counter only if it is taken.

* `Machine.alike_perform`: an instruction leaves the parts alone that it does not own;
* `Opcode.owns_of_hasForm`: what an instruction owns, the opcodes of its form own;
* `Machine.keeps_unowned`: executing an opcode changes only what the opcode owns, and a step adds to
  it only that it moves past the opcode and, after success, counts the timers down.
-/

import Arcade.Machine.Run
import Arcade.Time
import Arcade.Proofs.Machine.Form

namespace Arcade

/-! ### Parts -/

/-- The parts of a machine. -/
inductive Part where
  | counter
  | index
  | register (name : RegisterName)
  | delay
  | sound
  | keypad
  | memory (address : Address)
  | stack
  | display
  | random
  | timerMode
  deriving DecidableEq

namespace Machine

/-- Whether two machines are alike in a part. -/
def Alike (one two : Machine) : Part → Prop
  | .counter => one.counter = two.counter
  | .index => one.index = two.index
  | .register name => one.v name = two.v name
  | .delay => one.delay = two.delay
  | .sound => one.sound = two.sound
  | .keypad => one.keypad = two.keypad
  | .memory address => one.memory.get address = two.memory.get address
  | .stack => one.stack = two.stack
  | .display => one.display = two.display
  | .random => one.random = two.random
  | .timerMode => one.timerMode = two.timerMode

/-- A machine is nothing beside its parts. -/
theorem eq_of_alike {one two : Machine} (alike : ∀ part, one.Alike two part) : one = two := by
  have registers : one.registers = two.registers :=
    Vector.ext fun index inside => alike (.register ⟨index, inside⟩)
  have memory : one.memory = two.memory := by
    have bytes : one.memory.bytes = two.memory.bytes :=
      Vector.ext fun index inside => alike (.memory ⟨index, inside⟩)
    exact congrArg Memory.mk bytes
  have counter := alike .counter
  have index := alike .index
  have delay := alike .delay
  have sound := alike .sound
  have keypad := alike .keypad
  have stack := alike .stack
  have display := alike .display
  have random := alike .random
  have timerMode := alike .timerMode
  cases one
  cases two
  simp only [Alike] at *
  simp only [*]

theorem Alike.refl (machine : Machine) (part : Part) : machine.Alike machine part := by
  cases part <;> rfl

theorem Alike.trans {one two three : Machine} {part : Part} (first : one.Alike two part)
    (second : two.Alike three part) : one.Alike three part := by
  cases part <;> exact Eq.trans first second

/-- The place in memory at the index plus an offset. -/
def place (machine : Machine) (offset : Nat) : Address :=
  Address.wrap (machine.index.toNat + offset)

end Machine

/-! ### What an instruction owns -/

/-- Whether an instruction owns a part of the machine that performs it. -/
def Instruction.Owns (machine : Machine) (part : Part) : Instruction → Prop
  | .clearDisplay => part = .display
  | .jump _ | .jumpOffset _ => part = .counter
  | .returnFromCall | .call _ => part = .stack ∨ part = .counter
  | .skipIfByte x byte => part = .counter ∧ machine.v x = byte
  | .skipUnlessByte x byte => part = .counter ∧ machine.v x ≠ byte
  | .skipIfEqual x y => part = .counter ∧ machine.v x = machine.v y
  | .skipUnlessEqual x y => part = .counter ∧ machine.v x ≠ machine.v y
  | .skipIfDown x =>
    part = .counter ∧ machine.keypad.isDown (Key.ofLowBits (machine.v x)) = true
  | .skipIfUp x =>
    part = .counter ∧ machine.keypad.isDown (Key.ofLowBits (machine.v x)) = false
  | .loadByte x _ | .addByte x _ | .copy x _ | .or x _ | .and x _ | .xor x _ | .readDelay x =>
    part = .register x
  | .add x _ | .sub x _ | .shiftRight x | .subFrom x _ | .shiftLeft x =>
    part = .register x ∨ part = .register flagRegister
  | .loadIndex _ | .addIndex _ | .loadGlyph _ => part = .index
  | .random x _ => part = .register x ∨ part = .random
  | .draw _ _ _ => part = .display ∨ part = .register flagRegister
  | .waitForKey x =>
    part = .register x ∧ machine.keypad.lowest? ≠ none ∨
      part = .counter ∧ machine.keypad.lowest? = none
  | .setDelay _ => part = .delay
  | .setSound _ => part = .sound
  | .storeDecimal _ => ∃ offset ≤ 2, part = .memory (machine.place offset)
  | .saveRegisters x => ∃ name ≤ x, part = .memory (machine.place name.val)
  | .restoreRegisters x => ∃ name ≤ x, part = .register name

namespace Machine

variable {machine : Machine} {part : Part}

theorem alike_setV {x : RegisterName} {value : UInt8} (other : part ≠ .register x) :
    (machine.setV x value).Alike machine part := by
  cases part with
  | register name =>
    have different : x ≠ name := fun same => other (congrArg Part.register same.symm)
    show (machine.setV x value).v name = machine.v name
    rw [registers_set, if_neg different]
  | _ => rfl

theorem alike_setResult {x : RegisterName} {result : UInt8} {flag : Bool}
    (other : part ≠ .register x) (unflagged : part ≠ .register flagRegister) :
    (machine.setResult x result flag).Alike machine part :=
  (alike_setV unflagged).trans (alike_setV other)

theorem alike_setByteAt {offset : Nat} {byte : UInt8}
    (other : part ≠ .memory (machine.place offset)) :
    (machine.setByteAt offset byte).Alike machine part := by
  cases part with
  | memory address =>
    have different : machine.place offset ≠ address := fun same => other (by rw [same])
    show (machine.memory.set (machine.place offset) byte).get address = _
    rw [Memory.get_set, if_neg different]
  | _ => rfl

theorem alike_counter {target : Address} (other : part ≠ .counter) :
    ({ machine with counter := target } : Machine).Alike machine part := by
  cases part with
  | counter => exact absurd rfl other
  | _ => rfl

theorem alike_skip (other : part ≠ .counter) : machine.skip.Alike machine part :=
  alike_counter other

/-- A skip that is not taken changes nothing. -/
theorem alike_skipIf {condition : Bool} (other : ¬ (part = .counter ∧ condition = true)) :
    (machine.skipIf condition).Alike machine part := by
  unfold skipIf
  split
  · rename_i taken
    exact alike_skip fun same => other ⟨same, taken⟩
  · exact Alike.refl machine part

theorem alike_storeDecimal {x : RegisterName}
    (others : ¬ ∃ offset ≤ 2, part = .memory (machine.place offset)) :
    (machine.storeDecimal x).Alike machine part := by
  have apart : ∀ offset ≤ 2, part ≠ .memory (machine.place offset) :=
    fun offset below same => others ⟨offset, below, same⟩
  unfold storeDecimal
  refine Alike.trans (alike_setByteAt (apart 2 (by decide))) ?_
  refine Alike.trans (alike_setByteAt (apart 1 (by decide))) ?_
  exact alike_setByteAt (apart 0 (by decide))

/-- Bytes are stored one by one, each at its own place from the index on. -/
theorem alike_saveRegisters {names : List RegisterName}
    (others : ∀ name ∈ names, part ≠ .memory (machine.place name.val)) :
    (machine.saveRegisters names).Alike machine part := by
  induction names generalizing machine with
  | nil => exact Alike.refl machine part
  | cons name rest ih =>
    rw [saveRegisters]
    refine (ih fun later member => ?_).trans (alike_setByteAt (others name List.mem_cons_self))
    exact others later (List.mem_cons_of_mem _ member)

theorem alike_restoreRegisters {names : List RegisterName}
    (others : ∀ name ∈ names, part ≠ .register name) :
    (machine.restoreRegisters names).Alike machine part := by
  induction names generalizing machine with
  | nil => exact Alike.refl machine part
  | cons name rest ih =>
    rw [restoreRegisters]
    refine (ih fun later member => ?_).trans (alike_setV (others name List.mem_cons_self))
    exact others later (List.mem_cons_of_mem _ member)

theorem mem_registersUpTo {x name : RegisterName} : name ∈ registersUpTo x ↔ name ≤ x := by
  simp [registersUpTo]

theorem alike_drawSprite {x y : RegisterName} {height : Fin 16} (undrawn : part ≠ .display)
    (unflagged : part ≠ .register flagRegister) :
    (machine.drawSprite x y height).Alike machine part := by
  have drawn : ∀ picture, ({ machine.setFlag false with display := picture } : Machine).Alike
      machine part := by
    intro picture
    have cleared : (machine.setFlag false).Alike machine part := alike_setV unflagged
    refine Alike.trans ?_ cleared
    cases part with
    | display => exact absurd rfl undrawn
    | _ => rfl
  unfold drawSprite
  simp only
  split
  · exact (alike_setV unflagged).trans (drawn _)
  · exact drawn _

/-- **An instruction leaves the parts alone that it does not own.** -/
theorem alike_perform {instruction : Instruction} {flow : Flow} {after : Machine}
    (performed : machine.perform instruction = .ok (flow, after))
    (foreign : ¬ instruction.Owns machine part) : after.Alike machine part := by
  cases instruction with
  | clearDisplay | jump | jumpOffset | loadIndex | addIndex | loadGlyph | setDelay | setSound =>
    cases performed
    cases part <;> first | rfl | exact absurd rfl foreign
  | returnFromCall | call =>
    obtain ⟨unstacked, unmoved⟩ := not_or.mp foreign
    simp only [perform, bind, Except.bind] at performed
    split at performed
    · cases performed
    · cases performed
      cases part <;> first | rfl | exact absurd rfl unstacked | exact absurd rfl unmoved
  | skipIfByte | skipIfEqual =>
    cases performed
    exact alike_skipIf (by rw [beq_iff_eq]; exact foreign)
  | skipUnlessByte | skipUnlessEqual =>
    cases performed
    exact alike_skipIf (by rw [bne_iff_ne]; exact foreign)
  | skipIfDown =>
    cases performed
    exact alike_skipIf foreign
  | skipIfUp =>
    cases performed
    exact alike_skipIf (by rw [Bool.not_eq_true']; exact foreign)
  | loadByte | addByte | copy | or | and | xor | readDelay =>
    cases performed
    exact alike_setV foreign
  | add | sub | shiftRight | subFrom | shiftLeft =>
    obtain ⟨other, unflagged⟩ := not_or.mp foreign
    cases performed
    exact alike_setResult other unflagged
  | random x mask =>
    obtain ⟨other, undrawn⟩ := not_or.mp foreign
    cases performed
    have written : (machine.setV x (machine.random.byte &&& mask)).Alike machine part :=
      alike_setV other
    refine Alike.trans ?_ written
    cases part <;> first | rfl | exact absurd rfl undrawn
  | draw =>
    obtain ⟨undrawn, unflagged⟩ := not_or.mp foreign
    cases performed
    exact alike_drawSprite undrawn unflagged
  | waitForKey x =>
    obtain ⟨unset, unmoved⟩ := not_or.mp foreign
    simp only [perform] at performed
    split at performed
    · rename_i key down
      cases performed
      exact alike_setV fun same => unset ⟨same, by simp [down]⟩
    · rename_i up
      cases performed
      exact alike_counter fun same => unmoved ⟨same, up⟩
  | storeDecimal =>
    cases performed
    exact alike_storeDecimal foreign
  | saveRegisters x =>
    cases performed
    refine alike_saveRegisters ?_
    intro name member same
    exact foreign ⟨name, mem_registersUpTo.mp member, same⟩
  | restoreRegisters x =>
    cases performed
    refine alike_restoreRegisters ?_
    intro name member same
    exact foreign ⟨name, mem_registersUpTo.mp member, same⟩

end Machine

/-! ### What an opcode owns -/

namespace Opcode

/-- Whether an opcode is a skip that the machine takes. -/
def IsTaken (opcode : Opcode) (machine : Machine) : Prop :=
  opcode.op = 0x3 ∧ machine.v opcode.x = opcode.nn ∨
  opcode.op = 0x4 ∧ machine.v opcode.x ≠ opcode.nn ∨
  opcode.op = 0x5 ∧ machine.v opcode.x = machine.v opcode.y ∨
  opcode.op = 0x9 ∧ machine.v opcode.x ≠ machine.v opcode.y ∨
  opcode.op = 0xE ∧ opcode.nn = 0x9E ∧
    machine.keypad.isDown (Key.ofLowBits (machine.v opcode.x)) = true ∨
  opcode.op = 0xE ∧ opcode.nn = 0xA1 ∧
    machine.keypad.isDown (Key.ofLowBits (machine.v opcode.x)) = false

/-- Whether the second nibble of an opcode names the register that its result goes to. -/
def HasResult (opcode : Opcode) (machine : Machine) : Prop :=
  opcode.op = 0x6 ∨ opcode.op = 0x7 ∨ opcode.op = 0x8 ∧ (opcode.n.val ≤ 0x7 ∨ opcode.n.val = 0xE) ∨
  opcode.op = 0xC ∨ opcode.op = 0xF ∧ opcode.nn = 0x07 ∨
  opcode.op = 0xF ∧ opcode.nn = 0x0A ∧ machine.keypad.lowest? ≠ none

/-- Whether an opcode writes to the flag register beside its result. -/
def HasFlag (opcode : Opcode) : Prop :=
  opcode.op = 0x8 ∧ (0x4 ≤ opcode.n.val ∧ opcode.n.val ≤ 0x7 ∨ opcode.n.val = 0xE) ∨
  opcode.op = 0xD

/-- Whether an opcode owns a part of the machine that executes it. -/
def Owns (opcode : Opcode) (machine : Machine) : Part → Prop
  | .memory address =>
    opcode.op = 0xF ∧ opcode.nn = 0x33 ∧ (∃ offset ≤ 2, address = machine.place offset) ∨
    opcode.op = 0xF ∧ opcode.nn = 0x55 ∧
      ∃ offset ≤ opcode.x.val, address = machine.place offset
  | .display => opcode.op = 0xD ∨ opcode.toNat = 0x00E0
  | .stack => opcode.op = 0x2 ∨ opcode.toNat = 0x00EE
  | .index => opcode.op = 0xA ∨ opcode.op = 0xF ∧ (opcode.nn = 0x1E ∨ opcode.nn = 0x29)
  | .delay => opcode.op = 0xF ∧ opcode.nn = 0x15
  | .sound => opcode.op = 0xF ∧ opcode.nn = 0x18
  | .random => opcode.op = 0xC
  | .keypad | .timerMode => False
  | .register name =>
    name = opcode.x ∧ opcode.HasResult machine ∨
    name ≤ opcode.x ∧ opcode.op = 0xF ∧ opcode.nn = 0x65 ∨
    name = flagRegister ∧ opcode.HasFlag
  | .counter =>
    opcode.op = 0x1 ∨ opcode.op = 0x2 ∨ opcode.op = 0xB ∨ opcode.toNat = 0x00EE ∨
    opcode.IsTaken machine ∨
    opcode.op = 0xF ∧ opcode.nn = 0x0A ∧ machine.keypad.lowest? = none

/-- **What an instruction owns, the opcodes of its form own.** -/
theorem owns_of_hasForm {opcode : Opcode} {instruction : Instruction} {machine : Machine}
    {part : Part} (form : opcode.HasForm instruction) (owns : instruction.Owns machine part) :
    opcode.Owns machine part := by
  cases instruction with
  | clearDisplay =>
    cases owns
    exact .inr form
  | returnFromCall =>
    rcases owns with rfl | rfl
    · exact .inr form
    · exact .inr (.inr (.inr (.inl form)))
  | call =>
    rcases owns with rfl | rfl
    · exact .inl form.1
    · exact .inr (.inl form.1)
  | skipIfByte | skipUnlessByte | skipIfEqual | skipUnlessEqual =>
    obtain ⟨rfl, taken⟩ := owns
    obtain ⟨family, rfl, rfl⟩ := form
    simp [Owns, IsTaken, family, taken]
  | skipIfDown | skipIfUp =>
    obtain ⟨rfl, taken⟩ := owns
    obtain ⟨family, member, rfl⟩ := form
    simp [Owns, IsTaken, family, member, taken]
  | jump | jumpOffset | loadIndex =>
    cases owns
    simp [Owns, form.1]
  | loadByte | addByte =>
    cases owns
    simp [Owns, HasResult, form.1, form.2.1]
  | copy | or | and | xor =>
    obtain ⟨family, member, rfl, -⟩ := form
    cases owns
    simp [Owns, HasResult, family, member]
  | add | sub | subFrom =>
    obtain ⟨family, member, rfl, -⟩ := form
    rcases owns with rfl | rfl <;> simp [Owns, HasResult, HasFlag, family, member]
  | shiftRight | shiftLeft =>
    obtain ⟨family, member, rfl⟩ := form
    rcases owns with rfl | rfl <;> simp [Owns, HasResult, HasFlag, family, member]
  | random =>
    obtain ⟨family, rfl, -⟩ := form
    rcases owns with rfl | rfl <;> simp [Owns, HasResult, family]
  | draw => rcases owns with rfl | rfl <;> simp [Owns, HasFlag, form.1]
  | waitForKey =>
    obtain ⟨family, member, rfl⟩ := form
    rcases owns with ⟨rfl, down⟩ | ⟨rfl, up⟩
    · simp [Owns, HasResult, family, member, down]
    · simp [Owns, family, member, up]
  | readDelay =>
    obtain ⟨family, member, rfl⟩ := form
    cases owns
    simp [Owns, HasResult, family, member]
  | setDelay | setSound | addIndex | loadGlyph =>
    cases owns
    simp [Owns, form.1, form.2.1]
  | storeDecimal =>
    obtain ⟨offset, below, rfl⟩ := owns
    exact .inl ⟨form.1, form.2.1, offset, below, rfl⟩
  | saveRegisters =>
    obtain ⟨family, member, rfl⟩ := form
    obtain ⟨name, below, rfl⟩ := owns
    exact .inr ⟨family, member, name.val, below, rfl⟩
  | restoreRegisters =>
    obtain ⟨family, member, rfl⟩ := form
    obtain ⟨name, below, rfl⟩ := owns
    exact .inr (.inl ⟨below, family, member⟩)

end Opcode

namespace Machine

/-- The machine after it executed an opcode, also if it failed to. -/
def executed (machine : Machine) (opcode : Opcode) : Machine :=
  match machine.execute opcode with
  | .ok (_, after) => after
  | .error _ => machine

/-- Counts the timers down after an instruction: always if they go by instructions, and in real
time if a period of their clock has passed. -/
def countDown (machine : Machine) (timer : Clock) (now : Moment) : Machine × Clock :=
  match machine.timerMode with
  | .perInstruction => (machine.tickTimers, timer)
  | .realtime =>
    let (due, timer) := timer.tick now
    (if due then machine.tickTimers else machine, timer)

/-- A step at a moment, with the clock that the timers go by in real time. -/
def stepAt (machine : Machine) (timer : Clock) (now : Moment) :
    Except Fault Flow × Machine × Clock :=
  let (opcode, fetched) := machine.fetch
  match fetched.execute opcode with
  | .ok (flow, executed) => (.ok flow, executed.countDown timer now)
  | .error fault => (.error fault, fetched, timer)

/-- What a step comes to, whatever the opcode is: the machine moves past it and, if the opcode does
not fail, counts the timers down. -/
def passed (machine : Machine) (timer : Clock) (now : Moment) : Machine :=
  match machine.step.flow with
  | .ok _ => (machine.skip.countDown timer now).1
  | .error _ => machine.skip

variable {machine : Machine} {opcode : Opcode} {part : Part} {timer : Clock} {now : Moment}

/-- Executing an opcode changes only what it owns; one that fails changes nothing. -/
theorem alike_executed (foreign : ¬ opcode.Owns machine part) :
    (machine.executed opcode).Alike machine part := by
  unfold executed execute
  cases carries : Instruction.decode? opcode with
  | none => exact Alike.refl machine part
  | some instruction =>
    have form := Opcode.hasForm_of_decode? carries
    simp only
    cases performed : machine.perform instruction with
    | error fault => exact Alike.refl machine part
    | ok outcome =>
      exact alike_perform performed fun owns => foreign (Opcode.owns_of_hasForm form owns)

/-- Whether an opcode owns a part does not hang on the program counter. -/
theorem owns_skip : opcode.Owns machine.skip part ↔ opcode.Owns machine part := by
  cases part <;> rfl

/-- Counting the timers down does to each part what it does to one that is alike. -/
theorem Alike.tickTimers {one two : Machine} (alike : one.Alike two part) :
    one.tickTimers.Alike two.tickTimers part := by
  cases part with
  | delay =>
    show (if one.delay = 0 then (0 : UInt8) else one.delay - 1) = _
    rw [show one.delay = two.delay from alike]
    rfl
  | sound =>
    show (if one.sound = 0 then (0 : UInt8) else one.sound - 1) = _
    rw [show one.sound = two.sound from alike]
    rfl
  | _ => exact alike

theorem Alike.countDown {one two : Machine} (alike : one.Alike two part)
    (mode : one.timerMode = two.timerMode) :
    (one.countDown timer now).1.Alike (two.countDown timer now).1 part := by
  unfold Machine.countDown
  rw [mode]
  cases two.timerMode with
  | perInstruction => exact alike.tickTimers
  | realtime =>
    show Alike (if (timer.tick now).1 then _ else _) (if (timer.tick now).1 then _ else _) part
    split
    · exact alike.tickTimers
    · exact alike

/-- Counting down touches nothing but the timers. -/
theorem alike_tickTimers (undelayed : part ≠ .delay) (unsounded : part ≠ .sound) :
    machine.tickTimers.Alike machine part := by
  cases part <;> first | rfl | exact absurd rfl undelayed | exact absurd rfl unsounded

theorem alike_countDown (undelayed : part ≠ .delay) (unsounded : part ≠ .sound) :
    (machine.countDown timer now).1.Alike machine part := by
  unfold countDown
  cases machine.timerMode with
  | perInstruction => exact alike_tickTimers undelayed unsounded
  | realtime =>
    show Alike (if (timer.tick now).1 then _ else _) machine part
    split
    · exact alike_tickTimers undelayed unsounded
    · exact Alike.refl machine part

/-- A step is what the opcode does once the machine moved past it, and the timers after success. -/
theorem stepAt_eq (machine : Machine) (timer : Clock) (now : Moment) :
    machine.stepAt timer now =
      (machine.step.flow,
        match machine.step.flow with
        | .ok _ => (machine.skip.executed machine.currentOpcode).countDown timer now
        | .error _ => (machine.skip, timer)) := by
  simp only [stepAt, step, fetch, executed]
  cases machine.skip.execute machine.currentOpcode <;> rfl

/-- As long as no period of the timers' clock passes, a step at a moment is a step. -/
theorem stepAt_of_not_due (waits : (timer.tick now).1 = false) :
    machine.stepAt timer now = (machine.step.flow, machine.step.machine, timer) := by
  have kept : (timer.tick now).2 = timer := by
    unfold Clock.tick at waits ⊢
    split at waits
    · cases waits
    · rename_i early
      rw [if_neg early]
  have counted : ∀ executed : Machine,
      executed.countDown timer now = (executed.tickAfterInstruction, timer) := by
    intro executed
    unfold countDown tickAfterInstruction
    cases executed.timerMode with
    | perInstruction => rfl
    | realtime => simp only [waits, kept, Bool.false_eq_true, if_false]
  simp only [stepAt, step, fetch]
  cases machine.skip.execute machine.currentOpcode with
  | error fault => rfl
  | ok outcome => simp only [counted]

/-- In what its opcode does not own, a step only passes the opcode. -/
theorem alike_stepAt (foreign : ¬ machine.currentOpcode.Owns machine part) :
    (machine.stepAt timer now).2.1.Alike (machine.passed timer now) part := by
  rw [stepAt_eq]
  unfold passed
  cases machine.step.flow with
  | error fault => exact Alike.refl machine.skip part
  | ok flow =>
    have kept : (machine.skip.executed machine.currentOpcode).Alike machine.skip part :=
      alike_executed fun owns => foreign (owns_skip.mp owns)
    have mode : (machine.skip.executed machine.currentOpcode).Alike machine.skip .timerMode :=
      alike_executed id
    exact kept.countDown mode

/-- Passing an opcode moves the program counter and may count the timers down. -/
theorem alike_passed (unmoved : part ≠ .counter) (undelayed : part ≠ .delay)
    (unsounded : part ≠ .sound) : (machine.passed timer now).Alike machine part := by
  unfold passed
  cases machine.step.flow with
  | error fault => exact alike_skip unmoved
  | ok flow => exact (alike_countDown undelayed unsounded).trans (alike_skip unmoved)

/-- **Executing an opcode changes only what the opcode owns**, and a step adds to it only that it
moves past the opcode, which is the program counter, and, after success, counts the timers down. -/
theorem keeps_unowned (machine : Machine) :
    (∀ opcode part, ¬ opcode.Owns machine part →
      (machine.executed opcode).Alike machine part) ∧
    ∀ timer now,
      ((timer.tick now).1 = false →
        machine.stepAt timer now = (machine.step.flow, machine.step.machine, timer)) ∧
      (∀ flow, machine.step.flow = .ok flow →
        machine.stepAt timer now =
          (.ok flow, (machine.skip.executed machine.currentOpcode).countDown timer now)) ∧
      (∀ fault, machine.step.flow = .error fault →
        machine.stepAt timer now = (.error fault, machine.skip, timer)) ∧
      ∀ part, ¬ machine.currentOpcode.Owns machine part →
        (machine.stepAt timer now).2.1.Alike (machine.passed timer now) part ∧
          (part ≠ .counter → part ≠ .delay → part ≠ .sound →
            (machine.stepAt timer now).2.1.Alike machine part) := by
  refine ⟨fun opcode part => alike_executed, fun timer now =>
    ⟨stepAt_of_not_due, fun flow succeeded => ?_, fun fault failed => ?_, fun part foreign => ?_⟩⟩
  · rw [stepAt_eq, succeeded]
  · rw [stepAt_eq, failed]
  · refine ⟨alike_stepAt foreign, fun unmoved undelayed unsounded => ?_⟩
    exact (alike_stepAt foreign).trans (alike_passed unmoved undelayed unsounded)

end Machine

end Arcade
