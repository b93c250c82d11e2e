/-
**The log is a history.**

With tracing on, the machine logs a line for each opcode before it acts: the trace of an
instruction, under a name that stands where the instruction is carried out, or a warning about an
opcode that carries none. By then the program counter has moved past the opcode, so the address in
the line is worked out backwards from it, in sixteen bits of which twelve are kept. The programs
here log where the machine's own program does (`Logged`).

* `Machine.toNat_fetchedFrom`: worked out like this, the address is the one before the program
  counter, also where that wraps around;
* `Logged.outcome_execute` and `Logged.outcome_step`: an opcode and a step log one line, also if
  they fail, and do the same as without a log;
* `Clockwork.run_logged`: so does a run of steps;
* `Clockwork.tells_history`: the log of a run of steps tells, step by step, what was executed and
  where.
-/

import Arcade.Proofs.Machine.Faults
import Arcade.Proofs.Machine.Nesting

namespace Arcade

/-- A line of the log. -/
inductive LogLine where
  /-- The instruction at an address is executed. -/
  | trace (address : UInt16) (name : String) (opcode : Opcode)
  /-- The opcode at an address carries no instruction. -/
  | warning (address : UInt16) (opcode : Opcode)

namespace LogLine

/-- The line of a trace as it is written. -/
def traceLine? : LogLine → Option String
  | .trace address name opcode =>
    let column := String.ofList (name.toList.rightpad 6 ' ')
    some s!"{Text.hexUpper 4 address.toNat}: {column} {opcode.text}"
  | .warning _ _ => none

/-- The warning as it is written. -/
def warning? : LogLine → Option String
  | .trace _ _ _ => none
  | .warning address opcode =>
    some s!"unsupported opcode {opcode.text} at {Text.hexUpper 3 address.toNat}"

def isWarning : LogLine → Bool
  | .trace _ _ _ => false
  | .warning _ _ => true

/-- The address and the opcode in a line. -/
def told : LogLine → Nat × Nat
  | .trace address _ opcode | .warning address opcode => (address.toNat, opcode.toNat)

end LogLine

namespace Machine

/-- The address two bytes before the program counter. -/
def fetchedFrom (machine : Machine) : UInt16 :=
  (UInt16.ofNat machine.counter.val - 2) &&& 0x0FFF

/-- The line that is due for an opcode that the program counter points past. -/
def logLine (machine : Machine) (opcode : Opcode) : LogLine :=
  match Instruction.decode? opcode with
  | some instruction => .trace machine.fetchedFrom instruction.mnemonic opcode
  | none => .warning machine.fetchedFrom opcode

/-- The line that is due for a step. -/
def dueLine (machine : Machine) : LogLine := machine.skip.logLine machine.currentOpcode

end Machine

/-! ### Programs that log -/

/-- A program that writes to a machine and its clock in place and logs lines. What is logged stays
if it fails afterwards. -/
abbrev Logged (α : Type) := ExceptT Fault (StateM (Clockwork × List LogLine)) α

namespace Logged

/-- What a program returns, or its fault, what it leaves in either case, and the log. -/
def outcome {α : Type} (program : Logged α) (clockwork : Clockwork) (log : List LogLine) :
    Except Fault α × Clockwork × List LogLine :=
  Id.run (StateT.run (ExceptT.run program) (clockwork, log))

/-- Runs a program that logs nothing. -/
def act {α : Type} (program : InPlace α) : Logged α :=
  ExceptT.mk fun (clockwork, log) =>
    let (result, after) := program.outcome clockwork
    (result, after, log)

/-- Logs a line. -/
def emit (line : LogLine) : Logged Unit :=
  modify fun (clockwork, log) => (clockwork, log ++ [line])

/-- Performs an instruction under a name. -/
def traced (name : String) (opcode : Opcode) (instruction : Instruction) : Logged Flow := do
  emit (.trace (← act InPlace.machine).fetchedFrom name opcode)
  act (InPlace.perform instruction)

/-- Passes over an opcode. -/
def unsupported (opcode : Opcode) : Logged Flow := do
  emit (.warning (← act InPlace.machine).fetchedFrom opcode)
  return .unsupported

/-- Executes an arithmetic opcode. -/
def executeArithmetic (opcode : Opcode) : Logged Flow :=
  let x := opcode.x
  let y := opcode.y
  match opcode.n.val with
  | 0x0 => traced "LD" opcode (.copy x y)
  | 0x1 => traced "OR" opcode (.or x y)
  | 0x2 => traced "AND" opcode (.and x y)
  | 0x3 => traced "XOR" opcode (.xor x y)
  | 0x4 => traced "ADD" opcode (.add x y)
  | 0x5 => traced "SUB" opcode (.sub x y)
  | 0x6 => traced "SHR" opcode (.shiftRight x)
  | 0x7 => traced "SUBN" opcode (.subFrom x y)
  | 0xE => traced "SHL" opcode (.shiftLeft x)
  | _ => unsupported opcode

/-- Executes an opcode about calls, the picture, keys, timers or memory. -/
def executeDevice (opcode : Opcode) : Logged Flow :=
  let x := opcode.x
  match opcode.op, opcode.nn.toNat with
  | 0x0, 0xE0 =>
    if x = firstRegister then traced "CLS" opcode .clearDisplay else unsupported opcode
  | 0x0, 0xEE =>
    if x = firstRegister then traced "RET" opcode .returnFromCall else unsupported opcode
  | 0xE, 0x9E => traced "SKP" opcode (.skipIfDown x)
  | 0xE, 0xA1 => traced "SKNP" opcode (.skipIfUp x)
  | 0xF, 0x07 => traced "LD DT" opcode (.readDelay x)
  | 0xF, 0x0A => traced "LD K" opcode (.waitForKey x)
  | 0xF, 0x15 => traced "LD DT" opcode (.setDelay x)
  | 0xF, 0x18 => traced "LD ST" opcode (.setSound x)
  | 0xF, 0x1E => traced "ADD I" opcode (.addIndex x)
  | 0xF, 0x29 => traced "LD F" opcode (.loadGlyph x)
  | 0xF, 0x33 => traced "LD B" opcode (.storeDecimal x)
  | 0xF, 0x55 => traced "LD [I]" opcode (.saveRegisters x)
  | 0xF, 0x65 => traced "LD Vx" opcode (.restoreRegisters x)
  | _, _ => unsupported opcode

/-- Executes an opcode that the program counter points past. -/
def execute (opcode : Opcode) : Logged Flow :=
  let x := opcode.x
  let y := opcode.y
  match opcode.op with
  | 0x0 | 0xE | 0xF => executeDevice opcode
  | 0x1 => traced "JP" opcode (.jump opcode.nnn)
  | 0x2 => traced "CALL" opcode (.call opcode.nnn)
  | 0x3 => traced "SE" opcode (.skipIfByte x opcode.nn)
  | 0x4 => traced "SNE" opcode (.skipUnlessByte x opcode.nn)
  | 0x5 => traced "SE" opcode (.skipIfEqual x y)
  | 0x6 => traced "LD" opcode (.loadByte x opcode.nn)
  | 0x7 => traced "ADD" opcode (.addByte x opcode.nn)
  | 0x8 => executeArithmetic opcode
  | 0x9 => traced "SNE" opcode (.skipUnlessEqual x y)
  | 0xA => traced "LD I" opcode (.loadIndex opcode.nnn)
  | 0xB => traced "JP V0" opcode (.jumpOffset opcode.nnn)
  | 0xC => traced "RND" opcode (.random x opcode.nn)
  | 0xD => traced "DRW" opcode (.draw x y opcode.n)
  | _ => unsupported opcode

/-- Fetches and executes an opcode, and counts the timers down. -/
def step (now : Moment) : Logged Flow := do
  let opcode ← act InPlace.fetch
  let flow ← execute opcode
  act (InPlace.countDown now)
  return flow

/-- What is left and logged after a step at each moment. A step that fails does not end the run. -/
def run (clockwork : Clockwork) (log : List LogLine) : (moments : List Moment) →
    Clockwork × List LogLine
  | [] => (clockwork, log)
  | now :: later =>
    let (_, stepped, logged) := (step now).outcome clockwork log
    run stepped logged later

/-! ### What they come to -/

variable {clockwork : Clockwork} {log : List LogLine} {opcode : Opcode}

theorem outcome_bind {α β : Type} (program : Logged α) (next : α → Logged β) :
    (program >>= next).outcome clockwork log =
      match program.outcome clockwork log with
      | (.ok value, after, logged) => (next value).outcome after logged
      | (.error fault, after, logged) => (.error fault, after, logged) := by
  unfold outcome
  simp only [bind, ExceptT.bind, ExceptT.mk, StateT.bind, ExceptT.run, StateT.run, Id.run]
  cases program (clockwork, log) with
  | mk result after => cases result <;> rfl

theorem outcome_act {α : Type} (program : InPlace α) :
    (act program).outcome clockwork log =
      ((program.outcome clockwork).1, (program.outcome clockwork).2, log) := rfl

/-- What executing an opcode comes to, with the line that is due for it. -/
def recorded (clockwork : Clockwork) (log : List LogLine) (opcode : Opcode) :
    Except Fault Flow × Clockwork × List LogLine :=
  (((InPlace.execute opcode).outcome clockwork).1, ((InPlace.execute opcode).outcome clockwork).2,
    log ++ [clockwork.machine.logLine opcode])

/-- An instruction is traced under its name before it is performed. -/
theorem outcome_traced {instruction : Instruction} {name : String}
    (form : opcode.HasForm instruction) (named : instruction.mnemonic = name) :
    (traced name opcode instruction).outcome clockwork log = recorded clockwork log opcode := by
  have carries := Opcode.decode?_eq_some_iff.mpr form
  unfold recorded InPlace.execute Machine.logLine
  rw [carries, ← named]
  rfl

theorem outcome_unsupported (bare : Instruction.decode? opcode = none) :
    (unsupported opcode).outcome clockwork log = recorded clockwork log opcode := by
  unfold recorded InPlace.execute Machine.logLine
  rw [bare]
  rfl

theorem outcome_executeArithmetic (family : opcode.op = 0x8) :
    (executeArithmetic opcode).outcome clockwork log = recorded clockwork log opcode := by
  unfold executeArithmetic
  simp only
  -- One case for each last nibble, from `0` to `7` and `E`.
  split
  case h_7 | h_9 => exact outcome_traced ⟨family, ‹_›, rfl⟩ rfl
  case h_10 =>
    refine outcome_unsupported ?_
    simp [Instruction.decode?, Instruction.decodeArithmetic?, *]
  all_goals exact outcome_traced ⟨family, ‹_›, rfl, rfl⟩ rfl

theorem outcome_executeDevice (family : opcode.op = 0x0 ∨ opcode.op = 0xE ∨ opcode.op = 0xF) :
    (executeDevice opcode).outcome clockwork log = recorded clockwork log opcode := by
  unfold executeDevice
  simp only
  -- One case for each first nibble and lower byte, from `00E0` to `Fx65`.
  split
  case h_1 =>
    rename_i system member
    split
    · have byte : opcode.nn = 0xE0 := UInt8.toNat_inj.mp member
      exact outcome_traced ((Opcode.toNat_eq_iff 0xE0).mpr ⟨system, ‹_›, byte⟩) rfl
    · rename_i other
      exact outcome_unsupported (by simp [Instruction.decode?, system, other])
  case h_2 =>
    rename_i system member
    split
    · have byte : opcode.nn = 0xEE := UInt8.toNat_inj.mp member
      exact outcome_traced ((Opcode.toNat_eq_iff 0xEE).mpr ⟨system, ‹_›, byte⟩) rfl
    · rename_i other
      exact outcome_unsupported (by simp [Instruction.decode?, system, other])
  case h_14 =>
    refine outcome_unsupported ?_
    rcases family with family | family | family <;>
      simp_all [Instruction.decode?, Instruction.decodeDevice?]
  all_goals exact outcome_traced ⟨‹_›, UInt8.toNat_inj.mp ‹_›, rfl⟩ rfl

/-- **An opcode logs one line before it acts, also if it fails**, and does the same as without a
log. -/
theorem outcome_execute (opcode : Opcode) :
    (execute opcode).outcome clockwork log = recorded clockwork log opcode := by
  unfold execute
  simp only
  -- One case for each first nibble; `0`, `E` and `F` come first.
  split
  case h_1 | h_2 | h_3 => exact outcome_executeDevice (by omega)
  case h_11 => exact outcome_executeArithmetic ‹_›
  case h_4 | h_5 | h_13 | h_14 => exact outcome_traced ⟨‹_›, rfl⟩ rfl
  case h_16 => exact outcome_traced ⟨‹_›, rfl, rfl, rfl⟩ rfl
  case h_17 =>
    refine outcome_unsupported ?_
    simp [Instruction.decode?, *]
  all_goals exact outcome_traced ⟨‹_›, rfl, rfl⟩ rfl

/-- **A step logs the line that is due**, also if it fails, and does the same as without a log. -/
theorem outcome_step (now : Moment) :
    (step now).outcome clockwork log =
      ((clockwork.step now).1, (clockwork.step now).2, log ++ [clockwork.machine.dueLine]) := by
  have fetched : InPlace.fetch.outcome clockwork = (.ok clockwork.machine.currentOpcode,
    { clockwork with machine := clockwork.machine.skip }) := rfl
  rw [← InPlace.outcome_step]
  simp only [step, InPlace.step, outcome_bind, InPlace.outcome_bind, outcome_act, fetched,
    outcome_execute, recorded]
  generalize (InPlace.execute clockwork.machine.currentOpcode).outcome _ = executed
  obtain ⟨flow, after⟩ := executed
  cases flow with
  | error fault => rfl
  | ok flow =>
    simp only
    generalize (InPlace.countDown now).outcome after = counted
    obtain ⟨done, left⟩ := counted
    cases done <;> rfl

end Logged

/-! ### The lines -/

namespace Machine

variable {machine : Machine} {opcode : Opcode}

/-- Worked out in sixteen bits, the address is the one of the previous instruction. -/
theorem toNat_fetchedFrom : machine.fetchedFrom.toNat = machine.counter.previous.val := by
  have bound := machine.counter.isLt
  have mask : ∀ number : Nat, number &&& 0x0FFF = number % 4096 := fun number =>
    Nat.and_two_pow_sub_one_eq_mod number 12
  have back : (UInt16.ofNat machine.counter.val - 2).toNat =
      (65536 - 2 + machine.counter.val) % 65536 := by
    rw [UInt16.toNat_sub, Address.toNat_ofNat]
    rfl
  rw [fetchedFrom, UInt16.toNat_and, back]
  show _ &&& 0x0FFF = _
  rw [mask, Address.previous, Address.wrap_val]
  simp only [memorySize] at *
  omega

theorem told_logLine (machine : Machine) (opcode : Opcode) :
    (machine.logLine opcode).told = (machine.counter.previous.val, opcode.toNat) := by
  rw [← toNat_fetchedFrom]
  unfold logLine
  split <;> rfl

/-- A line is written as the notice is. -/
theorem text_logLine (machine : Machine) (opcode : Opcode) :
    (machine.logLine opcode).traceLine? = (machine.notice opcode).traceLine? ∧
      (machine.logLine opcode).warning? = (machine.notice opcode).warning? := by
  unfold logLine notice
  cases Instruction.decode? opcode with
  | none =>
    simp only [LogLine.traceLine?, LogLine.warning?, Notice.traceLine?, Notice.warning?,
      toNat_fetchedFrom, and_self]
  | some instruction =>
    simp only [LogLine.traceLine?, LogLine.warning?, Notice.traceLine?, Notice.warning?,
      toNat_fetchedFrom, and_self]

/-- A line is a warning if the opcode is not supported. -/
theorem isWarning_logLine (machine : Machine) (opcode : Opcode) :
    (machine.logLine opcode).isWarning = true ↔
      (machine.execute opcode).map Prod.fst = .ok .unsupported := by
  unfold logLine execute
  cases Instruction.decode? opcode with
  | none => exact ⟨fun _ => rfl, fun _ => rfl⟩
  | some instruction =>
    simp only [LogLine.isWarning, Bool.false_eq_true, false_iff]
    cases performed : machine.perform instruction with
    | error fault => exact nofun
    | ok outcome => exact fun same => flow_perform performed (Except.ok.inj same)

/-! ### Steps -/

/-- The address and the opcode that a step reads. -/
def site (machine : Machine) : Nat × Nat :=
  (machine.counter.val,
    (machine.memory.get machine.counter).toNat * 256 +
      (machine.memory.get (Address.wrap (machine.counter.val + 1))).toNat)

/-- Whether a step finds its opcode not supported. -/
def passesOver (machine : Machine) : Bool := decide (machine.step.flow = .ok .unsupported)

/-- The machines with which the steps of a batch begin. -/
def begun (machine : Machine) : (count : Nat) → List Machine
  | 0 => []
  | count + 1 =>
    machine :: match machine.step.flow with
      | .ok _ => machine.step.machine.begun count
      | .error _ => []

theorem told_dueLine (machine : Machine) : machine.dueLine.told = machine.site := by
  rw [dueLine, told_logLine, skip, Address.previous_next, currentOpcode, Opcode.ofBytes_toNat]
  rfl

theorem isWarning_dueLine (machine : Machine) : machine.dueLine.isWarning = machine.passesOver := by
  have flow : machine.step.flow = (machine.skip.execute machine.currentOpcode).map Prod.fst := by
    simp only [step, fetch]
    cases machine.skip.execute machine.currentOpcode <;> rfl
  rw [Bool.eq_iff_iff, passesOver, decide_eq_true_iff, flow]
  exact isWarning_logLine machine.skip machine.currentOpcode

theorem notice_step (machine : Machine) :
    machine.step.notice = machine.skip.notice machine.currentOpcode := by
  simp only [step, fetch]
  cases machine.skip.execute machine.currentOpcode <;> rfl

theorem text_dueLine (machine : Machine) :
    machine.dueLine.traceLine? = machine.step.notice.traceLine? ∧
      machine.dueLine.warning? = machine.step.notice.warning? := by
  rw [notice_step]
  exact text_logLine machine.skip machine.currentOpcode

/-- A batch notes one thing for each step that begins. -/
theorem notices_cycle (machine : Machine) (count : Nat) :
    (machine.cycle count).notices = (machine.begun count).map fun before => before.step.notice := by
  induction count generalizing machine with
  | zero => rfl
  | succ count ih =>
    rw [cycle_succ, begun]
    cases machine.step.flow with
    | error fault => rfl
    | ok flow =>
      have rest := ih machine.step.machine
      simp only [Batch.notices, List.reverse_append] at rest ⊢
      rw [rest]
      rfl

end Machine

namespace Clockwork

/-- The machines with which steps at some moments begin. -/
def visited (clockwork : Clockwork) : (moments : List Moment) → List Machine
  | [] => []
  | now :: later => clockwork.machine :: (clockwork.operate (.step now)).2.visited later

/-- **A run of steps logs one line for each step**: the one that is due when the step begins. -/
theorem run_logged (clockwork : Clockwork) (log : List LogLine) (moments : List Moment) :
    Logged.run clockwork log moments =
      (clockwork.run (moments.map .step),
        log ++ (clockwork.visited moments).map Machine.dueLine) := by
  induction moments generalizing clockwork log with
  | nil => rw [Logged.run, visited, List.map_nil, List.map_nil, List.append_nil, run_nil]
  | cons now later ih =>
    rw [Logged.run, Logged.outcome_step]
    simp only
    rw [ih, List.map_cons, run_cons, visited, operate_step, List.map_cons, List.append_assoc]
    rfl

/-- **The log tells what was executed and where.** However a program changes itself, and wherever
the program counter wraps around, a run of steps is traced in order, with one line for each step
whose opcode is supported, even if it fails, and one warning for each other step; each line names
the address that the program counter had when the step began and the opcode that memory held there.
The lines are written as the notices of the steps are, and a batch gives the notices of its
steps. -/
theorem tells_history (start : Clockwork) (moments : List Moment) :
    let visited := start.visited moments
    let log := (Logged.run start [] moments).2
    (Logged.run start [] moments).1 = start.run (moments.map .step) ∧
      (log.filter fun line => !line.isWarning).map LogLine.told =
        (visited.filter fun before => !before.passesOver).map Machine.site ∧
      (log.filter LogLine.isWarning).map LogLine.told =
        (visited.filter Machine.passesOver).map Machine.site ∧
      log.map LogLine.traceLine? = visited.map (fun before => before.step.notice.traceLine?) ∧
      log.map LogLine.warning? = visited.map (fun before => before.step.notice.warning?) ∧
      ∀ count, (start.machine.cycle count).notices =
        (start.machine.begun count).map fun before => before.step.notice := by
  intro visited log
  have logged : log = visited.map Machine.dueLine := congrArg Prod.snd (run_logged start [] moments)
  have told : LogLine.told ∘ Machine.dueLine = Machine.site := funext Machine.told_dueLine
  have warned : LogLine.isWarning ∘ Machine.dueLine = Machine.passesOver :=
    funext Machine.isWarning_dueLine
  have traced : (fun line => !LogLine.isWarning line) ∘ Machine.dueLine =
      fun before => !before.passesOver :=
    funext fun before => congrArg (!·) before.isWarning_dueLine
  refine ⟨congrArg Prod.fst (run_logged start [] moments), ?_, ?_, ?_, ?_,
    start.machine.notices_cycle⟩
  · rw [logged, List.filter_map, List.map_map, told, traced]
  · rw [logged, List.filter_map, List.map_map, told, warned]
  · rw [logged, List.map_map]
    exact List.map_congr_left fun before _ => before.text_dueLine.1
  · rw [logged, List.map_map]
    exact List.map_congr_left fun before _ => before.text_dueLine.2

/-- A jump to the last byte of memory, and an opcode that goes on at the first one. -/
example :
    (Logged.run ((new .perInstruction 0 0).run [.load [0x1F, 0xFF] 0]) [] [1, 2]).2.map
        LogLine.told = [(0x200, 0x1FFF), (0xFFF, 0x0000)] := by
  decide +kernel

end Clockwork

end Arcade
