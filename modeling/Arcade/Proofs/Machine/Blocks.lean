/-
**Blocks of registers in memory.**

Registers are stored one by one from the index on, and are read back from there. Past the end of
memory a block goes on at address zero, and the index itself may lie beyond memory; but a block has
sixteen bytes at most, so its bytes have places of their own (`Machine.place_inj`), and a byte that
is stored stays until something else is stored at its place.

* `Machine.saves_saveRegisters`, `Machine.recalls_restoreRegisters` and
  `Machine.spells_storeDecimal`: the loops over a block, each on its own;
* `Clockwork.gives_back`: what is stored is read back, whatever happened to the registers meanwhile.
-/

import Arcade.Proofs.Machine.Operation
import Arcade.Proofs.Machine.Repertoire

namespace Arcade

namespace Machine

variable {machine : Machine}

/-! ### Places -/

/-- The bytes of a block have places of their own, also where the block wraps around. -/
theorem place_inj {first second : Nat} (low : first < memorySize) (low' : second < memorySize) :
    machine.place first = machine.place second ↔ first = second := by
  rw [place, place, Fin.ext_iff, Address.wrap_val, Address.wrap_val]
  simp only [memorySize] at *
  omega

theorem name_lt (name : RegisterName) : name.val < memorySize := Nat.lt_trans name.isLt (by decide)

theorem place_name_inj {first second : RegisterName} :
    machine.place first.val = machine.place second.val ↔ first = second :=
  (place_inj (name_lt first) (name_lt second)).trans Fin.ext_iff.symm

theorem place_congr {other : Machine} (same : machine.index = other.index) (offset : Nat) :
    machine.place offset = other.place offset := by
  rw [place, place, same]

/-! ### One block -/

/-- What is left after the registers up to one of them were stored at the index. -/
structure Saves (before after : Machine) (x : RegisterName) : Prop where
  inside : ∀ name ≤ x, after.memory.get (before.place name.val) = before.v name
  outside : ∀ address, (∀ name ≤ x, address ≠ before.place name.val) →
    after.memory.get address = before.memory.get address
  registers : ∀ name, after.v name = before.v name
  index : after.index = before.index

/-- What is left after the registers up to one of them were read from the index on. -/
structure Recalls (before after : Machine) (x : RegisterName) : Prop where
  inside : ∀ name ≤ x, after.v name = before.memory.get (before.place name.val)
  outside : ∀ name, x < name → after.v name = before.v name
  index : after.index = before.index

/-- What is left after the three decimal digits of a number were stored at the index. -/
structure Spells (before after : Machine) (number : Nat) (digit : Fin 3 → UInt8) : Prop where
  digits : ∀ k, (digit k).toNat ≤ 9
  number : 100 * (digit 0).toNat + 10 * (digit 1).toNat + (digit 2).toNat = number
  inside : ∀ k, after.memory.get (before.place k.val) = digit k
  index : after.index = before.index

theorem get_setByteAt (offset : Nat) (byte : UInt8) :
    (machine.setByteAt offset byte).memory.get (machine.place offset) = byte :=
  (Memory.get_set _ _ _ _).trans (if_pos rfl)

/-- Each register lies at its own place: what is stored later goes elsewhere. -/
theorem get_saveRegisters {names : List RegisterName} {name : RegisterName}
    (member : name ∈ names) :
    (machine.saveRegisters names).memory.get (machine.place name.val) = machine.v name := by
  induction names generalizing machine with
  | nil => exact absurd member List.not_mem_nil
  | cons first rest ih =>
    rw [saveRegisters]
    by_cases later : name ∈ rest
    · exact ih later
    · obtain rfl : name = first := (List.mem_cons.mp member).resolve_right later
      have kept : ((machine.setByteAt name.val (machine.v name)).saveRegisters rest).Alike _
          (.memory (machine.place name.val)) := alike_saveRegisters fun other stored same =>
        later (place_name_inj.mp (Part.memory.inj same) ▸ stored)
      exact Eq.trans kept (get_setByteAt name.val (machine.v name))

/-- Each register is read from its own place: reading the others moves nothing. -/
theorem v_restoreRegisters {names : List RegisterName} {name : RegisterName}
    (member : name ∈ names) :
    (machine.restoreRegisters names).v name = machine.memory.get (machine.place name.val) := by
  induction names generalizing machine with
  | nil => exact absurd member List.not_mem_nil
  | cons first rest ih =>
    rw [restoreRegisters]
    by_cases later : name ∈ rest
    · exact ih later
    · obtain rfl : name = first := (List.mem_cons.mp member).resolve_right later
      have kept : ((machine.setV name (machine.byteAt name.val)).restoreRegisters rest).Alike _
          (.register name) := alike_restoreRegisters fun other read same =>
        later (Part.register.inj same ▸ read)
      exact Eq.trans kept ((registers_set machine name name _).trans (if_pos rfl))

variable (machine) (x : RegisterName)

/-- **Storing registers puts each at its place and changes nothing else in memory.** -/
theorem saves_saveRegisters : machine.Saves (machine.saveRegisters (registersUpTo x)) x := by
  have apart : ∀ part, (∀ name ≤ x, part ≠ .memory (machine.place name.val)) →
      (machine.saveRegisters (registersUpTo x)).Alike machine part := fun part others =>
    alike_saveRegisters fun name member => others name (mem_registersUpTo.mp member)
  refine ⟨fun name below => get_saveRegisters (mem_registersUpTo.mpr below),
    fun address others => apart (.memory address) fun name below same => ?_,
    fun name => apart (.register name) fun _ _ => Part.noConfusion,
    apart .index fun _ _ => Part.noConfusion⟩
  exact others name below (Part.memory.inj same)

/-- **Reading registers takes each from its place and leaves the others alone.** -/
theorem recalls_restoreRegisters :
    machine.Recalls (machine.restoreRegisters (registersUpTo x)) x := by
  have apart : ∀ part, (∀ name ≤ x, part ≠ .register name) →
      (machine.restoreRegisters (registersUpTo x)).Alike machine part := fun part others =>
    alike_restoreRegisters fun name member => others name (mem_registersUpTo.mp member)
  refine ⟨fun name below => v_restoreRegisters (mem_registersUpTo.mpr below),
    fun name above => apart (.register name) fun other below same => ?_,
    apart .index fun _ _ => Part.noConfusion⟩
  exact Nat.not_le.mpr above (Part.register.inj same ▸ below)

/-- What the decimal digits of a byte stand for, hundreds first. -/
def weight : Fin 3 → Nat
  | 0 => 100
  | 1 => 10
  | 2 => 1

/-- The decimal digits of a register, hundreds first. -/
def digit (k : Fin 3) : UInt8 := UInt8.ofNat ((machine.v x).toNat / weight k % 10)

theorem toNat_digit (k : Fin 3) :
    (machine.digit x k).toNat = (machine.v x).toNat / weight k % 10 := by
  rw [digit, UInt8.toNat_ofNat']
  omega

theorem storeDecimal_eq :
    machine.storeDecimal x =
      ((machine.setByteAt 0 (machine.digit x 0)).setByteAt 1 (machine.digit x 1)).setByteAt 2
        (machine.digit x 2) := by
  have bound := (machine.v x).toNat_lt
  have hundreds : (machine.v x).toNat / 100 = (machine.v x).toNat / weight 0 % 10 := by
    show _ = (machine.v x).toNat / 100 % 10
    omega
  have ones : (machine.v x).toNat % 10 = (machine.v x).toNat / weight 2 % 10 :=
    congrArg (· % 10) (Nat.div_one _).symm
  simp only [storeDecimal]
  rw [hundreds, ones]
  rfl

/-- **A register is spelled by its decimal digits**, each at its own place. -/
theorem spells_storeDecimal :
    machine.Spells (machine.storeDecimal x) (machine.v x).toNat (machine.digit x) where
  digits k := by
    rw [toNat_digit]
    omega
  number := by
    have bound := (machine.v x).toNat_lt
    simp only [toNat_digit, weight]
    omega
  inside k := by
    have stored : (machine.storeDecimal x).memory =
        ((machine.memory.set (machine.place 0) (machine.digit x 0)).set (machine.place 1)
          (machine.digit x 1)).set (machine.place 2) (machine.digit x 2) := by
      rw [storeDecimal_eq]
      rfl
    have apart : ∀ offset < 3, (machine.place offset = machine.place k.val ↔ offset = k.val) :=
      fun offset low => place_inj (Nat.lt_trans low (by decide)) (Nat.lt_trans k.isLt (by decide))
    simp only [stored, Memory.get_set, apart 0 (by decide), apart 1 (by decide),
      apart 2 (by decide)]
    match k with
    | 0 | 1 | 2 => rfl
  index := rfl

end Machine

namespace Clockwork

/-- Whether an operation reads registers from a block of bytes that were stored at the index: the
index is again what it was then, and the bytes are what they were. The registers may have changed,
and so may everything else. -/
structure ReadsBack (saved : Machine) (count : Nat) (later : Clockwork) (restore : Operation)
    (reader : Opcode) : Prop where
  enacts : restore.Enacts later reader
  family : reader.op = 0xF
  member : reader.nn = 0x65
  index : later.machine.index = saved.index
  untouched : ∀ k < count,
    later.machine.memory.get (saved.place k) = saved.memory.get (saved.place k)

variable {saved : Machine} {count : Nat} {later : Clockwork} {restore : Operation} {reader : Opcode}

/-- An operation that reads registers back takes the bytes that were stored. -/
theorem ReadsBack.restores (reads : ReadsBack saved count later restore reader) :
    let restored := (later.operate restore).2.machine
    (later.operate restore).1 = .flowed .plain ∧
      (∀ name ≤ reader.x, name.val < count →
        restored.v name = saved.memory.get (saved.place name.val)) ∧
      (∀ name, reader.x < name → restored.v name = later.machine.v name) ∧
      restored.index = later.machine.index := by
  intro restored
  obtain ⟨counter, executed⟩ := operate_of_enacts reads.enacts
  have form : reader.HasForm (.restoreRegisters reader.x) := ⟨reads.family, reads.member, rfl⟩
  have recalls := Machine.recalls_restoreRegisters { later.machine with counter } reader.x
  obtain ⟨returned, delay, sound, left⟩ := executed (Machine.execute_of_hasForm _ form).1
  rw [show restored = _ from left]
  refine ⟨returned, fun name below inside => ?_, recalls.outside, recalls.index⟩
  have there : later.machine.place name.val = saved.place name.val :=
    Machine.place_congr reads.index name.val
  calc _ = later.machine.memory.get (later.machine.place name.val) := recalls.inside name below
    _ = saved.memory.get (saved.place name.val) := by rw [there, reads.untouched _ inside]

/-- **What is stored in memory is read back.** Storing registers touches no byte outside its block,
wherever the block begins and also where it wraps around. Whatever happened since, as long as the
index and the bytes of the block are again what they were, reading them gives each register the
value it had when it was stored, and leaves the registers above and the index alone. The decimal
digits of a register are read back in the same way. -/
theorem gives_back (start : Clockwork) (save : Operation) (opcode : Opcode)
    (enacts : save.Enacts start opcode) (family : opcode.op = 0xF) :
    let saved := (start.operate save).2.machine
    (opcode.nn = 0x55 →
      (start.operate save).1 = .flowed .plain ∧ start.machine.Saves saved opcode.x ∧
        ∀ later restore reader, ReadsBack saved (opcode.x.val + 1) later restore reader →
          let restored := (later.operate restore).2.machine
          (later.operate restore).1 = .flowed .plain ∧
            (∀ name ≤ reader.x, name ≤ opcode.x → restored.v name = start.machine.v name) ∧
            (∀ name, reader.x < name → restored.v name = later.machine.v name) ∧
            restored.index = later.machine.index) ∧
    (opcode.nn = 0x33 →
      (start.operate save).1 = .flowed .plain ∧
        ∃ digit, start.machine.Spells saved (start.machine.v opcode.x).toNat digit ∧
          ∀ later restore reader, ReadsBack saved 3 later restore reader →
            let restored := (later.operate restore).2.machine
            (later.operate restore).1 = .flowed .plain ∧
              ∀ k : Fin 3, ∀ name ≤ reader.x, name.val = k.val → restored.v name = digit k) := by
  intro saved
  obtain ⟨counter, executed⟩ := operate_of_enacts enacts
  refine ⟨fun member => ?_, fun member => ?_⟩
  · have form : opcode.HasForm (.saveRegisters opcode.x) := ⟨family, member, rfl⟩
    obtain ⟨returned, delay, sound, left⟩ := executed (Machine.execute_of_hasForm _ form).1
    have saves : start.machine.Saves saved opcode.x := by
      have stored := Machine.saves_saveRegisters { start.machine with counter } opcode.x
      rw [show saved = _ from left]
      exact ⟨stored.inside, stored.outside, stored.registers, stored.index⟩
    refine ⟨returned, saves, fun later restore reader reads => ?_⟩
    obtain ⟨answered, inside, outside, index⟩ := reads.restores
    refine ⟨answered, fun name below within => ?_, outside, index⟩
    rw [inside name below (Nat.lt_succ_of_le within), Machine.place_congr saves.index,
      saves.inside name within]
  · have form : opcode.HasForm (.storeDecimal opcode.x) := ⟨family, member, rfl⟩
    obtain ⟨returned, delay, sound, left⟩ := executed (Machine.execute_of_hasForm _ form).1
    have spells : start.machine.Spells saved (start.machine.v opcode.x).toNat
        (start.machine.digit opcode.x) := by
      have stored := Machine.spells_storeDecimal { start.machine with counter } opcode.x
      rw [show saved = _ from left]
      exact ⟨stored.digits, stored.number, stored.inside, stored.index⟩
    refine ⟨returned, _, spells, fun later restore reader reads => ?_⟩
    obtain ⟨answered, inside, -, -⟩ := reads.restores
    refine ⟨answered, fun k name below same => ?_⟩
    rw [inside name below (same ▸ k.isLt), Machine.place_congr spells.index, same, spells.inside]

/-- A machine with values in its first three registers and the index two bytes before the end of
memory. -/
def keeper : Clockwork :=
  (new .perInstruction 0 0).run
    [.execute ⟨0x6011⟩, .execute ⟨0x6122⟩, .execute ⟨0x6233⟩, .execute ⟨0xAFFE⟩]

/-- The keeper once it has stored the three registers and lost two of their values. -/
def forgetful : Clockwork :=
  keeper.run [.execute ⟨0xF255⟩, .execute ⟨0x60AA⟩, .execute ⟨0x8204⟩]

/-- The third register lies at the start of memory, and is read back from there. -/
theorem gives_back_keeper :
    keeper.machine.place 2 = Address.wrap 0 ∧ forgetful.machine.v 2 = 0xDD ∧
      (forgetful.operate (.execute ⟨0xF265⟩)).2.machine.v 2 = keeper.machine.v 2 := by
  have facts : keeper.machine.place 2 = Address.wrap 0 ∧ forgetful.machine.v 2 = 0xDD := by
    decide +kernel
  have reads : ReadsBack (keeper.operate (.execute ⟨0xF255⟩)).2.machine 3 forgetful
      (.execute ⟨0xF265⟩) ⟨0xF265⟩ :=
    ⟨rfl, by decide, by decide, by decide +kernel, by decide +kernel⟩
  obtain ⟨-, -, later⟩ := (gives_back keeper (.execute ⟨0xF255⟩) ⟨0xF255⟩ rfl (by decide)).1
    (by decide)
  exact ⟨facts.1, facts.2, (later _ _ _ reads).2.1 2 (by decide) (by decide)⟩

end Clockwork

end Arcade
