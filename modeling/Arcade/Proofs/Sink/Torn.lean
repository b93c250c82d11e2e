/-
**What becomes of lines when writing fails.**

A send that fails may leave a part of its message's line behind, without the line feed (`IsTorn`).
The sink goes on with the next message all the same, and if that leaves its whole line behind, one
line holds both. No record ends in another, so such a line is the record of no message at all.

* `records_iff`: the lines of what sends leave behind are records, just if no whole line comes
  behind a torn one;
* `lines_complete_iff`: so every line that is written is the record of a message that was sent, just
  if this never happens;
* `exists_joined_line`: it does happen to a writer that fails once.
-/

import Arcade.Proofs.Sink.Framing

namespace Arcade

open RecordingWriter (taken)

namespace LineSink

variable {W : Type} [RecordingWriter W]

/-! ### What the sends of a run leave behind -/

/-- The bytes that the writer takes while a message is sent. -/
def deposit (sink : LineSink W) (message : Message) : List UInt8 :=
  (taken (sink.send message).2.writer).drop (taken sink.writer).length

/-- What a send leaves behind is a first part of its message's line, all of it if it succeeds. -/
theorem deposit_spec (sink : LineSink W) (message : Message) :
    taken (sink.send message).2.writer = taken sink.writer ++ sink.deposit message ∧
      sink.deposit message <+: message.line ∧
        ((sink.send message).1 = .ok () → sink.deposit message = message.line) := by
  obtain ⟨part, leading, written, whole⟩ := sink.send_takes message
  rw [deposit, written, List.drop_left]
  exact ⟨rfl, leading, whole⟩

/-- What one send did: its message, its answer, and what it left behind. -/
structure Deposit where
  message : Message
  answer : Except SinkError Unit
  bytes : List UInt8

/-- What the sends among some calls did. -/
def deposits (sink : LineSink W) : List Call → List Deposit
  | [] => []
  | .send message :: rest =>
    ⟨message, (sink.send message).1, sink.deposit message⟩ :: deposits (sink.send message).2 rest
  | .close :: rest => deposits sink.close rest

/-- **What a writer takes over a run is what the sends leave behind**, one after the other. -/
theorem taken_run (sink : LineSink W) (calls : List Call) :
    taken (sink.run calls).writer =
      taken sink.writer ++ (sink.deposits calls).flatMap Deposit.bytes := by
  induction calls generalizing sink with
  | nil => exact (List.append_nil _).symm
  | cons call rest ih =>
    cases call with
    | send message =>
      rw [deposits, List.flatMap_cons, ← List.append_assoc, ← (sink.deposit_spec message).1]
      exact ih _
    | close =>
      rw [deposits, ← taken_close sink]
      exact ih _

theorem map_message_deposits (sink : LineSink W) (calls : List Call) :
    (sink.deposits calls).map Deposit.message = sent calls := by
  induction calls generalizing sink with
  | nil => rfl
  | cons call rest ih =>
    cases call with
    | send message => exact congrArg (message :: ·) (ih _)
    | close => exact ih _

theorem prefix_deposits (sink : LineSink W) (calls : List Call) :
    ∀ deposit ∈ sink.deposits calls, deposit.bytes <+: deposit.message.line ∧
      (deposit.answer = .ok () → deposit.bytes = deposit.message.line) := by
  induction calls generalizing sink with
  | nil => exact fun _ member => by cases member
  | cons call rest ih =>
    cases call with
    | send message => exact List.forall_mem_cons.mpr ⟨(sink.deposit_spec message).2, ih _⟩
    | close => exact ih _

/-! ### Whole lines and torn ones -/

namespace Deposit

/-- Whether the whole line of the message is left behind. -/
def IsWhole (deposit : Deposit) : Prop := deposit.bytes = deposit.message.line

/-- Whether a part of the line is left behind, without its end. -/
def IsTorn (deposit : Deposit) : Prop := deposit.bytes ≠ [] ∧ ¬ deposit.IsWhole

/-- What is left behind without the end of the line holds no line feed. -/
theorem lineFeed_not_mem {deposit : Deposit} (leading : deposit.bytes <+: deposit.message.line)
    (unended : ¬ deposit.IsWhole) : lineFeed ∉ deposit.bytes := by
  have part : deposit.bytes <+: deposit.message.record :=
    (List.prefix_concat_iff.mp leading).resolve_left unended
  exact fun member => deposit.message.lineFeed_not_mem_record (part.subset member)

/-- A whole line ends what stands before it. -/
theorem linesOf_whole {deposit : Deposit} (whole : deposit.IsWhole) {pending : List UInt8}
    (unended : lineFeed ∉ pending) (rest : List UInt8) :
    linesOf (pending ++ (deposit.bytes ++ rest)) =
      (pending ++ deposit.message.record) :: linesOf rest := by
  have apart : pending ++ (deposit.bytes ++ rest) =
      (pending ++ deposit.message.record) ++ lineFeed :: rest := by
    rw [whole, Message.line]
    simp
  have unended' : lineFeed ∉ pending ++ deposit.message.record :=
    List.not_mem_append unended deposit.message.lineFeed_not_mem_record
  rw [apart, linesOf_append_cons unended']

/-- Such a line is a record only if nothing stands before. -/
theorem append_record_iff {deposit : Deposit} {sent : List Message}
    (known : deposit.message ∈ sent) (pending : List UInt8) :
    (∃ message ∈ sent, pending ++ deposit.message.record = message.record) ↔ pending = [] := by
  constructor
  · rintro ⟨message, -, same⟩
    exact Message.eq_nil_of_append_record same.symm
  · rintro rfl
    exact ⟨deposit.message, known, rfl⟩

end Deposit

/-- **The lines of what sends leave behind are records, just if no whole line comes behind a torn
one.** What stands open before the first of them counts as torn. -/
theorem records_iff {sent : List Message} {deposits : List Deposit} {pending : List UInt8}
    (known : ∀ deposit ∈ deposits, deposit.message ∈ sent)
    (leading : ∀ deposit ∈ deposits, deposit.bytes <+: deposit.message.line)
    (unended : lineFeed ∉ pending) :
    (∀ line ∈ linesOf (pending ++ deposits.flatMap Deposit.bytes),
        ∃ message ∈ sent, line = message.record) ↔
      (pending ≠ [] → ∀ deposit ∈ deposits, ¬ deposit.IsWhole) ∧
        deposits.Pairwise fun earlier later => earlier.IsTorn → ¬ later.IsWhole := by
  induction deposits generalizing pending with
  | nil => simp [linesOf_eq_nil unended]
  | cons deposit rest ih =>
    obtain ⟨named, known⟩ := List.forall_mem_cons.mp known
    obtain ⟨part, leading⟩ := List.forall_mem_cons.mp leading
    rw [List.flatMap_cons, List.pairwise_cons]
    by_cases whole : deposit.IsWhole
    · -- The line that stood open ends here, and it is a record if nothing stood before.
      have later := @ih [] known leading (by simp)
      rw [List.nil_append] at later
      rw [deposit.linesOf_whole whole unended, List.forall_mem_cons,
        deposit.append_record_iff named, later]
      constructor
      · rintro ⟨rfl, -, apart⟩
        exact ⟨fun full => absurd rfl full, fun _ _ torn => absurd whole torn.2, apart⟩
      · rintro ⟨clear, -, apart⟩
        refine ⟨Decidable.byContradiction fun full => ?_, fun full => absurd rfl full, apart⟩
        exact clear full deposit List.mem_cons_self whole
    · -- Otherwise it stays open, with what is left behind added to it.
      have unended' : lineFeed ∉ pending ++ deposit.bytes :=
        List.not_mem_append unended (deposit.lineFeed_not_mem part whole)
      rw [← List.append_assoc, ih known leading unended', List.forall_mem_cons]
      constructor
      · rintro ⟨clear, apart⟩
        exact ⟨fun full => ⟨whole, clear fun empty => full (List.append_eq_nil_iff.mp empty).1⟩,
          fun later member torn =>
            clear (fun empty => torn.1 (List.append_eq_nil_iff.mp empty).2) later member,
          apart⟩
      · rintro ⟨clear, behind, apart⟩
        refine ⟨fun full later member => ?_, apart⟩
        by_cases empty : deposit.bytes = []
        · rw [empty, List.append_nil] at full
          exact (clear full).2 later member
        · exact behind later member ⟨empty, whole⟩

/-! ### Lines of a run -/

/-- **Every line that is written is the record of a message that was sent, just if no whole line
comes behind a torn one**, whatever the writer does. What is written are first parts of the lines of
the messages, one after the other, and all of a line if its send succeeds. -/
theorem lines_complete_iff (sink : LineSink W) (calls : List Call) :
    ∃ added, taken (sink.run calls).writer = taken sink.writer ++ added ∧
      added = (sink.deposits calls).flatMap Deposit.bytes ∧
      (sink.deposits calls).map Deposit.message = sent calls ∧
      (∀ deposit ∈ sink.deposits calls, deposit.bytes <+: deposit.message.line ∧
        (deposit.answer = .ok () → deposit.IsWhole)) ∧
      ((∀ line ∈ linesOf added, ∃ message ∈ sent calls, line = message.record) ↔
        (sink.deposits calls).Pairwise fun earlier later => earlier.IsTorn → ¬ later.IsWhole) := by
  have messages := sink.map_message_deposits calls
  have leading := sink.prefix_deposits calls
  have known : ∀ deposit ∈ sink.deposits calls, deposit.message ∈ sent calls :=
    fun deposit member => messages ▸ List.mem_map_of_mem member
  have parts : ∀ deposit ∈ sink.deposits calls, deposit.bytes <+: deposit.message.line :=
    fun deposit member => (leading deposit member).1
  have lines := @records_iff _ _ [] known parts (by simp)
  exact ⟨_, sink.taken_run calls, rfl, messages, leading, by simpa using lines⟩

end LineSink

/-! ### A writer that fails once -/

/-- A writer that fails as planned. -/
structure PlannedWriter where
  /-- How many bytes each write to come takes before it fails; nothing if it does not fail. -/
  plan : List (Option Nat)
  /-- The bytes that were taken. -/
  taken : List UInt8

namespace PlannedWriter

/-- Writes some bytes, or a first part of them if that is the plan. -/
def write (writer : PlannedWriter) (bytes : List UInt8) : Except String Unit × PlannedWriter :=
  match writer.plan with
  | some count :: rest =>
    (.error BoundedWriter.fullReason, ⟨rest, writer.taken ++ bytes.take count⟩)
  | none :: rest => (.ok (), ⟨rest, writer.taken ++ bytes⟩)
  | [] => (.ok (), ⟨[], writer.taken ++ bytes⟩)

instance : RecordingWriter PlannedWriter where
  write := write
  flush writer := (.ok (), writer)
  taken := taken
  write_takes writer bytes := by
    obtain ⟨_ | ⟨_ | count, rest⟩, taken⟩ := writer
    · exact ⟨bytes, List.prefix_refl _, rfl, fun _ => rfl⟩
    · exact ⟨bytes, List.prefix_refl _, rfl, fun _ => rfl⟩
    · exact ⟨bytes.take count, List.take_prefix _ _, rfl, fun succeeds => by cases succeeds⟩
  flush_takes _ := rfl

end PlannedWriter

namespace LineSink

/-- **Two messages share a line** if the writer fails within the first and works again for the
second. -/
theorem exists_joined_line :
    ∃ line ∈ linesOf (taken ((new (PlannedWriter.mk [some 13] [])).run
        [.send (.error "nope"), .send (.error "")]).writer),
      ∀ message ∈ sent [.send (.error "nope"), .send (.error "")], line ≠ message.record := by
  let fragment := (Message.error "nope").record.take 13
  let second : Deposit := ⟨.error "", .ok (), (Message.error "").line⟩
  have written : taken ((new (PlannedWriter.mk [some 13] [])).run
      [.send (.error "nope"), .send (.error "")]).writer = fragment ++ (second.bytes ++ []) := by
    show ([] ++ fragment ++ second.message.record) ++ bytesOf "\n" = _
    rw [bytesOf_lineFeed]
    simp [second, Message.line]
  have unended : lineFeed ∉ fragment := fun member =>
    (Message.error "nope").lineFeed_not_mem_record (List.mem_of_mem_take member)
  have full : fragment ≠ [] := fun empty =>
    (Message.error "nope").record_ne_nil ((List.take_eq_nil_iff.mp empty).resolve_left (by decide))
  have whole : second.IsWhole := rfl
  rw [written, second.linesOf_whole whole unended]
  refine ⟨_, List.mem_cons_self, fun message member same => full ?_⟩
  exact Message.eq_nil_of_append_record same.symm

end LineSink

end Arcade
