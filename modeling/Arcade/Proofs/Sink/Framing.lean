/-
**One line for each message.**

A writer that keeps a record of what it took (`RecordingWriter`) takes a first part of what it is
given, and all of it if it does not fail (`Takes`). So a send leaves a first part of its message's
line behind, and the whole line if it succeeds (`send_takes`).

* `taken_run_of_neverFails`: on a writer that never fails, what is written are the lines of the
  messages that are sent before the sink is closed;
* `lines_recovered`: these lines are read back as the messages, and a closed sink refuses every
  message and writes nothing.
-/

import Arcade.Proofs.Sink.Records

namespace Arcade

/-- A writer that keeps a record of the bytes that it took. -/
class RecordingWriter (W : Type) extends Writer W where
  /-- The bytes that were taken. -/
  taken : W → List UInt8
  /-- A first part of some bytes is taken, all of them if writing succeeds. -/
  write_takes (writer : W) (bytes : List UInt8) : ∃ part, part <+: bytes ∧
    taken (write writer bytes).2 = taken writer ++ part ∧
      ((write writer bytes).1 = .ok () → part = bytes)
  /-- A flush takes nothing. -/
  flush_takes (writer : W) : taken (flush writer).2 = taken writer

open RecordingWriter (taken)

namespace Writer

/-! ### Writers that never fail -/

section Requests

variable {W : Type} [Writer W]

/-- What is asked of a writer. -/
inductive Request where
  | write (bytes : List UInt8)
  | flush

/-- What a writer answers. -/
def answer (writer : W) : Request → Except String Unit × W
  | .write bytes => write writer bytes
  | .flush => flush writer

/-- The writer after some requests. -/
def after (writer : W) (requests : List Request) : W :=
  requests.foldl (fun writer request => (answer writer request).2) writer

/-- Whatever is asked of the writer, and whatever was asked before, it succeeds. -/
def NeverFails (writer : W) : Prop :=
  ∀ (requests : List Request) (request : Request),
    (answer (after writer requests) request).1 = .ok ()

/-- A writer that never fails answers a request and stays one that never fails. -/
theorem NeverFails.answer {writer : W} (healthy : NeverFails writer) (request : Request) :
    (answer writer request).1 = .ok () ∧ NeverFails (answer writer request).2 :=
  ⟨healthy [] request, fun requests => healthy (request :: requests)⟩

end Requests

/-! ### What writers take -/

variable {W : Type} [RecordingWriter W] {before middle after : W} {bytes more : List UInt8}
variable {complete complete' : Prop}

/-- A first part of some bytes was taken, and all of them under a condition. -/
def Takes (before : W) (bytes : List UInt8) (after : W) (complete : Prop) : Prop :=
  ∃ part, part <+: bytes ∧ taken after = taken before ++ part ∧ (complete → part = bytes)

theorem takes_write (writer : W) (bytes : List UInt8) :
    Takes writer bytes (write writer bytes).2 ((write writer bytes).1 = .ok ()) :=
  RecordingWriter.write_takes writer bytes

theorem takes_flush (writer : W) : Takes writer [] (flush writer).2 True :=
  ⟨[], List.prefix_refl _, (RecordingWriter.flush_takes writer).trans (List.append_nil _).symm,
    fun _ => rfl⟩

namespace Takes

theorem mono (takes : Takes before bytes after complete) (weaker : complete' → complete) :
    Takes before bytes after complete' := by
  obtain ⟨part, leading, written, whole⟩ := takes
  exact ⟨part, leading, written, fun holds => whole (weaker holds)⟩

/-- Nothing more is written after a failure. -/
theorem broken (takes : Takes before bytes after complete) (more : List UInt8) :
    Takes before (bytes ++ more) after False := by
  obtain ⟨part, leading, written, -⟩ := takes
  exact ⟨part, leading.trans (List.prefix_append _ _), written, False.elim⟩

/-- More is written after a success. -/
theorem onward (first : Takes before bytes middle complete) (success : complete)
    (second : Takes middle more after complete') :
    Takes before (bytes ++ more) after complete' := by
  obtain ⟨part, -, written, whole⟩ := first
  obtain ⟨rest, leading, written', whole'⟩ := second
  obtain rfl := whole success
  refine ⟨part ++ rest, (List.prefix_append_right_inj _).mpr leading, ?_, fun holds => ?_⟩
  · rw [written', written, List.append_assoc]
  · rw [whole' holds]

end Takes

end Writer

/-! ### Writers with a bound -/

namespace BoundedWriter

/-- What a writer with a bound does with some bytes. -/
theorem write_room (room : Nat) (failsToFlush : Bool) (written bytes : List UInt8) :
    write ⟨some room, failsToFlush, written⟩ bytes =
      (if bytes.length ≤ room then .ok () else .error fullReason,
        ⟨some (room - (bytes.take room).length), failsToFlush, written ++ bytes.take room⟩) := by
  rw [write]
  show (if _ then _ else _) = _
  split <;> rfl

instance : RecordingWriter BoundedWriter where
  taken := written
  write_takes writer bytes := by
    obtain ⟨room, failsToFlush, written⟩ := writer
    cases room with
    | none => exact ⟨bytes, List.prefix_refl _, rfl, fun _ => rfl⟩
    | some room =>
      refine ⟨bytes.take room, List.take_prefix _ _, ?_, fun succeeds => ?_⟩
      · exact congrArg (fun after => after.2.written) (write_room _ _ _ _)
      · have result := congrArg Prod.fst (write_room room failsToFlush written bytes)
        refine List.take_of_length_le (Nat.le_of_not_lt fun long => ?_)
        cases (result.trans (if_neg (Nat.not_le_of_lt long))).symm.trans succeeds
  flush_takes _ := rfl

/-- A writer without a bound, whose flushes succeed, never fails. -/
theorem neverFails_unbounded (written : List UInt8) :
    Writer.NeverFails (BoundedWriter.mk none false written) := by
  intro requests
  induction requests generalizing written with
  | nil =>
    intro request
    cases request <;> rfl
  | cons first rest ih =>
    cases first with
    | write bytes => exact ih (written ++ bytes)
    | flush => exact ih written

end BoundedWriter

namespace LineSink

open Writer (NeverFails Takes takes_write takes_flush)

variable {W : Type} [RecordingWriter W]

/-! ### What a send leaves behind -/

theorem bytesOf_lineFeed : bytesOf "\n" = [lineFeed] := Text.toList_toUTF8 "\n"

section Outcomes

variable {writer written ended flushed : W} {message : Message} {reason : String}

/-- A send breaks off if the record cannot be written. -/
theorem send_of_unrecorded
    (record : Writer.write writer message.record = (.error reason, written)) :
    (new writer).send message = (.error (.encoding reason), new written) := by
  rw [Message.record] at record
  simp [send, new, record]

/-- It breaks off if the line cannot be ended. -/
theorem send_of_unended (record : Writer.write writer message.record = (.ok (), written))
    (feed : Writer.write written [lineFeed] = (.error reason, ended)) :
    (new writer).send message = (.error (.io reason), new ended) := by
  rw [Message.record] at record
  rw [← bytesOf_lineFeed] at feed
  simp [send, new, record, feed]

/-- Otherwise its answer is that of the flush. -/
theorem send_of_ended {result : Except String Unit}
    (record : Writer.write writer message.record = (.ok (), written))
    (feed : Writer.write written [lineFeed] = (.ok (), ended))
    (flush : Writer.flush ended = (result, flushed)) :
    (new writer).send message = (result.mapError .io, new flushed) := by
  rw [Message.record] at record
  rw [← bytesOf_lineFeed] at feed
  cases result <;> simp [send, new, record, feed, flush, Except.mapError]

end Outcomes

/-- **A send leaves a first part of its message's line behind**, and all of it if it succeeds. -/
theorem send_takes (sink : LineSink W) (message : Message) :
    Takes sink.writer message.line (sink.send message).2.writer
      ((sink.send message).1 = .ok ()) := by
  obtain ⟨writer, opened⟩ := sink
  cases opened with
  | false => exact ⟨[], List.nil_prefix, (List.append_nil _).symm, fun sent => by cases sent⟩
  | true =>
    show Takes writer (message.record ++ [lineFeed]) ((new writer).send message).2.writer
      (((new writer).send message).1 = .ok ())
    have first := takes_write writer message.record
    rcases record : Writer.write writer message.record with ⟨reason | _, written⟩ <;>
      rw [record] at first
    · rw [send_of_unrecorded record]
      exact (first.broken _).mono fun sent => by cases sent
    have second := takes_write written [lineFeed]
    rcases feed : Writer.write written [lineFeed] with ⟨reason | _, ended⟩ <;> rw [feed] at second
    · rw [send_of_unended record feed]
      exact (first.onward rfl second).mono fun sent => by cases sent
    have third := takes_flush ended
    rcases flush : Writer.flush ended with ⟨result, flushed⟩
    rw [flush] at third
    rw [send_of_ended record feed flush]
    have whole := (first.onward rfl second).onward rfl third
    rw [List.append_nil] at whole
    exact whole.mono fun _ => trivial

/-! ### Runs -/

/-- What is done to a sink. -/
inductive Call where
  | send (message : Message)
  | close
  deriving DecidableEq

/-- The sink after a call. -/
def perform (sink : LineSink W) : Call → LineSink W
  | .send message => (sink.send message).2
  | .close => sink.close

/-- The sink after some calls. -/
def run (sink : LineSink W) (calls : List Call) : LineSink W := calls.foldl perform sink

/-- The messages that are passed to send. -/
def sent (calls : List Call) : List Message :=
  calls.filterMap fun call =>
    match call with
    | .send message => some message
    | .close => none

/-- The messages that are passed to send before the sink is closed. -/
def sentInTime (calls : List Call) : List Message := sent (calls.takeWhile (· != .close))

theorem taken_close (sink : LineSink W) : taken sink.close.writer = taken sink.writer := by
  rw [close]
  split
  · exact RecordingWriter.flush_takes sink.writer
  · rfl

/-! ### Runs on writers that never fail -/

/-- A send to a writer that never fails writes the message's line and succeeds. -/
theorem send_of_neverFails {writer : W} (healthy : NeverFails writer) (message : Message) :
    ∃ after, (new writer).send message = (.ok (), new after) ∧ NeverFails after ∧
      taken after = taken writer ++ message.line := by
  obtain ⟨record, healthy⟩ := healthy.answer (.write message.record)
  obtain ⟨feed, healthy⟩ := healthy.answer (.write [lineFeed])
  obtain ⟨flush, healthy⟩ := healthy.answer .flush
  have succeeds := send_of_ended (Prod.ext record rfl) (Prod.ext feed rfl) (Prod.ext flush rfl)
  obtain ⟨part, -, wrote, whole⟩ := (new writer).send_takes message
  rw [succeeds] at wrote whole
  exact ⟨_, succeeds, healthy, wrote.trans (whole rfl ▸ rfl)⟩

/-- Nothing that is done to a closed sink changes it. -/
theorem run_closed {sink : LineSink W} (closed : sink.opened = false) (calls : List Call) :
    sink.run calls = sink := by
  induction calls with
  | nil => rfl
  | cons call rest ih =>
    have same : sink.perform call = sink := by
      cases call with
      | send message => exact congrArg Prod.snd (sink.send_closed message closed)
      | close => simp [perform, close, closed]
    rw [run, List.foldl_cons, same]
    exact ih

theorem run_append (sink : LineSink W) (first second : List Call) :
    sink.run (first ++ second) = (sink.run first).run second := List.foldl_append

/-- **As long as the sink is not closed, each message that is sent is a line more.** -/
theorem run_of_not_mem {writer : W} (healthy : NeverFails writer) {calls : List Call}
    (inTime : .close ∉ calls) :
    ∃ after, (new writer).run calls = new after ∧ NeverFails after ∧
      taken after = taken writer ++ (sent calls).flatMap Message.line := by
  induction calls generalizing writer with
  | nil => exact ⟨writer, rfl, healthy, (List.append_nil _).symm⟩
  | cons call rest ih =>
    cases call with
    | send message =>
      obtain ⟨next, succeeds, healthy, wrote⟩ := send_of_neverFails healthy message
      obtain ⟨after, ran, healthy, lines⟩ := ih healthy (List.not_mem_of_not_mem_cons inTime)
      refine ⟨after, ?_, healthy, ?_⟩
      · rw [run, List.foldl_cons, perform, succeeds]
        exact ran
      · rw [lines, wrote, List.append_assoc]
        rfl
    | close => exact absurd List.mem_cons_self inTime

/-- What is sent in time is what is sent before the first close. -/
theorem sentInTime_of_not_mem {calls : List Call} (inTime : .close ∉ calls) (rest : List Call) :
    sentInTime calls = sent calls ∧ sentInTime (calls ++ .close :: rest) = sent calls := by
  have each : ∀ call ∈ calls, (call != .close) = true :=
    fun call member => bne_iff_ne.mpr fun same => inTime (same ▸ member)
  have split (more : List Call) : (calls ++ more).takeWhile (· != .close) =
      calls ++ more.takeWhile (· != .close) := List.takeWhile_append_of_pos each
  have whole := split []
  have part := split (.close :: rest)
  rw [List.append_nil] at whole
  rw [sentInTime, sentInTime, whole, part]
  simp

/-- **The lines of what is sent in time are what is written.** -/
theorem taken_run_of_neverFails {writer : W} (healthy : NeverFails writer) (calls : List Call) :
    taken ((new writer).run calls).writer =
      taken writer ++ (sentInTime calls).flatMap Message.line := by
  by_cases closes : .close ∈ calls
  · obtain ⟨before, rest, rfl, first⟩ := List.eq_append_cons_of_mem closes
    obtain ⟨after, ran, -, lines⟩ := run_of_not_mem healthy first
    have closed : (new writer).run (before ++ .close :: rest) = (new after).close := by
      rw [run_append, ran]
      exact run_closed rfl rest
    rw [closed, taken_close, (sentInTime_of_not_mem first rest).2]
    exact lines
  · obtain ⟨after, ran, -, lines⟩ := run_of_not_mem healthy closes
    rw [ran, (sentInTime_of_not_mem closes []).1]
    exact lines

theorem opened_run {sink : LineSink W} {calls : List Call} (closes : .close ∈ calls) :
    (sink.run calls).opened = false := by
  obtain ⟨before, rest, rfl⟩ := List.append_of_mem closes
  have closed : (sink.run before).close.opened = false := by
    rw [close]
    split
    case isTrue => rfl
    case isFalse shut => exact Bool.eq_false_iff.mpr shut
  rw [run_append]
  exact (run_closed closed rest).symm ▸ closed

/-! ### Lines -/

theorem linesOf_flatMap_line (messages : List Message) :
    linesOf (messages.flatMap Message.line) = messages.map Message.record := by
  induction messages with
  | nil => rfl
  | cons message rest ih =>
    have first : (message :: rest).flatMap Message.line =
        message.record ++ lineFeed :: rest.flatMap Message.line := by
      rw [List.flatMap_cons, Message.line, List.append_assoc]
      rfl
    rw [first, linesOf_append_cons message.lineFeed_not_mem_record, ih, List.map_cons]

/-- **The lines that are written are read back as the messages that are sent**, if the writer never
fails: until the sink is closed each send succeeds and writes one line, and the lines hold the
messages in order; from then on each send is refused and nothing is written. -/
theorem lines_recovered {writer : W} (healthy : NeverFails writer) (calls : List Call) :
    (∃ added, taken ((new writer).run calls).writer = taken writer ++ added ∧
        added = (sentInTime calls).flatMap Message.line ∧
        (linesOf added).map Message.ofLine? = (sentInTime calls).map some) ∧
      ∀ message,
        (.close ∉ calls → (((new writer).run calls).send message).1 = .ok ()) ∧
        (.close ∈ calls → ((new writer).run calls).send message =
          (.error .closed, (new writer).run calls)) := by
  refine ⟨⟨_, taken_run_of_neverFails healthy calls, rfl, ?_⟩, fun message => ⟨?_, ?_⟩⟩
  · rw [linesOf_flatMap_line, List.map_map]
    exact List.map_congr_left fun message _ => message.ofLine?_record
  · intro inTime
    obtain ⟨after, ran, healthy, -⟩ := run_of_not_mem healthy inTime
    obtain ⟨next, succeeds, -⟩ := send_of_neverFails healthy message
    rw [ran, succeeds]
  · exact fun closes => send_closed _ message (opened_run closes)

/-- A message with a line feed in its text, a close, and a message that comes too late: one line. -/
theorem lines_recovered_unbounded :
    NeverFails (BoundedWriter.mk none false []) ∧
      (linesOf (taken ((new (BoundedWriter.mk none false [])).run
        [.send (.error "a\nb"), .close, .send (.error "late")]).writer)).map Message.ofLine? =
          [some (.error "a\nb")] := by
  obtain ⟨⟨added, wrote, -, read⟩, -⟩ := lines_recovered (BoundedWriter.neverFails_unbounded [])
    [.send (.error "a\nb"), .close, .send (.error "late")]
  refine ⟨BoundedWriter.neverFails_unbounded [], ?_⟩
  rw [wrote]
  exact read

end LineSink

end Arcade
