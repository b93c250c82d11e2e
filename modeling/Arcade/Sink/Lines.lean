/-
**Messages as lines of text.**

A line sink writes each message as one JSON text and a line feed, and flushes. The writer below it
may take only a part of the bytes and then fail; the part stays written. After closing nothing is
written.

* `send_closed`: a closed sink refuses every message and writes nothing.
-/

import Arcade.Message.Json
import Arcade.Sink.Basic

namespace Arcade

/-- A place that bytes are written to. -/
class Writer (W : Type) where
  /-- Writes some bytes, or a first part of them and then fails for a reason. -/
  write : W → List UInt8 → Except String Unit × W
  /-- Makes sure that what was written arrives. -/
  flush : W → Except String Unit × W

/-- A writer that has room for a number of bytes, or for any number. -/
structure BoundedWriter where
  /-- How many bytes there is room for; nothing means that there is no bound. -/
  room : Option Nat
  /-- Whether every flush fails. -/
  failsToFlush : Bool
  /-- The bytes that were written. -/
  written : List UInt8

namespace BoundedWriter

/-- Why bytes do not fit. -/
def fullReason : String := "disk full"

/-- Why a flush fails. -/
def flushReason : String := "flush failed"

/-- Writes as many bytes as there is room for, and fails if they are not all. -/
def write (writer : BoundedWriter) (bytes : List UInt8) : Except String Unit × BoundedWriter :=
  match writer.room with
  | none => (.ok (), { writer with written := writer.written ++ bytes })
  | some room =>
    let taken := bytes.take room
    let after := { writer with
      room := some (room - taken.length), written := writer.written ++ taken }
    if bytes.length ≤ room then (.ok (), after) else (.error fullReason, after)

/-- Flushes, if the writer can. -/
def flush (writer : BoundedWriter) : Except String Unit × BoundedWriter :=
  (if writer.failsToFlush then .error flushReason else .ok (), writer)

instance : Writer BoundedWriter where
  write := write
  flush := flush

end BoundedWriter

/-- A sink that writes one JSON text a line. -/
structure LineSink (W : Type) where
  writer : W
  /-- Whether the sink was not closed. -/
  opened : Bool

namespace LineSink

variable {W : Type} [Writer W]

/-- An open sink. -/
def new (writer : W) : LineSink W := ⟨writer, true⟩

/-- The bytes of a text. -/
def bytesOf (content : String) : List UInt8 := content.toUTF8.toList

/-- Writes a message, a line feed, and flushes, as far as all succeeds. -/
def send (sink : LineSink W) (message : Message) : Except SinkError Unit × LineSink W :=
  if sink.opened then
    match Writer.write sink.writer (bytesOf message.render) with
    | (.error reason, writer) => (.error (.encoding reason), { sink with writer })
    | (.ok _, writer) =>
      match Writer.write writer (bytesOf "\n") with
      | (.error reason, writer) => (.error (.io reason), { sink with writer })
      | (.ok _, writer) =>
        match Writer.flush writer with
        | (.error reason, writer) => (.error (.io reason), { sink with writer })
        | (.ok _, writer) => (.ok (), { sink with writer })
  else
    (.error .closed, sink)

/-- Flushes for the last time and gives the writer up. -/
def close (sink : LineSink W) : LineSink W :=
  if sink.opened then ⟨(Writer.flush sink.writer).2, false⟩ else sink

instance : Sink (LineSink W) where
  send := send
  close := close

theorem send_closed (sink : LineSink W) (message : Message) (closed : sink.opened = false) :
    sink.send message = (.error .closed, sink) := by
  simp [send, closed]

end LineSink

end Arcade
