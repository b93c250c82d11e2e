/-
**What a call does, step by step.**

A call on the registry is a list of tasks, done one after another. A task is the part of a call
that nothing else can come between: one look at the table, one message to a client, one wait for a
worker. A task may lead to further tasks, which are done before those that follow it, and it may
answer the call. What a call holds between its tasks, such as a sink that is not in the table at
the moment, is part of the task that needs it next.

Only one task ever has to wait, the one that takes over what a worker left (`step_eq_none`).
-/

import Arcade.Registry.Basic

namespace Arcade

/-- What a call answers. -/
inductive Answer where
  | done
  | flag (value : Bool)
  | size (count : Nat)
  /-- How many sessions are registered, and how many may be. -/
  | stats (current limit : Nat)
  | sessions (ids : List SessionId)
  | programs (names : List String)
  deriving DecidableEq

/-- How a call ends. -/
abbrev Reply := Except SessionError Answer

/-- What a call notes as a warning or an error. -/
inductive RegistryNotice where
  /-- A client was not admitted. -/
  | rejected (id : SessionId) (cause : SessionError)
  /-- A program could not be replaced. -/
  | relaunchFailed (id : SessionId) (cause : SessionError)
  /-- A worker broke off. -/
  | broken (id : SessionId)
  /-- A key event was not accepted. -/
  | dropped (id : SessionId) (event : KeyEvent) (cause : SendError)
  deriving DecidableEq

/-- The wording of a notice. -/
def RegistryNotice.message : RegistryNotice → String
  | .rejected id cause => s!"{id.name}: rejected, {cause.message}"
  | .relaunchFailed id cause => s!"{id.name}: relaunch failed: {cause.message}"
  | .broken id => s!"{id.name}: session thread panicked"
  | .dropped id event cause =>
    s!"{id.name}: dropped {event.key.text} {event.pressed}: {inputErrorMessage cause}"

/-- What a launch is for. -/
inductive LaunchKind where
  /-- A new session. -/
  | start
  /-- Another program for a session. -/
  | relaunch
  deriving DecidableEq

/-- A machine on its way to a worker. -/
structure Launch where
  kind : LaunchKind
  id : SessionId
  rom : Rom
  machine : Machine
  sink : SinkId

/-- What a session is unloaded for. -/
inductive Unloading where
  /-- To wait for another program. -/
  | park
  /-- To get another program at once. -/
  | replace (rom : Rom) (machine : Machine)

/-- What becomes of the sink that a worker gives back. -/
inductive Custody where
  /-- It is closed. -/
  | close
  /-- It goes back into the slot of the session. -/
  | keep (purpose : Unloading)

/-- What is wanted from the session of a worker. -/
inductive Steering where
  | pause
  | unpause
  | toggle
  | isPaused
  | change (change : ParamChange)
  deriving DecidableEq

/-- What is counted. -/
inductive Tally where
  /-- The registered sessions. -/
  | size
  /-- Whether there are none. -/
  | vacancy
  /-- The registered sessions beside their limit. -/
  | stats
  deriving DecidableEq

/-- A part of a call that nothing comes between. -/
inductive Task where
  /-- Builds the machine of a new session. -/
  | build (id : SessionId) (rom : Rom) (seed : UInt64) (sink : SinkId)
  /-- Builds the machine of another program for a session. -/
  | rebuild (id : SessionId) (rom : Rom) (seed : UInt64)
  /-- Forgets the sessions whose workers are done. -/
  | reap
  /-- Reserves a slot for a new session, if it may be admitted. -/
  | reserve (launch : Launch)
  /-- Tells a client why it is not admitted, whether or not it listens. -/
  | tell (sink : SinkId) (reason : String)
  /-- Closes a sink. -/
  | close (sink : SinkId)
  /-- Tells a client that its program starts. -/
  | acknowledge (launch : Launch)
  /-- Gives a slot up after its launch failed. -/
  | withdraw (kind : LaunchKind) (id : SessionId) (cause : SessionError)
  /-- Sets a worker going, if the system has a thread for it. -/
  | spawn (launch : Launch)
  /-- Puts a worker into the slot that was reserved for it. -/
  | publish (id : SessionId) (worker : WorkerId)
  /-- Tells a worker to stop. -/
  | halt (id : SessionId) (worker : WorkerId) (custody : Custody)
  /-- Waits for the end of a worker and takes its sink over. -/
  | join (id : SessionId) (worker : WorkerId) (custody : Custody)
  /-- Puts the sink of an unloaded session back into its slot. -/
  | park (id : SessionId) (sink : Option SinkId) (purpose : Unloading)
  /-- Takes a session out of the table. -/
  | remove (id : SessionId)
  /-- Takes the worker of a session out of its slot. -/
  | unload (id : SessionId) (purpose : Unloading)
  /-- Takes the sink of an unloaded session out of its slot. -/
  | take (id : SessionId) (rom : Rom) (machine : Machine)
  /-- Looks for the worker of a session. -/
  | seek (id : SessionId) (steering : Steering)
  /-- Steers the session of a worker. -/
  | steer (id : SessionId) (worker : WorkerId) (steering : Steering)
  /-- Notes that a session got input, and looks for its worker. -/
  | record (id : SessionId) (event : KeyEvent)
  /-- Queues a key event for a worker's machine. -/
  | press (id : SessionId) (worker : WorkerId) (event : KeyEvent)
  /-- Looks for the sessions that are idle or done. -/
  | sweep
  /-- Looks for all sessions. -/
  | shutdown
  /-- Counts the sessions in the table and answers what the tally says of them. -/
  | count (tally : Tally)
  /-- Answers whether the table has a session. -/
  | contains (id : SessionId)
  /-- Names the sessions in the table. -/
  | list
  /-- Names the programs that clients may ask for. -/
  | catalog
  /-- Answers the call. -/
  | answer (reply : Reply)

/-- What a task leads to. -/
structure Progress where
  registry : Registry
  /-- What has to be done next. -/
  todo : List Task
  /-- The answer of the call, unless a later task answers. -/
  reply : Option Reply
  notices : List RegistryNotice

namespace Registry

/-- Goes on with other tasks. -/
def proceed (registry : Registry) (todo : List Task) : Progress := ⟨registry, todo, none, []⟩

/-- Ends with an answer. -/
def answer (registry : Registry) (reply : Reply) : Progress := ⟨registry, [], some reply, []⟩

/-- Ends with an error. -/
def refuse (registry : Registry) (cause : SessionError) : Progress :=
  registry.answer (.error cause)

/-- The registry after what a slot holds was given up. A worker goes on unattended. -/
def abandon (registry : Registry) : SlotState → Registry
  | .unloaded sink => registry.deliver sink .dropped
  | .running _ | .pending => registry

/-! ### Starting -/

/-- The tasks of turning a client away. -/
def rejection (registry : Registry) (id : SessionId) (sink : SinkId) (cause : SessionError) :
    Progress where
  registry := registry
  todo := [.tell sink cause.rejection, .close sink, .answer (.error cause)]
  reply := none
  notices := [.rejected id cause]

/-- Builds the machine of a new session. -/
def build (registry : Registry) (id : SessionId) (rom : Rom) (seed : UInt64) (sink : SinkId) :
    Progress :=
  match Machine.boot registry.settings.timerMode seed rom.bytes with
  | .ok machine => registry.proceed [.reap, .reserve ⟨.start, id, rom, machine, sink⟩]
  | .error cause => registry.rejection id sink (.machine cause)

/-- Why a new session may not be admitted, if so. -/
def refusal? (registry : Registry) (id : SessionId) : Option SessionError :=
  if registry.table.contains id.name then some (.alreadyExists id)
  else if registry.settings.maxSessions.toNat ≤ registry.table.size then
    some (.capacityReached registry.settings.maxSessions.toNat)
  else none

/-- Reserves a slot for a new session, if it may be admitted. -/
def reserve (registry : Registry) (launch : Launch) : Progress :=
  match registry.refusal? launch.id with
  | some cause => registry.rejection launch.id launch.sink cause
  | none =>
    (registry.putSlot launch.id ⟨registry.now, .pending⟩).proceed [.acknowledge launch]

/-- Tells a client something, whether or not it listens. -/
def tell (registry : Registry) (sink : SinkId) (reason : String) :
    Except SinkError Unit → Registry
  | .ok _ => registry.deliver sink (.message (.error reason))
  | .error _ => registry

/-- Tells a client that its program starts. A client that refuses loses its sink. -/
def acknowledge (registry : Registry) (launch : Launch) : Except SinkError Unit → Progress
  | .ok _ =>
    (registry.deliver launch.sink (.message (.started launch.id))).proceed [.spawn launch]
  | .error cause =>
    (registry.deliver launch.sink .dropped).proceed
      [.withdraw launch.kind launch.id (.sink cause)]

/-- Gives a slot up after its launch failed. -/
def withdraw (registry : Registry) (kind : LaunchKind) (id : SessionId) (cause : SessionError) :
    Progress :=
  let abandoned := match registry.slot? id with
    | some slot => registry.abandon slot.state
    | none => registry
  { (abandoned.forget id).refuse cause with
    notices := match kind with
      | .start => []
      | .relaunch => [.relaunchFailed id cause] }

/-- The worker of a launch. -/
def launched (registry : Registry) (launch : Launch) : Worker :=
  let console := Console.new launch.machine registry.settings.inputCapacity.toNat
  Worker.new
    (Session.new launch.id console launch.rom.frameRate launch.rom.cyclesPerFrame
      registry.settings.paramCapacity.toNat registry.now)
    launch.sink

/-- Sets a worker going. If the system has no thread for it, the session and its sink are lost. -/
def spawn (registry : Registry) (launch : Launch) : Except SinkError Unit → Progress
  | .ok _ =>
    { registry with workers := registry.workers ++ [registry.launched launch] }.proceed
      [.publish launch.id registry.workers.length]
  | .error cause =>
    (registry.deliver launch.sink .dropped).proceed
      [.withdraw launch.kind launch.id (.io cause.message)]

/-- Puts a worker into the slot that was reserved for it. If the slot is gone, somebody stopped the
session, and the worker is stopped in turn. -/
def publish (registry : Registry) (id : SessionId) (worker : WorkerId) : Progress :=
  match registry.slot? id with
  | some slot =>
    ((registry.abandon slot.state).putSlot id ⟨registry.now, .running worker⟩).answer (.ok .done)
  | none => registry.proceed [.halt id worker .close, .answer (.error (.notFound id))]

/-! ### Stopping -/

/-- Tells a worker to stop. -/
def halt (registry : Registry) (id : SessionId) (worker : WorkerId) (custody : Custody) :
    Progress :=
  let stopped := registry.modifyWorker worker fun worker =>
    { worker with session := worker.session.stop }
  stopped.proceed [.join id worker custody]

/-- What follows when a worker's sink, if it is left, is taken over. -/
def Custody.tasks (id : SessionId) (sink : Option SinkId) : Custody → List Task
  | .close => match sink with
    | some sink => [.close sink]
    | none => []
  | .keep purpose => [.park id sink purpose]

/-- Waits for the end of a worker and takes its sink over. -/
def join (registry : Registry) (id : SessionId) (number : WorkerId) (custody : Custody) :
    Option Progress :=
  match registry.worker? number with
  | none => none
  | some worker =>
    let joined := registry.modifyWorker number fun worker => { worker with joined := true }
    match worker.phase with
    | .ended => some (joined.proceed (Custody.tasks id (some worker.sink) custody))
    | .broken =>
      some { joined.proceed (Custody.tasks id none custody) with notices := [.broken id] }
    | .ready | .offering _ | .reporting _ => none

/-- The tasks after a session was unloaded. -/
def Unloading.tasks (id : SessionId) : Unloading → List Task
  | .park => [.answer (.ok .done)]
  | .replace rom machine => [.take id rom machine]

/-- Puts the sink of an unloaded session back into its slot. -/
def park (registry : Registry) (id : SessionId) (sink : Option SinkId) (purpose : Unloading) :
    Progress :=
  match registry.slot? id, sink with
  | some slot, some sink =>
    ((registry.abandon slot.state).putSlot id { slot with state := .unloaded sink }).proceed
      (Unloading.tasks id purpose)
  | some slot, none =>
    ((registry.abandon slot.state).forget id).refuse (.panicked id)
  | none, some sink => registry.proceed (.close sink :: Unloading.tasks id purpose)
  | none, none => registry.proceed (Unloading.tasks id purpose)

/-- The tasks that release what a slot holds. -/
def SlotState.releaseTasks (id : SessionId) : SlotState → List Task
  | .running worker => [.halt id worker .close]
  | .unloaded sink => [.close sink]
  | .pending => []

/-- Takes a session out of the table. Whoever holds its worker or sink meanwhile finds the slot
gone. -/
def remove (registry : Registry) (id : SessionId) : Progress :=
  match registry.slot? id with
  | none => registry.refuse (.notFound id)
  | some slot =>
    (registry.forget id).proceed (SlotState.releaseTasks id slot.state ++ [.answer (.ok .done)])

/-- Takes the worker of a session out of its slot. A program may replace one that is not running
as well. -/
def unload (registry : Registry) (id : SessionId) (purpose : Unloading) : Progress :=
  match registry.slot? id with
  | none => registry.refuse (.notFound id)
  | some slot =>
    match slot.state with
    | .running worker =>
      (registry.putSlot id { slot with state := .pending }).proceed
        [.halt id worker (.keep purpose)]
    | .unloaded _ | .pending =>
      match purpose with
      | .park => registry.refuse (.notRunning id)
      | .replace rom machine => registry.proceed [.take id rom machine]

/-! ### Another program -/

/-- Builds the machine of another program for a session. -/
def rebuild (registry : Registry) (id : SessionId) (rom : Rom) (seed : UInt64) : Progress :=
  match Machine.boot registry.settings.timerMode seed rom.bytes with
  | .ok machine => registry.proceed [.unload id (.replace rom machine)]
  | .error cause => registry.refuse (.machine cause)

/-- Takes the sink of an unloaded session out of its slot. -/
def take (registry : Registry) (id : SessionId) (rom : Rom) (machine : Machine) : Progress :=
  match registry.slot? id with
  | none => registry.refuse (.notFound id)
  | some slot =>
    match slot.state with
    | .unloaded sink =>
      (registry.putSlot id { slot with state := .pending }).proceed
        [.acknowledge ⟨.relaunch, id, rom, machine, sink⟩]
    | .running _ | .pending => registry.refuse (.notRunning id)

/-! ### Steering -/

/-- Looks for the worker of a session. -/
def seek (registry : Registry) (id : SessionId) (steering : Steering) : Progress :=
  match registry.slot? id with
  | none => registry.refuse (.notFound id)
  | some slot =>
    match slot.state with
    | .running worker => registry.proceed [.steer id worker steering]
    | .unloaded _ | .pending => registry.refuse (.notRunning id)

/-- The session after it was steered, and the answer. -/
def steered (id : SessionId) (session : Session Console) : Steering → Reply × Session Console
  | .pause => (.ok .done, session.pause.2)
  | .unpause => (.ok .done, session.unpause.2)
  | .toggle => (.ok (.flag session.toggle.1), session.toggle.2)
  | .isPaused => (.ok (.flag session.gate.isPaused), session)
  | .change change =>
    match session.putParams (.change change) with
    | .ok queued => (.ok .done, queued)
    | .error cause => (.error (SessionError.ofParams id cause), session)

/-- Steers the session of a worker. -/
def steer (registry : Registry) (id : SessionId) (number : WorkerId) (steering : Steering) :
    Progress :=
  match registry.worker? number with
  | none => registry.refuse (.notRunning id)
  | some worker =>
    let (reply, session) := steered id worker.session steering
    (registry.modifyWorker number fun worker => { worker with session }).answer reply

/-- Notes that a session got input, and looks for its worker. -/
def record (registry : Registry) (id : SessionId) (event : KeyEvent) : Progress :=
  match registry.slot? id with
  | none => registry.refuse (.notFound id)
  | some slot =>
    let active := registry.putSlot id { slot with lastActive := registry.now }
    match slot.state with
    | .running worker => active.proceed [.press id worker event]
    | .unloaded _ | .pending => active.refuse (.notRunning id)

/-- Queues a key event for a worker's machine. -/
def press (registry : Registry) (id : SessionId) (number : WorkerId) (event : KeyEvent) :
    Progress :=
  match registry.worker? number with
  | none => registry.refuse (.input .disconnected)
  | some worker =>
    match worker.session.machine.send event with
    | .ok machine =>
      (registry.modifyWorker number fun worker =>
        { worker with session := { worker.session with machine } }).answer (.ok .done)
    | .error cause =>
      { registry.refuse (.input cause) with notices := [.dropped id event cause] }

/-! ### Looking over all sessions -/

/-- The sessions whose workers are done, with their workers. -/
def finished (registry : Registry) : List (SessionId × WorkerId) :=
  registry.table.entries.filterMap fun (name, slot) =>
    match slot.state with
    | .running worker => if registry.isFinished worker then some (⟨name⟩, worker) else none
    | .unloaded _ | .pending => none

/-- Forgets the sessions whose workers are done. -/
def reap (registry : Registry) : Progress :=
  let gone := registry.finished
  (gone.foldl (fun kept entry => kept.forget entry.1) registry).proceed
    (gone.map fun entry => .halt entry.1 entry.2 .close)

/-- Whether a session is without input for longer than is allowed. -/
def isIdle (registry : Registry) (slot : Slot) : Bool :=
  registry.settings.idleSpan.nanoseconds < registry.now - slot.lastActive

/-- The sessions that are idle or whose workers are done. -/
def expired (registry : Registry) : List SessionId :=
  registry.table.entries.filterMap fun (name, slot) =>
    if registry.slotFinished slot || registry.isIdle slot then some ⟨name⟩ else none

/-- Looks for the sessions that are idle or done, to stop them. -/
def sweep (registry : Registry) : Progress :=
  registry.proceed
    (registry.expired.map Task.remove ++ [.answer (.ok (.sessions registry.expired))])

/-- Looks for all sessions, to stop them. -/
def shutdown (registry : Registry) : Progress :=
  registry.proceed (registry.ids.map Task.remove ++ [.answer (.ok .done)])

/-- Counts the registered sessions. -/
def count (registry : Registry) : Tally → Answer
  | .size => .size registry.table.size
  | .vacancy => .flag (registry.table.size == 0)
  | .stats => .stats registry.table.size registry.settings.maxSessions.toNat

end Registry

open Registry in
/-- What a task leads to, given the client's answer if the task sends a message, or the system's if
it asks for a thread; nothing if the task has to wait. -/
def Task.step (registry : Registry) (answer : Except SinkError Unit) :
    Task → Option Progress
  | .build id rom seed sink => registry.build id rom seed sink
  | .rebuild id rom seed => registry.rebuild id rom seed
  | .reap => registry.reap
  | .reserve launch => registry.reserve launch
  | .tell sink reason => (registry.tell sink reason answer).proceed []
  | .close sink => (registry.deliver sink .closed).proceed []
  | .acknowledge launch => registry.acknowledge launch answer
  | .withdraw kind id cause => registry.withdraw kind id cause
  | .spawn launch => registry.spawn launch answer
  | .publish id worker => registry.publish id worker
  | .halt id worker custody => registry.halt id worker custody
  | .join id worker custody => registry.join id worker custody
  | .park id sink purpose => registry.park id sink purpose
  | .remove id => registry.remove id
  | .unload id purpose => registry.unload id purpose
  | .take id rom machine => registry.take id rom machine
  | .seek id steering => registry.seek id steering
  | .steer id worker steering => registry.steer id worker steering
  | .record id event => registry.record id event
  | .press id worker event => registry.press id worker event
  | .sweep => registry.sweep
  | .shutdown => registry.shutdown
  | .count tally => registry.answer (.ok (registry.count tally))
  | .contains id => registry.answer (.ok (.flag (registry.table.contains id.name)))
  | .list => registry.answer (.ok (.sessions registry.ids))
  | .catalog => registry.answer (.ok (.programs registry.settings.roms.names))
  | .answer reply => registry.answer reply

theorem Registry.join_eq_none (registry : Registry) (id : SessionId) (number : WorkerId)
    (custody : Custody) :
    registry.join id number custody = none ↔ registry.isFinished number = false := by
  unfold Registry.join Registry.isFinished
  cases registry.worker? number with
  | none => simp
  | some worker => cases phase : worker.phase <;> simp [Worker.isFinished, Phase.isFinished, phase]

theorem Task.step_eq_none {registry : Registry} {answer : Except SinkError Unit} {task : Task} :
    task.step registry answer = none ↔
      ∃ id number custody, task = .join id number custody ∧
        registry.isFinished number = false := by
  cases task with
  | join id number custody =>
    refine ⟨fun waits => ⟨id, number, custody, rfl, ?_⟩, ?_⟩
    · exact (registry.join_eq_none id number custody).mp waits
    · rintro ⟨_, _, _, same, running⟩
      cases same
      exact (registry.join_eq_none id number custody).mpr running
  | _ => simp [Task.step]

end Arcade
