/-
**Rehearsals.**

A rehearsal runs a registry in lock step with clients that follow a script. It is a schedule made
up as it goes: one cue after another is carried out, and after each cue every worker has gone as
far as it can without its client (`settle`). A client takes a frame only on its cue.

A script may have more to do while a call is in progress. Inside an acknowledgement it may give
further cues, whose outcomes the client notes, and a worker that is told to stop for an unload may
stop the session altogether or break off. So what is in progress is a stack of activities, of which
the topmost goes on (`step`).
-/

import Arcade.Registry.Schedule
import Arcade.Text.Hex

namespace Arcade

/-! ### Scripts -/

/-- What a worker does when it is told to stop while its session is being unloaded. -/
inductive Departure where
  /-- It has the registry stop the session. -/
  | stop
  /-- It breaks off. -/
  | breaks

/-- The session that a cue is about. -/
inductive Target where
  | named (id : SessionId)
  /-- The session of a client. -/
  | ofClient (client : String)

/-- An instruction of a script. -/
inductive Cue where
  /-- Starts a session for a new client, under a fresh name if none is given. The client refuses
  the acknowledgement of the number `refusal`, gives the cues of `onStarted` inside the ones that
  it accepts, and its worker departs as `onUnload` says. -/
  | start (client : String) (id : Option SessionId) (rom : Rom) (seed : UInt64)
    (refusal : Option Nat) (onStarted : List (List Cue)) (onUnload : List Departure)
  /-- Has a client take a number of frames, as far as there are any. -/
  | frames (client : String) (count : Nat)
  /-- Has a client refuse every message from now on. -/
  | hangUp (client : String)
  /-- Has a client break its worker off at the next message. -/
  | breakOff (client : String)
  /-- Asks something of a session. -/
  | request (target : Target) (request : Request)
  /-- Passes on a key event, if there is such a key. -/
  | key (target : Target) (key : Nat) (pressed : Bool)
  | call (call : Call)
  /-- Has idle sessions looked for in the background until nothing is left to look for. -/
  | sweeper

/-- What comes of a cue. -/
inductive Outcome where
  | reply (reply : Reply)
  /-- A session was started. -/
  | started (id : SessionId)
  /-- A number of frames was taken. -/
  | taken (count : Nat)
  /-- There is no such key. -/
  | noSuchKey

/-- What a client notes. -/
inductive Sighting where
  | delivery (delivery : Delivery)
  /-- The outcome of a cue that was given inside an acknowledgement. -/
  | outcome (outcome : Outcome)

/-- How a client deals with what it is sent. -/
inductive Mood where
  | listening
  | hungUp
  | breaking
  deriving DecidableEq

/-- A client that follows a script. -/
structure Client where
  name : String
  id : SessionId
  sink : SinkId
  mood : Mood
  /-- How many acknowledgements it was offered. -/
  offered : Nat
  refusal : Option Nat
  onStarted : List (List Cue)
  onUnload : List Departure

/-- For whom something is done. -/
inductive Audience where
  /-- For whoever leads the rehearsal. -/
  | lead
  /-- For a client, which notes the outcome. -/
  | client (name : String)
  /-- For nobody. -/
  | nobody

/-- Something in progress. -/
inductive Activity where
  | cue (cue : Cue) (audience : Audience)
  /-- A call; if it starts a session, the name of the session. -/
  | flight (number : Nat) (starts : Option SessionId) (audience : Audience)
  /-- A client takes frames. -/
  | frames (client : String) (left taken : Nat) (audience : Audience)
  /-- A worker departs. -/
  | departure (worker : WorkerId) (acts : List Departure)

/-- A rehearsal in progress. -/
structure Rehearsal where
  system : System
  clients : List Client
  /-- How many fresh names were given. -/
  named : Nat
  /-- What is in progress, the topmost first. -/
  stack : List Activity
  /-- What clients noted, the latest first. -/
  sightings : List (String × Sighting)
  /-- How many events of the sinks were noted. -/
  noted : Nat
  /-- What the calls of the rehearsal's own thread noted, the latest first. -/
  notices : List RegistryNotice
  /-- What came of the latest cue of the lead. -/
  outcome : Option Outcome

namespace Rehearsal

/-- A rehearsal that has not begun. -/
def new (settings : Settings) : Rehearsal := ⟨System.new settings, [], 0, [], [], 0, [], none⟩

/-- The registry as it is. -/
def registry (rehearsal : Rehearsal) : Registry := rehearsal.system.registry

/-- The client of a name. -/
def client? (rehearsal : Rehearsal) (name : String) : Option Client :=
  rehearsal.clients.find? fun client => client.name == name

/-- The client of a sink. -/
def listener? (rehearsal : Rehearsal) (sink : SinkId) : Option Client :=
  rehearsal.clients.find? fun client => client.sink == sink

/-- The rehearsal with a client changed. -/
def modifyClient (rehearsal : Rehearsal) (name : String) (change : Client → Client) :
    Rehearsal :=
  { rehearsal with
    clients := rehearsal.clients.map fun client =>
      if client.name == name then change client else client }

/-- The rehearsal with what happened to the sinks since noted by the clients. -/
def note (rehearsal : Rehearsal) : Rehearsal :=
  let events := rehearsal.registry.events
  let fresh := (events.take (events.length - rehearsal.noted)).filterMap fun event => do
    let client ← rehearsal.listener? event.sink
    return (client.name, Sighting.delivery event.delivery)
  { rehearsal with
    sightings := fresh ++ rehearsal.sightings
    noted := events.length }

/-- The rehearsal after a move. -/
def move (rehearsal : Rehearsal) (move : Move) : Rehearsal :=
  { rehearsal with system := rehearsal.system.move move }.note

/-- The rehearsal with an activity put on top. -/
def push (rehearsal : Rehearsal) (activity : Activity) : Rehearsal :=
  { rehearsal with stack := activity :: rehearsal.stack }

/-! ### Workers -/

/-- What a client does with a message that is sent without being asked for. -/
def reaction (rehearsal : Rehearsal) (sink : SinkId) : Reaction :=
  match (rehearsal.listener? sink).map Client.mood with
  | some .hungUp => .answers (.error .closed)
  | some .breaking => .breaks
  | some .listening | none => .accepts

/-- The rehearsal after a worker made the step that it can make without its client. -/
def advance (rehearsal : Rehearsal) (number : WorkerId) : Rehearsal :=
  match rehearsal.registry.worker? number with
  | none => rehearsal
  | some worker =>
    match worker.phase, (rehearsal.listener? worker.sink).map Client.mood with
    | .offering _, some .listening | .offering _, none => rehearsal
    | .ended, _ | .broken, _ => rehearsal
    | .ready, _ | .reporting _, _ | .offering _, _ =>
      rehearsal.move (.work number (rehearsal.reaction worker.sink))

/-- The rehearsal after a worker has gone as far as it can without its client. From looking at its
gate it takes two steps to the end. -/
def settleWorker (rehearsal : Rehearsal) (number : WorkerId) : Rehearsal :=
  (rehearsal.advance number).advance number

/-- The rehearsal after every worker has gone as far as it can without its client. -/
def settle (rehearsal : Rehearsal) : Rehearsal :=
  (List.range rehearsal.registry.workers.length).foldl settleWorker rehearsal

/-- The worker that offers a frame to a client, if there is one. -/
def offering? (rehearsal : Rehearsal) (name : String) : Option WorkerId := do
  let client ← rehearsal.client? name
  rehearsal.registry.workers.findIdx? fun worker =>
    worker.sink == client.sink && match worker.phase with
      | .offering _ => true
      | .ready | .reporting _ | .ended | .broken => false

/-! ### Cues -/

/-- Ends the topmost activity with an outcome. -/
def finish (rehearsal : Rehearsal) (audience : Audience) (outcome : Outcome) : Rehearsal :=
  let settled := { rehearsal with stack := rehearsal.stack.tail }.settle
  match audience with
  | .lead => { settled with outcome := some outcome }
  | .client name => { settled with sightings := (name, .outcome outcome) :: settled.sightings }
  | .nobody => settled

/-- Replaces the topmost activity by a call. -/
def enter (rehearsal : Rehearsal) (call : Call) (starts : Option SessionId)
    (audience : Audience) : Rehearsal :=
  let number := rehearsal.system.flights.length
  ({ rehearsal with stack := rehearsal.stack.tail }.move (.begin call)).push
    (.flight number starts audience)

/-- The session that a cue is about, if it can be told. -/
def resolve (rehearsal : Rehearsal) : Target → Option SessionId
  | .named id => some id
  | .ofClient name => (rehearsal.client? name).map Client.id

/-- A fresh name of 32 hexadecimal digits. -/
def freshId (rehearsal : Rehearsal) : SessionId := ⟨Text.hexLower 32 rehearsal.named⟩

/-- Asks something of the session of a target. -/
def ask (rehearsal : Rehearsal) (target : Target) (request : Request) (audience : Audience) :
    Rehearsal :=
  match rehearsal.resolve target with
  | some id => rehearsal.enter (.session id request) none audience
  | none => rehearsal.finish audience (.reply (.error (.notFound ⟨""⟩)))

/-- Whether idle sessions that are looked for in the background are found at once. -/
def sweepsAtOnce (settings : Settings) : Bool :=
  settings.idleSeconds == 0 && settings.sweepSeconds == 0

/-- Begins to carry out a cue, which is the topmost activity. Every cue takes some time. -/
def perform (rehearsal : Rehearsal) (cue : Cue) (audience : Audience) : Rehearsal :=
  let later := rehearsal.move (.wait ⟨1⟩)
  match cue with
  | .start name id rom seed refusal onStarted onUnload =>
    let chosen := id.getD later.freshId
    let client : Client :=
      ⟨name, chosen, later.registry.sinks, .listening, 0, refusal, onStarted, onUnload⟩
    { later with
      clients := later.clients ++ [client]
      named := later.named + 1 }.enter (.start chosen rom seed) (some chosen) audience
  | .frames name count =>
    { later with stack := later.stack.tail }.push (.frames name count 0 audience)
  | .hangUp name =>
    (later.modifyClient name fun client => { client with mood := .hungUp }).finish audience
      (.reply (.ok .done))
  | .breakOff name =>
    (later.modifyClient name fun client => { client with mood := .breaking }).finish audience
      (.reply (.ok .done))
  | .request target request => later.ask target request audience
  | .key target key pressed =>
    match Key.ofNat? key with
    | some key => later.ask target (.press ⟨key, pressed⟩) audience
    | none => later.finish audience .noSuchKey
  | .call call => later.enter call none audience
  | .sweeper =>
    let finished := later.finish audience (.reply (.ok .done))
    if sweepsAtOnce later.registry.settings then
      (finished.push (.cue (.call .sweep) .nobody))
    else finished

/-! ### What goes on -/

/-- Lets a call that acknowledges a start go on, as the client's script says. -/
def acknowledge (rehearsal : Rehearsal) (number : Nat) (launch : Launch) : Rehearsal :=
  match rehearsal.listener? launch.sink with
  | none => rehearsal.move (.proceed number (.ok ()))
  | some client =>
    let offered := client.offered + 1
    let counted := rehearsal.modifyClient client.name fun client => { client with offered }
    if client.refusal = some offered ∨ client.mood ≠ .listening then
      counted.move (.proceed number (.error .closed))
    else
      let started := (counted.modifyClient client.name fun client =>
        { client with onStarted := client.onStarted.tail }).move (.proceed number (.ok ()))
      let cues := client.onStarted.headD []
      { started with
        stack := cues.map (fun cue => .cue cue (.client client.name)) ++ started.stack }

/-- Whether the slot of a session is reserved. -/
def isPending (rehearsal : Rehearsal) (id : SessionId) : Bool :=
  (rehearsal.registry.slot? id).any fun slot => slot.state == .pending

/-- Lets a worker that somebody waits for go on. The frame that it offers is lost. -/
def dismiss (rehearsal : Rehearsal) (number : WorkerId) : Rehearsal :=
  match rehearsal.registry.worker? number with
  | none => { rehearsal with stack := rehearsal.stack.tail }
  | some worker =>
    match worker.phase with
    | .ready | .reporting _ | .ended | .broken =>
      rehearsal.move (.work number (rehearsal.reaction worker.sink))
    | .offering _ =>
      let lost : Rehearsal := rehearsal.move (.work number (.answers (.error .closed)))
      match rehearsal.listener? worker.sink with
      | none => lost
      | some client =>
        if client.onUnload.isEmpty || !rehearsal.isPending worker.session.id then lost
        else
          (rehearsal.modifyClient client.name fun client => { client with onUnload := [] }).push
            (.departure number client.onUnload)

/-- Ends a call that has returned. -/
def land (rehearsal : Rehearsal) (flight : Flight) (starts : Option SessionId)
    (audience : Audience) : Rehearsal :=
  let noticed := match audience with
    | .lead | .client _ => { rehearsal with notices := flight.notices ++ rehearsal.notices }
    | .nobody => rehearsal
  match flight.reply, starts with
  | some (.ok _), some id => noticed.finish audience (.started id)
  | some reply, _ => noticed.finish audience (.reply reply)
  | none, _ => noticed.finish audience (.reply (.ok .done))

/-- Lets a call go on. -/
def resume (rehearsal : Rehearsal) (number : Nat) (starts : Option SessionId)
    (audience : Audience) : Rehearsal :=
  match rehearsal.system.flights[number]? with
  | none => { rehearsal with stack := rehearsal.stack.tail }
  | some flight =>
    match flight.todo with
    | [] => rehearsal.land flight starts audience
    | .acknowledge launch :: _ => rehearsal.acknowledge number launch
    | .join _ worker _ :: _ =>
      if rehearsal.registry.isFinished worker then rehearsal.move (.proceed number (.ok ()))
      else rehearsal.dismiss worker
    | _ :: _ => rehearsal.move (.proceed number (.ok ()))

/-- The rehearsal after the topmost activity went on. -/
def step (rehearsal : Rehearsal) : Rehearsal :=
  match rehearsal.stack with
  | [] => rehearsal
  | .cue cue audience :: _ => rehearsal.perform cue audience
  | .flight number starts audience :: _ => rehearsal.resume number starts audience
  | .frames name left taken audience :: below =>
    match left, rehearsal.offering? name with
    | 0, _ | _, none => rehearsal.finish audience (.taken taken)
    | left + 1, some worker =>
      ({ rehearsal with stack := .frames name left (taken + 1) audience :: below }.move
        (.work worker .accepts)).settleWorker worker
  | .departure worker acts :: below =>
    match acts with
    | [] => { rehearsal with stack := below }
    | .stop :: more =>
      match rehearsal.registry.worker? worker with
      | none => { rehearsal with stack := below }
      | some leaving =>
        { rehearsal with
          stack := .cue (.request (.named leaving.session.id) .stop) .nobody ::
            .departure worker more :: below }
    | .breaks :: _ => { rehearsal with stack := below }.move (.work worker .breaks)

/-- The rehearsal after its activities went on, for a number of steps at most. -/
def stepFor (rehearsal : Rehearsal) : (steps : Nat) → Rehearsal
  | 0 => rehearsal
  | steps + 1 => if rehearsal.stack.isEmpty then rehearsal else rehearsal.step.stepFor steps

/-- The most steps of a cue. -/
def stepLimit : Nat := 1000000

/-- The rehearsal after a cue of the lead. -/
def play (rehearsal : Rehearsal) (cue : Cue) : Rehearsal :=
  { rehearsal with stack := [.cue cue .lead], outcome := none }.stepFor stepLimit

end Rehearsal

end Arcade
