/-
**How many sessions are registered.**

A session is admitted when its slot is reserved: one look at the table says that its name is free
and that there is room. Nothing else adds to the table, whatever goes on at the same time, since
everybody else writes to slots that are there. A call that is turned away has touched the table only
to forget sessions that were done.

* `Task.Yields.size_le`: only an admission adds to the table;
* `System.size_run`: the limit is kept, at any time;
* `System.entry_run`: a call to start a session waits for its admission, or was turned away, or was
  admitted;
* `System.admission_bound`: what the limit of sessions means for each call.
-/

import Arcade.Proofs.Registry.Stop

namespace Arcade

/-! ### Settings and time stay -/

namespace Registry

variable (registry : Registry)

/-- What no task touches. -/
def surroundings : Settings × Moment := (registry.settings, registry.now)

theorem surroundings_abandon (state : SlotState) :
    (registry.abandon state).surroundings = registry.surroundings := by
  cases state <;> rfl

theorem surroundings_tell (sink : SinkId) (reason : String) (answer : Except SinkError Unit) :
    (registry.tell sink reason answer).surroundings = registry.surroundings := by
  cases answer <;> rfl

theorem surroundings_reaped : registry.reaped.surroundings = registry.surroundings := by
  rw [reaped, foldl_forget]
  rfl

theorem settings_reaped : registry.reaped.settings = registry.settings :=
  congrArg Prod.fst registry.surroundings_reaped

/-- No task touches the settings or the time. -/
theorem surroundings_step {registry : Registry} {answer : Except SinkError Unit} {task : Task}
    {progress : Progress} (did : task.step registry answer = some progress) :
    progress.registry.surroundings = registry.surroundings := by
  cases task with
  | reap => exact Option.some.inj did ▸ registry.surroundings_reaped
  | tell sink reason => exact Option.some.inj did ▸ registry.surroundings_tell sink reason answer
  | join id number custody =>
    cases registry.yields_join did with
    | ended | broken => rfl
    | watched watches => cases watches
  | withdraw kind id cause =>
    rw [← Option.some.inj did]
    unfold withdraw
    simp only [refuse, Registry.answer, forget]
    split
    · exact registry.surroundings_abandon _
    · rfl
  | publish id worker =>
    rw [← Option.some.inj did]
    unfold publish
    split
    · exact registry.surroundings_abandon _
    · rfl
  | park id sink purpose =>
    rw [← Option.some.inj did]
    unfold park
    split
    · exact registry.surroundings_abandon _
    · exact registry.surroundings_abandon _
    · rfl
    · rfl
  | unload id purpose =>
    rw [← Option.some.inj did]
    unfold unload
    split
    · rfl
    · split
      · rfl
      all_goals cases purpose <;> rfl
  | take id rom machine =>
    rw [← Option.some.inj did]
    unfold take
    split
    · rfl
    · split <;> rfl
  | seek id steering =>
    rw [← Option.some.inj did]
    unfold seek
    split
    · rfl
    · split <;> rfl
  | record id event =>
    rw [← Option.some.inj did]
    unfold record
    split
    · rfl
    · simp only
      split <;> rfl
  | press id number event =>
    rw [← Option.some.inj did]
    unfold press
    split
    · rfl
    · split <;> rfl
  | build | rebuild | reserve | remove | steer =>
    rw [← Option.some.inj did]
    simp only [build, rebuild, reserve, remove, steer]
    split <;> rfl
  | acknowledge | spawn => cases answer <;> exact Option.some.inj did ▸ rfl
  | _ => exact Option.some.inj did ▸ rfl

theorem settings_step {registry : Registry} {answer : Except SinkError Unit} {task : Task}
    {progress : Progress} (did : task.step registry answer = some progress) :
    progress.registry.settings = registry.settings :=
  congrArg Prod.fst (surroundings_step did)

theorem now_step {registry : Registry} {answer : Except SinkError Unit} {task : Task}
    {progress : Progress} (did : task.step registry answer = some progress) :
    progress.registry.now = registry.now :=
  congrArg Prod.snd (surroundings_step did)

end Registry

namespace System

theorem Step.settings_eq {system after : System} {move : Move} (step : system.Step move after) :
    after.registry.settings = system.registry.settings := by
  cases step with
  | done _ _ did => exact Registry.settings_step did
  | begun | stayed | worked | waited => rfl

theorem settings_run (settings : Settings) (schedule : List Move) :
    ((new settings).run schedule).registry.settings = settings :=
  run_induction (new settings) (fun _ system => system.registry.settings = settings) rfl
    (fun _ _ before step => step.settings_eq.trans before) schedule

end System

/-! ### The size of the table -/

namespace Registry

variable (registry : Registry)

theorem size_eq_length_states : registry.table.size = registry.states.length := by
  rw [states, List.length_map, NameTable.size]

theorem contains_of_slot? {id : SessionId} {slot : Slot} (there : registry.slot? id = some slot) :
    registry.table.contains id.name = true := by
  have found : registry.table.lookup? id.name = some slot := there
  rw [NameTable.contains, found]
  rfl

theorem size_putSlot {id : SessionId} {slot : Slot} (there : registry.slot? id = some slot)
    (written : Slot) : (registry.putSlot id written).table.size = registry.table.size :=
  registry.table.size_insert_of_mem written (registry.contains_of_slot? there)

theorem size_forget_le (id : SessionId) :
    (registry.forget id).table.size ≤ registry.table.size :=
  registry.table.size_erase_le id.name

theorem size_reaped_le : registry.reaped.table.size ≤ registry.table.size := by
  rw [NameTable.size, entries_reaped]
  exact List.length_filter_le _ _

/-- A session is admitted where there is room only. -/
theorem size_lt_of_admitted {id : SessionId} (room : registry.refusal? id = none) :
    registry.table.size < registry.settings.maxSessions.toNat := by
  unfold refusal? at room
  split at room
  · cases room
  · split at room
    · cases room
    · rename_i free
      exact Nat.lt_of_not_le free

/-- A session is refused for lack of room only where its name is free and there is no room. -/
theorem size_ge_of_full {id : SessionId} {limit : Nat}
    (why : registry.refusal? id = some (.capacityReached limit)) :
    registry.slot? id = none ∧ registry.settings.maxSessions.toNat ≤ registry.table.size ∧
      limit = registry.settings.maxSessions.toNat := by
  unfold refusal? at why
  split at why
  · cases why
  · rename_i absent
    split at why
    · rename_i full
      cases why
      exact ⟨by simpa [NameTable.contains, slot?] using absent, full, rfl⟩
    · cases why

end Registry

open Registry in
/-- **Only an admission adds to the table.** -/
theorem Task.Yields.size_le {registry : Registry} {task : Task} {progress : Progress}
    (yields : task.Yields registry progress) :
    progress.registry.table.size ≤ registry.table.size ∨
      ∃ launch, task = .reserve launch ∧ registry.refusal? launch.id = none ∧
        progress.registry.table.size = registry.table.size + 1 := by
  -- a slot that is written to is there, so the table does not grow
  have written : ∀ {id : SessionId} {slot : Slot}, registry.slot? id = some slot → ∀ put,
      ((registry.vacate id).putSlot id put).table.size ≤ registry.table.size := by
    intro id slot there put
    rw [putSlot, table_vacate]
    exact Nat.le_of_eq (registry.size_putSlot there put)
  have forgotten : ∀ id, ((registry.vacate id).forget id).table.size ≤ registry.table.size := by
    intro id
    rw [forget, table_vacate]
    exact registry.size_forget_le id
  cases yields with
  | @admitted launch room vacant =>
    refine .inr ⟨launch, rfl, room, registry.table.size_insert_of_not_mem _ ?_⟩
    have absent : registry.table.lookup? launch.id.name = none := vacant
    rw [NameTable.contains, absent]
    rfl
  | reaped => exact .inl registry.size_reaped_le
  | withdrawn => exact .inl (forgotten _)
  | published there => exact .inl (written there _)
  | halted same => exact .inl (Nat.le_of_eq (congrArg NameTable.size same))
  | parked there => exact .inl (written there _)
  | bereft => exact .inl (forgotten _)
  | removed => exact .inl (registry.size_forget_le _)
  | unloaded there => exact .inl (Nat.le_of_eq (registry.size_putSlot there _))
  | taken there => exact .inl (Nat.le_of_eq (registry.size_putSlot there _))
  | watched _ states =>
    rw [size_eq_length_states, states, ← size_eq_length_states]
    exact .inl (Nat.le_refl _)
  | _ => exact .inl (Nat.le_refl _)

namespace System

/-- **One move**: the table grows by an admission only. -/
theorem Step.size_le {system after : System} {move : Move} (step : system.Step move after) :
    after.registry.table.size ≤ system.registry.table.size ∨
      ∃ launch, system.task? move = some (.reserve launch) ∧
        system.registry.refusal? launch.id = none ∧
        after.registry.table.size = system.registry.table.size + 1 := by
  cases step with
  | done known next _ yields =>
    rcases yields.size_le with kept | ⟨launch, rfl, room, grown⟩
    · exact .inl kept
    · exact .inr ⟨launch, task?_proceed known next _, room, grown⟩
  | begun | stayed | worked | waited => exact .inl (Nat.le_refl _)

/-- **The limit is kept, at any time.** -/
theorem size_run (settings : Settings) (schedule : List Move) :
    ((new settings).run schedule).registry.table.size ≤ settings.maxSessions.toNat := by
  refine run_induction (new settings) (fun _ system =>
    system.registry.table.size ≤ settings.maxSessions.toNat) (Nat.zero_le _)
    (fun schedule move before step => ?_) schedule
  have stays := settings_run settings schedule
  rcases step.size_le with kept | ⟨launch, -, room, grown⟩
  · exact kept.trans before
  · have free := Registry.size_lt_of_admitted _ room
    rw [stays] at free
    rw [grown]
    exact free

/-! ### Who has sessions admitted -/

/-- A call may have a session admitted that it was to start, and no other. -/
theorem openings_run (settings : Settings) (schedule : List Move) (id : SessionId) :
    ∀ flight ∈ ((new settings).run schedule).flights,
      (openings id).ofTasks flight.todo ≤ flight.call.starts?.toList.count id := by
  refine flights_induction settings (fun flight =>
    (openings id).ofTasks flight.todo ≤ flight.call.starts?.toList.count id)
    (fun call sink => Nat.le_of_eq (ofTasks_claims_begun id sink call).2)
    (fun {_ flight _ later _ progress} bound next did => ?_) schedule
  have fewer := ((Task.yields_of_step did).claims_le id).2
  rw [next, Census.ofTasks_cons] at bound
  simp only [Flight.advance, Census.ofTasks_append]
  omega

/-- A call that starts no session never adds to the table. -/
theorem size_proceed_le (settings : Settings) (schedule : List Move) {number : Nat}
    {flight : Flight} (known : ((new settings).run schedule).flights[number]? = some flight)
    (starts : flight.call.starts? = none) (answer : Except SinkError Unit) :
    (((new settings).run schedule).move (.proceed number answer)).registry.table.size ≤
      ((new settings).run schedule).registry.table.size := by
  rcases (step_move ((new settings).run schedule) (.proceed number answer)).size_le with
    kept | ⟨launch, found, -⟩
  · exact kept
  · have bound := openings_run settings schedule launch.id flight (List.mem_of_getElem? known)
    rw [task?, known, Option.bind_some] at found
    have counted := (openings launch.id).task_le_ofTasks (List.mem_of_head? found)
    have opens : (Task.reserve launch).opens launch.id = true := decide_eq_true rfl
    rw [starts, Option.toList_none, List.count_nil] at bound
    rw [task_openings, opens, Bool.toNat_true] at counted
    exact absurd (counted.trans bound) (Nat.not_succ_le_zero 0)

end System

/-! ### The course of a call to start a session -/

/-- Whether an error says that a client was not admitted. -/
def SessionError.turnsAway : SessionError → Bool
  | .machine _ | .alreadyExists _ | .capacityReached _ => true
  | .notFound _ | .notRunning _ | .panicked _ | .paramQueueFull _ | .input _ | .sink _
  | .configuration _ | .io _ => false

/-- Whether a call was turned away, or is about to say so. -/
def Flight.TurnedAway (flight : Flight) (cause : SessionError) : Prop :=
  (flight.todo = [] ∧ flight.reply = some (.error cause)) ∨
    EndsIn (fun last => last = .answer (.error cause)) flight.todo

/-- Whether a call had its session admitted, and so is not turned away any more. -/
def Flight.Admitted (id : SessionId) (flight : Flight) : Prop :=
  (flight.todo = [] ∧ ∀ cause, flight.reply = some (.error cause) → cause.turnsAway = false) ∨
    EndsIn (fun last => last.Leads id flight.call ∨ last = .answer (.error (.notFound id)))
      flight.todo

/-- Whether the table changed only by forgetting sessions that were done. -/
def Registry.OnlyReaped (registry after : Registry) : Prop :=
  ∀ id, after.slot? id = registry.slot? id ∨
    ∃ slot, registry.slot? id = some slot ∧ registry.slotFinished slot = true ∧
      after.slot? id = none

namespace Registry

variable {registry after : Registry}

theorem OnlyReaped.of_table (same : after.table = registry.table) : registry.OnlyReaped after :=
  fun id => .inl (by rw [slot?, same, slot?])

theorem onlyReaped_reaped (registry : Registry) : registry.OnlyReaped registry.reaped := by
  intro id
  rw [slot?_reaped]
  cases there : registry.slot? id with
  | none => exact .inl rfl
  | some slot =>
    cases finished : registry.slotFinished slot with
    | false => exact .inl (by simp [finished])
    | true => exact .inr ⟨slot, rfl, finished, by simp [finished]⟩

end Registry

open Registry in
/-- What a call does on its way, or when it answers, forgets at most sessions that are done. -/
theorem Task.Yields.onlyReaped {registry : Registry} {task : Task} {progress : Progress}
    (yields : task.Yields registry progress)
    (harmless : task.Passes ∨ ∃ reply, task = .answer reply) :
    registry.OnlyReaped progress.registry := by
  cases yields with
  | reaped => exact registry.onlyReaped_reaped
  | halted same => exact .of_table same
  | told | unheard | closed | ended | broken | answered => exact .of_table rfl
  | watched watches =>
    obtain passes | ⟨reply, rfl⟩ := harmless
    · cases task <;> first | exact False.elim passes | cases watches
    · cases watches
  | _ =>
    obtain passes | ⟨reply, same⟩ := harmless
    · cases passes
    · cases same

open Registry in
/-- What a call does that may have a session admitted: it has it admitted, or it is turned away and
leaves the table alone. -/
theorem Task.Yields.entering {registry : Registry} {task : Task} {progress : Progress}
    {answer : Except SinkError Unit} (yields : task.Yields registry progress)
    (did : task.step registry answer = some progress) {id : SessionId}
    (opens : task.opens id = true) (call : Call) :
    (registry.OnlyReaped progress.registry ∧
        (EndsIn (fun last => last.opens id = true) progress.todo ∨
          ∃ cause, EndsIn (fun last => last = .answer (.error cause)) progress.todo ∧
            cause.turnsAway = true ∧ ∀ limit, cause = .capacityReached limit →
              (∃ launch, task = .reserve launch ∧ launch.id = id) ∧
                registry.refusal? id = some cause)) ∨
      EndsIn (fun last => last.Leads id call) progress.todo := by
  have refused : ∀ {other : SessionId} {sink : SinkId} {cause : SessionError},
      EndsIn (fun last => last = .answer (.error cause))
        (registry.rejection other sink cause).todo := by
    intro other sink cause
    exact .cons trivial (.cons trivial (.single rfl))
  cases yields with
  | built => exact .inl ⟨.of_table rfl, .inl (.cons trivial (.single opens))⟩
  | @unfit other rom seed sink cause =>
    refine .inl ⟨.of_table rfl, .inr ⟨cause, refused, ?_⟩⟩
    -- the program does not fit, whatever the machine
    obtain ⟨failure, rfl⟩ : ∃ failure, cause = .machine failure := by
      have same := Option.some.inj did
      rw [Registry.build] at same
      split at same
      · cases congrArg Progress.notices same
      · rename_i failure _
        have notices := congrArg Progress.notices same
        simp only [rejection, List.cons.injEq, RegistryNotice.rejected.injEq, and_true] at notices
        exact ⟨failure, notices.2.symm⟩
    exact ⟨rfl, fun _ same => by cases same⟩
  | @rejected launch cause why =>
    have same : launch.id = id := of_decide_eq_true opens
    subst same
    refine .inl ⟨.of_table rfl, .inr ⟨cause, refused, ?_, fun _ _ => ⟨⟨launch, rfl, rfl⟩, why⟩⟩⟩
    unfold refusal? at why
    split at why
    · cases why
      rfl
    · split at why
      · cases why
        rfl
      · cases why
  | admitted =>
    have same : _ = id := of_decide_eq_true opens
    exact .inr (.single same)
  | watched watches => cases task <;> first | exact absurd opens Bool.false_ne_true | cases watches
  | _ => cases opens

open Registry in
/-- **How a call on the way to its worker ends**: it put the worker into the slot, or it ends with
an error, which turns nobody away who was admitted. -/
theorem Task.Yields.ending {registry : Registry} {task : Task} {progress : Progress}
    (yields : task.Yields registry progress) {id : SessionId} {call : Call}
    (leads : task.Leads id call) (complete : progress.todo = []) :
    (progress.reply = some (.ok .done) ∧
        ∃ worker, task = .publish id worker ∧ registry.slot? id ≠ none) ∨
      ∃ cause, progress.reply = some (.error cause) ∧
        (call.starts? = some id → cause.turnsAway = false) := by
  cases yields with
  | @published other worker slot there =>
    obtain rfl : other = id := leads
    exact .inl ⟨rfl, worker, rfl, by rw [there]; exact Option.some_ne_none _⟩
  | misfit =>
    obtain ⟨-, rfl⟩ := leads
    exact .inr ⟨_, rfl, fun starts => by cases starts⟩
  | @withdrawn kind other cause =>
    refine .inr ⟨cause, rfl, fun starts => ?_⟩
    cases cause with
    | machine failure =>
      obtain ⟨rom, seed, rfl, -⟩ := leads
      cases starts
    | alreadyExists | capacityReached => cases leads
    | _ => rfl
  | bereft | unknown | busy | lost => exact .inr ⟨_, rfl, fun _ => rfl⟩
  | idle => cases leads
  | @parked other sink purpose =>
    cases purpose with
    | park => cases leads
    | replace rom machine => cases complete
  | @vanished other purpose =>
    cases purpose with
    | park => cases leads
    | replace rom machine => cases complete
  | @ended other number custom =>
    cases custom with
    | close => cases leads
    | keep purpose => cases complete
  | @broken other number custom =>
    cases custom with
    | close => cases leads
    | keep purpose => cases complete
  | watched watches => cases task <;> first | exact False.elim leads | cases watches
  | told | unheard | closed | missed | answered | reaped | removed => cases leads
  | _ => cases complete

namespace System

/-- Whether the moves of a call, in the course of a schedule, changed the table only by forgetting
sessions that were done. -/
def OnlyReaps (settings : Settings) (schedule : List Move) (number : Nat) : Prop :=
  ∀ before answer after, schedule = before ++ .proceed number answer :: after →
    ((new settings).run before).registry.OnlyReaped
      (((new settings).run before).move (.proceed number answer)).registry

/-- Whether a call looked whether a session may be admitted, in the course of a schedule, and found
that it is registered by nobody but that there is no room. -/
def FoundFull (settings : Settings) (schedule : List Move) (number : Nat) (id : SessionId)
    (limit : Nat) : Prop :=
  ∃ before answer after launch, schedule = before ++ .proceed number answer :: after ∧
    ((new settings).run before).task? (.proceed number answer) = some (.reserve launch) ∧
    launch.id = id ∧ ((new settings).run before).registry.slot? id = none ∧
    settings.maxSessions.toNat ≤ ((new settings).run before).registry.table.size ∧
    limit = settings.maxSessions.toNat

theorem OnlyReaps.concat {settings : Settings} {schedule : List Move} {number : Nat}
    (reaps : OnlyReaps settings schedule number) {move : Move}
    (last : ∀ answer, move = .proceed number answer →
      ((new settings).run schedule).registry.OnlyReaped
        (((new settings).run schedule).move move).registry) :
    OnlyReaps settings (schedule ++ [move]) number := by
  intro before answer after split
  rcases List.eq_nil_or_concat after with rfl | ⟨between, final, rfl⟩
  · obtain ⟨rfl, same⟩ := List.append_inj' split rfl
    cases same
    exact last answer rfl
  · rw [List.concat_eq_append, ← List.cons_append, ← List.append_assoc] at split
    exact reaps before answer between (List.append_inj' split rfl).1

/-- A call that was not begun has made no move. -/
theorem onlyReaps_of_fresh {settings : Settings} {schedule : List Move} {number : Nat}
    (fresh : ((new settings).run schedule).flights[number]? = none) :
    OnlyReaps settings schedule number := by
  rintro before answer after rfl
  have absent : ((new settings).run before).flights[number]? = none := by
    by_contra begun
    obtain ⟨flight, known⟩ := Option.ne_none_iff_exists'.mp begun
    obtain ⟨moved, there, -⟩ := flights_run known (.proceed number answer :: after)
    rw [← run_append, fresh] at there
    cases there
  refine .of_table ?_
  rw [System.move, proceed, absent]

theorem FoundFull.concat {settings : Settings} {schedule : List Move} {number : Nat}
    {id : SessionId} {limit : Nat} (full : FoundFull settings schedule number id limit)
    (move : Move) : FoundFull settings (schedule ++ [move]) number id limit := by
  obtain ⟨before, answer, after, launch, rfl, found⟩ := full
  exact ⟨before, answer, after ++ [move], launch, by simp, found⟩

/-- How far a call to start a session has come: it waits for its admission, or was turned away, or
was admitted. -/
def Entry (settings : Settings) (schedule : List Move) (number : Nat) (id : SessionId)
    (flight : Flight) : Prop :=
  (OnlyReaps settings schedule number ∧
      (EndsIn (fun last => last.opens id = true) flight.todo ∨
        ∃ cause, flight.TurnedAway cause ∧ cause.turnsAway = true ∧
          ∀ limit, cause = .capacityReached limit → FoundFull settings schedule number id limit)) ∨
    flight.Admitted id

/-- Another call's moves do not concern the call. -/
theorem Entry.concat {settings : Settings} {schedule : List Move} {number : Nat} {id : SessionId}
    {flight : Flight} (entry : Entry settings schedule number id flight) {move : Move}
    (other : ∀ answer, move = .proceed number answer →
      (((new settings).run schedule).move move).registry =
        ((new settings).run schedule).registry) :
    Entry settings (schedule ++ [move]) number id flight := by
  refine entry.imp_left fun waits =>
    ⟨waits.1.concat fun answer same => ?_, waits.2.imp_right ?_⟩
  · exact .of_table (congrArg Registry.table (other answer same))
  · rintro ⟨cause, turned, away, full⟩
    exact ⟨cause, turned, away, fun limit same => (full limit same).concat move⟩

/-- What the next task of a call to start a session does. -/
theorem Entry.done {settings : Settings} {schedule : List Move} {number : Nat} {id : SessionId}
    {flight : Flight} (entry : Entry settings schedule number id flight)
    (starts : flight.call.starts? = some id) {answer : Except SinkError Unit} {task : Task}
    {later : List Task} {progress : Progress}
    (known : ((new settings).run schedule).flights[number]? = some flight)
    (next : flight.todo = task :: later)
    (did : task.step ((new settings).run schedule).registry answer = some progress)
    (yields : task.Yields ((new settings).run schedule).registry progress)
    (moved : (((new settings).run schedule).move (.proceed number answer)).registry =
      progress.registry) :
    Entry settings (schedule ++ [.proceed number answer]) number id
      (flight.advance progress later) := by
  have stays := settings_run settings schedule
  have found := task?_proceed known next answer
  -- the moves before did no more than reap, and neither does this one
  have reaped : OnlyReaps settings schedule number →
      ((new settings).run schedule).registry.OnlyReaped progress.registry →
      OnlyReaps settings (schedule ++ [.proceed number answer]) number :=
    fun reaps only => reaps.concat fun _ _ => moved ▸ only
  have nothing : later = [] → (flight.advance progress later).todo = progress.todo := by
    rintro rfl
    exact flight.todo_advance_nil progress
  rcases entry with ⟨reaps, waits | ⟨cause, turned, away, full⟩⟩ | ⟨complete, -⟩ | ends
  · rw [next] at waits
    rcases waits.cases with ⟨passes, rest⟩ | ⟨empty, opens⟩
    · exact .inl ⟨reaped reaps (yields.onlyReaped (.inl passes)),
        .inl (EndsIn.append (yields.passes passes) rest)⟩
    · rcases yields.entering did opens flight.call with
        ⟨only, waits | ⟨cause, ends, away, full⟩⟩ | ends
      · exact .inl ⟨reaped reaps only, .inl (by rw [nothing empty]; exact waits)⟩
      · refine .inl ⟨reaped reaps only, .inr ⟨cause, .inr (by rw [nothing empty]; exact ends), away,
          fun limit same => ?_⟩⟩
        obtain ⟨⟨launch, rfl, owner⟩, why⟩ := full limit same
        rw [same] at why
        obtain ⟨vacant, full, equal⟩ := Registry.size_ge_of_full _ why
        rw [stays] at full equal
        exact ⟨schedule, answer, [], launch, rfl, found, owner, vacant, full, equal⟩
      · exact .inr (.inr (by
          rw [nothing empty]
          exact ends.mono fun _ => .inl))
  · rcases turned with ⟨complete, -⟩ | ends
    · rw [next] at complete
      cases complete
    · rw [next] at ends
      have further := fun limit same => (full limit same).concat (.proceed number answer)
      rcases ends.cases with ⟨passes, rest⟩ | ⟨empty, rfl⟩
      · exact .inl ⟨reaped reaps (yields.onlyReaped (.inl passes)),
          .inr ⟨cause, .inr (EndsIn.append (yields.passes passes) rest), away, further⟩⟩
      · refine .inl ⟨reaped reaps (yields.onlyReaped (.inr ⟨_, rfl⟩)), .inr ⟨cause, .inl ?_, away,
          further⟩⟩
        subst empty
        cases yields with
        | answered => exact ⟨rfl, rfl⟩
        | watched watches => cases watches
  · rw [next] at complete
    cases complete
  · rw [next] at ends
    rcases ends.cases with ⟨passes, rest⟩ | ⟨empty, leads | rfl⟩
    · exact .inr (.inr (EndsIn.append (yields.passes passes) rest))
    · rcases yields.leading [] leads with ⟨complete, -⟩ | ends
      · refine .inr (.inl ⟨(nothing empty).trans complete, fun cause same => ?_⟩)
        rcases yields.ending leads complete with ⟨replied, -⟩ | ⟨other, replied, kept⟩
        · rw [Flight.advance, replied] at same
          cases same
        · rw [Flight.advance, replied] at same
          cases same
          exact kept starts
      · exact .inr (.inr (by
          rw [nothing empty]
          exact ends.mono fun _ leads => leads.imp_right And.left))
    · subst empty
      cases yields with
      | answered =>
        refine .inr (.inl ⟨rfl, fun cause same => ?_⟩)
        cases same
        rfl
      | watched watches => cases watches

/-- **How far each call to start a session has come**, at any time. -/
theorem entry_run (settings : Settings) (schedule : List Move) :
    ∀ (number : Nat) (flight : Flight) (id : SessionId),
      ((new settings).run schedule).flights[number]? = some flight →
      flight.call.starts? = some id → Entry settings schedule number id flight := by
  refine run_induction (new settings) (fun schedule system =>
    ∀ (number : Nat) (flight : Flight) (id : SessionId), system.flights[number]? = some flight →
      flight.call.starts? = some id → Entry settings schedule number id flight)
    (fun _ _ _ known => by cases known)
    (fun schedule move before step number flight id known starts => ?_) schedule
  generalize reached : ((new settings).run schedule).move move = after at step known
  have stay : after.registry = ((new settings).run schedule).registry →
      ((new settings).run schedule).flights[number]? = some flight →
      Entry settings (schedule ++ [move]) number id flight := fun same found =>
    (before number flight id found starts).concat fun _ _ => by rw [reached, same]
  cases step with
  | stayed => exact stay rfl known
  | worked | waited =>
    exact (before number flight id known starts).concat fun _ same => by cases same
  | @begun call =>
    rcases Nat.lt_or_ge number ((new settings).run schedule).flights.length with old | new
    · simp only [begin, List.getElem?_append_left old] at known
      exact (before number flight id known starts).concat fun _ same => by cases same
    · simp only [begin, List.getElem?_append_right new] at known
      obtain rfl := List.mem_singleton.mp (List.mem_of_getElem? known)
      refine .inl ⟨(onlyReaps_of_fresh (List.getElem?_eq_none new)).concat
        (fun _ same => by cases same), .inl ?_⟩
      cases call with
      | start other rom seed =>
        cases starts
        exact .single (decide_eq_true rfl)
      | _ => cases starts
  | @done other answer moved task later progress found next did yields =>
    by_cases this : other = number
    · subst this
      rw [List.getElem?_set_self (List.getElem?_eq_some_iff.mp found).1] at known
      cases known
      exact (before other moved id found starts).done starts found next did yields
        (by rw [reached])
    · rw [List.getElem?_set_ne this] at known
      exact (before number flight id known starts).concat fun _ same => by
        cases same
        exact absurd rfl this

/-- **The limit of sessions.** However calls and workers are interleaved, there are never more
sessions than the limit says. A call that starts no session, such as one that unloads a session or
gives it another program, never adds one. A call that is turned away changed the table only by
forgetting sessions that were done; and if it was turned away for lack of room, then it found its
name free and the table full when it looked. -/
theorem admission_bound (settings : Settings) (schedule : List Move) :
    ((new settings).run schedule).registry.table.size ≤ settings.maxSessions.toNat ∧
      ∀ (number : Nat) (flight : Flight),
        ((new settings).run schedule).flights[number]? = some flight →
          (flight.call.starts? = none → ∀ answer : Except SinkError Unit,
            (((new settings).run schedule).move (.proceed number answer)).registry.table.size ≤
              ((new settings).run schedule).registry.table.size) ∧
          ∀ (id : SessionId) (cause : SessionError), flight.call.starts? = some id →
            flight.isOver = true → flight.reply = some (.error cause) → cause.turnsAway = true →
              OnlyReaps settings schedule number ∧
                ∀ limit, cause = .capacityReached limit →
                  FoundFull settings schedule number id limit := by
  refine ⟨size_run settings schedule, fun number flight known =>
    ⟨size_proceed_le settings schedule known, fun id cause starts isOver replied away => ?_⟩⟩
  have complete : flight.todo = [] := List.isEmpty_iff.mp isOver
  rcases entry_run settings schedule number flight id known starts with
    ⟨reaps, waits | ⟨other, turned, -, full⟩⟩ | ⟨-, stays⟩ | ends
  · exact absurd complete waits.ne_nil
  · rcases turned with ⟨-, same⟩ | ends
    · obtain rfl : other = cause := by
        rw [replied] at same
        cases same
        rfl
      exact ⟨reaps, full⟩
    · exact absurd complete ends.ne_nil
  · rw [stays cause replied] at away
    cases away
  · exact absurd complete ends.ne_nil

end System

/-- Settings that leave room for one session. -/
def oneSession : Settings := { Settings.default with maxSessions := 1 }

/-- A session is started, and then another one. -/
def crowd : List Move :=
  let on (flight : Nat) : Move := .proceed flight (.ok ())
  [.begin (.start ⟨"s"⟩ loopRom 0), on 0, on 0, on 0, on 0, on 0, on 0,
    .begin (.start ⟨"t"⟩ loopRom 0), on 1, on 1, on 1, on 1, on 1, on 1]

namespace System

/-- The second session is turned away for lack of room. -/
theorem admission_bound_crowd : FoundFull oneSession crowd 1 ⟨"t"⟩ 1 := by
  have turned : ((new oneSession).run crowd).flights[1]?.any (fun flight =>
      flight.call.starts? = some ⟨"t"⟩ ∧ flight.isOver = true ∧
        flight.reply = some (.error (.capacityReached 1))) = true := by decide
  obtain ⟨flight, known, turned⟩ := (Option.any_eq_true _ _).mp turned
  obtain ⟨starts, isOver, replied⟩ := of_decide_eq_true turned
  have bound := (admission_bound oneSession crowd).2 1 flight known
  exact (bound.2 _ _ starts isOver replied rfl).2 1 rfl

end System

end Arcade
