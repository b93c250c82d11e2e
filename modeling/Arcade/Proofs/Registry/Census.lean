/-
**Counting what is in the table and in the hands of calls.**

Who owns a worker or a sink is a matter of counting: each slot of the table and each task that a
call has still to do counts for something, and a step takes as much from one place as it puts into
another. A `Census` says what counts for how much; the laws here say how each operation on the
table, and each task done, changes the count, whatever it is that is counted.

* `ofStates_putSlot`, `ofStates_forget`, `ofStates_reaped`: the count of the table;
* `total_done`: the count of the whole system after a task was done;
* `ofTasks_add_ofTasks_le`: what two calls have to do is counted twice.
-/

import Arcade.Proofs.Registry.Yield
import Mathlib.Algebra.Order.BigOperators.Group.List
import Mathlib.Algebra.Order.Ring.Nat

namespace Arcade

/-! ### Entries, up to their order -/

section Entries

variable {α : Type}

theorem eraseEntry_of_lookup_eq_none {key : String} {entries : List (String × α)}
    (absent : entries.lookup key = none) : eraseEntry key entries = entries := by
  refine List.filter_eq_self.mpr fun entry member => ?_
  have outside := lookup_eq_none_iff.mp absent
  have different : entry.1 ≠ key := fun same => outside (same ▸ List.mem_map_of_mem member)
  simpa using different

theorem perm_eraseEntry {key : String} {value : α} {entries : List (String × α)}
    (sorted : (entries.map Prod.fst).Pairwise (· < ·)) (found : entries.lookup key = some value) :
    entries.Perm ((key, value) :: eraseEntry key entries) := by
  induction entries with
  | nil => cases found
  | cons entry rest ih =>
    obtain ⟨other, kept⟩ := entry
    rw [List.map_cons, List.pairwise_cons] at sorted
    by_cases same : key = other
    · subst same
      rw [List.lookup_cons_self] at found
      cases found
      have absent : key ∉ rest.map Prod.fst := fun member =>
        String.lt_irrefl _ (sorted.1 key member)
      have kept : eraseEntry key ((key, value) :: rest) = rest := by
        simpa [eraseEntry] using eraseEntry_of_lookup_eq_none (lookup_eq_none_of_not_mem absent)
      rw [kept]
    · have differs : (key == other) = false := by simpa using same
      rw [List.lookup_cons, differs] at found
      have stays :
          eraseEntry key ((other, kept) :: rest) = (other, kept) :: eraseEntry key rest := by
        simp [eraseEntry, Ne.symm same]
      rw [stays]
      exact ((ih sorted.2 found).cons (other, kept)).trans (List.Perm.swap _ _ _)

theorem perm_insertEntry (key : String) (value : α) {entries : List (String × α)}
    (sorted : (entries.map Prod.fst).Pairwise (· < ·)) :
    (insertEntry key value entries).Perm ((key, value) :: eraseEntry key entries) := by
  induction entries with
  | nil => exact List.Perm.refl _
  | cons entry rest ih =>
    obtain ⟨other, kept⟩ := entry
    have whole := sorted
    rw [List.map_cons, List.pairwise_cons] at sorted
    unfold insertEntry
    split
    · rename_i less
      have absent : key ∉ ((other, kept) :: rest).map Prod.fst := by
        intro member
        rcases List.mem_cons.mp (by simpa only [List.map_cons] using member) with same | behind
        · exact String.lt_irrefl _ (same ▸ less)
        · exact String.lt_irrefl _ (String.lt_trans less (sorted.1 key behind))
      rw [eraseEntry_of_lookup_eq_none (lookup_eq_none_of_not_mem absent)]
    · split
      · rename_i same
        subst same
        have absent : key ∉ rest.map Prod.fst := fun member =>
          String.lt_irrefl _ (sorted.1 key member)
        have erased : eraseEntry key ((key, kept) :: rest) = rest := by
          simpa [eraseEntry] using eraseEntry_of_lookup_eq_none (lookup_eq_none_of_not_mem absent)
        rw [erased]
      · rename_i different
        have stays : eraseEntry key ((other, kept) :: rest) =
            (other, kept) :: eraseEntry key rest := by
          simp [eraseEntry, Ne.symm different]
        rw [stays]
        exact ((ih sorted.2).cons (other, kept)).trans (List.Perm.swap _ _ _)

theorem mem_iff_lookup {key : String} {value : α} {entries : List (String × α)}
    (sorted : (entries.map Prod.fst).Pairwise (· < ·)) :
    (key, value) ∈ entries ↔ entries.lookup key = some value := by
  induction entries with
  | nil => simp
  | cons entry rest ih =>
    obtain ⟨other, kept⟩ := entry
    rw [List.map_cons, List.pairwise_cons] at sorted
    by_cases same : key = other
    · subst same
      have absent : (key, value) ∉ rest := fun member =>
        String.lt_irrefl _ (sorted.1 key (List.mem_map_of_mem member))
      simp [absent, eq_comm]
    · have differs : (key == other) = false := by simpa using same
      rw [List.lookup_cons, differs, ← ih sorted.2]
      simp [same]

/-- No name stands twice in a table. -/
theorem NameTable.nodup_names (table : NameTable α) : table.names.Nodup := by
  refine table.sorted.imp fun {_ _} less => ?_
  rintro rfl
  exact String.lt_irrefl _ less

end Entries

/-! ### Slots after an operation -/

namespace Registry

variable (registry : Registry)

theorem slot?_putSlot (id other : SessionId) (slot : Slot) :
    (registry.putSlot id slot).slot? other =
      if other = id then some slot else registry.slot? other := by
  simp only [slot?, putSlot, NameTable.lookup_insert]
  by_cases same : other = id
  · simp [same]
  · have differs : other.name ≠ id.name := fun names => same (by cases other; cases id; simp_all)
    simp [same, differs]

theorem slot?_forget (id other : SessionId) :
    (registry.forget id).slot? other = if other = id then none else registry.slot? other := by
  simp only [slot?, forget, NameTable.lookup_erase]
  by_cases same : other = id
  · simp [same]
  · have differs : other.name ≠ id.name := fun names => same (by cases other; cases id; simp_all)
    simp [same, differs]

/-- Forgetting some sessions changes nothing but the table. -/
theorem foldl_forget (gone : List (SessionId × WorkerId)) :
    gone.foldl (fun kept entry => kept.forget entry.1) registry =
      { registry with
        table := gone.foldl (fun kept entry => kept.erase entry.1.name) registry.table } := by
  induction gone generalizing registry with
  | nil => rfl
  | cons entry rest ih => rw [List.foldl_cons, ih, List.foldl_cons]; rfl

theorem workers_reaped : registry.reaped.workers = registry.workers := by
  rw [reaped, foldl_forget]

theorem events_reaped : registry.reaped.events = registry.events := by
  rw [reaped, foldl_forget]

theorem sinks_reaped : registry.reaped.sinks = registry.sinks := by
  rw [reaped, foldl_forget]

theorem entries_foldl_erase (gone : List (SessionId × WorkerId)) (table : NameTable Slot) :
    (gone.foldl (fun kept entry => kept.erase entry.1.name) table).entries =
      table.entries.filter fun entry => !(gone.map fun entry => entry.1.name).contains entry.1 := by
  induction gone generalizing table with
  | nil => exact (List.filter_eq_self.mpr fun _ _ => rfl).symm
  | cons first rest ih =>
    rw [List.foldl_cons, ih]
    simp only [NameTable.erase, eraseEntry, List.filter_filter]
    refine List.filter_congr fun entry _ => ?_
    rw [List.map_cons, List.contains_cons, Bool.not_or, Bool.and_comm]
    rfl

theorem mem_entries {name : String} {slot : Slot} :
    (name, slot) ∈ registry.table.entries ↔ registry.slot? ⟨name⟩ = some slot :=
  mem_iff_lookup registry.table.sorted

/-- Which sessions are listed as done. -/
theorem mem_finished {id : SessionId} {worker : WorkerId} :
    (id, worker) ∈ registry.finished ↔
      ∃ slot, registry.slot? id = some slot ∧ slot.state = .running worker ∧
        registry.isFinished worker = true := by
  simp only [finished, List.mem_filterMap]
  constructor
  · rintro ⟨⟨name, slot⟩, member, done⟩
    have there := registry.mem_entries.mp member
    cases held : slot.state with
    | running other =>
      simp only [held] at done
      split at done
      · rename_i complete
        cases done
        exact ⟨slot, there, held, complete⟩
      · cases done
    | unloaded sink => simp [held] at done
    | pending => simp [held] at done
  · rintro ⟨slot, there, held, complete⟩
    refine ⟨(id.name, slot), registry.mem_entries.mpr there, ?_⟩
    simp [held, complete]

/-- Of the entries that the table has, those stay whose workers are not done. -/
theorem entries_reaped :
    registry.reaped.table.entries =
      registry.table.entries.filter fun entry => !registry.slotFinished entry.2 := by
  rw [reaped, foldl_forget, entries_foldl_erase]
  refine List.filter_congr fun entry member => congrArg (! ·) ?_
  obtain ⟨name, slot⟩ := entry
  have there := registry.mem_entries.mp member
  rw [Bool.eq_iff_iff, List.contains_iff_mem]
  constructor
  · intro listed
    obtain ⟨⟨id, worker⟩, inFinished, rfl⟩ := List.mem_map.mp listed
    obtain ⟨other, found, held, complete⟩ := registry.mem_finished.mp inFinished
    have same : other = slot := Option.some.inj (found.symm.trans there)
    subst same
    simp [slotFinished, held, complete]
  · intro done
    cases held : slot.state with
    | running worker =>
      simp only [slotFinished, held] at done
      exact List.mem_map.mpr
        ⟨(⟨name⟩, worker), registry.mem_finished.mpr ⟨slot, there, held, done⟩, rfl⟩
    | unloaded sink => simp [slotFinished, held] at done
    | pending => simp [slotFinished, held] at done

theorem slot?_reaped (id : SessionId) :
    registry.reaped.slot? id =
      (registry.slot? id).filter fun slot => !registry.slotFinished slot := by
  refine Option.ext fun slot => ?_
  have there : registry.reaped.slot? id = some slot ↔
      (id.name, slot) ∈ registry.reaped.table.entries :=
    registry.reaped.mem_entries.symm
  rw [there, entries_reaped, List.mem_filter, registry.mem_entries, Option.filter_eq_some_iff]

theorem state?_eq_lookup (id : SessionId) :
    registry.state? id = registry.states.lookup id.name := by
  simp only [state?, slot?, states, NameTable.lookup?]
  induction registry.table.entries with
  | nil => rfl
  | cons entry rest ih =>
    obtain ⟨name, slot⟩ := entry
    simp only [List.map_cons, List.lookup_cons]
    split
    · rfl
    · exact ih

theorem state?_putSlot (id other : SessionId) (slot : Slot) :
    (registry.putSlot id slot).state? other =
      if other = id then some slot.state else registry.state? other := by
  simp only [state?, slot?_putSlot]
  split <;> rfl

theorem state?_forget (id other : SessionId) :
    (registry.forget id).state? other = if other = id then none else registry.state? other := by
  simp only [state?, slot?_forget]
  split <;> rfl

/-- A slot that is left after a look for those that are done was there before. -/
theorem state?_of_reaped {id : SessionId} {state : SlotState}
    (left : registry.reaped.state? id = some state) : registry.state? id = some state := by
  obtain ⟨slot, found, held⟩ := Option.map_eq_some_iff.mp left
  rw [slot?_reaped, Option.filter_eq_some_iff] at found
  rw [state?, found.1]
  exact congrArg some held

theorem table_vacate (id : SessionId) : (registry.vacate id).table = registry.table := by
  unfold vacate abandon
  split
  · split <;> rfl
  · rfl

theorem workers_vacate (id : SessionId) : (registry.vacate id).workers = registry.workers := by
  unfold vacate abandon
  split
  · split <;> rfl
  · rfl

theorem sinks_vacate (id : SessionId) : (registry.vacate id).sinks = registry.sinks := by
  unfold vacate abandon
  split
  · split <;> rfl
  · rfl

end Registry

/-! ### The count -/

/-- What each slot and each task counts for. -/
structure Census where
  slot : SessionId → SlotState → Nat
  task : Task → Nat

namespace Census

variable (census : Census)

/-- The count of some slots. -/
def ofStates (states : List (String × SlotState)) : Nat :=
  (states.map fun entry => census.slot ⟨entry.1⟩ entry.2).sum

/-- The count of some tasks. -/
def ofTasks (todo : List Task) : Nat := (todo.map census.task).sum

/-- The count of what some calls have to do. -/
def ofFlights (flights : List Flight) : Nat :=
  (flights.map fun flight => census.ofTasks flight.todo).sum

/-- The count of a session's slot. -/
def ofSlot (registry : Registry) (id : SessionId) : Nat :=
  match registry.state? id with
  | some state => census.slot id state
  | none => 0

/-- The count of a whole system. -/
def total (system : System) : Nat :=
  census.ofStates system.registry.states + census.ofFlights system.flights

@[simp] theorem ofTasks_nil : census.ofTasks [] = 0 := rfl

@[simp] theorem ofTasks_cons (task : Task) (later : List Task) :
    census.ofTasks (task :: later) = census.task task + census.ofTasks later := by
  simp [ofTasks]

@[simp] theorem ofTasks_append (first second : List Task) :
    census.ofTasks (first ++ second) = census.ofTasks first + census.ofTasks second := by
  simp [ofTasks]

theorem ofTasks_eq_zero {todo : List Task} :
    census.ofTasks todo = 0 ↔ ∀ task ∈ todo, census.task task = 0 := by
  simp [ofTasks, List.sum_eq_zero_iff_forall_eq_nat]

theorem task_le_ofTasks {todo : List Task} {task : Task} (member : task ∈ todo) :
    census.task task ≤ census.ofTasks todo :=
  List.single_le_sum (fun _ _ => Nat.zero_le _) _ (List.mem_map_of_mem member)

theorem ofSlot_of_state {registry : Registry} {id : SessionId} {state : SlotState}
    (there : registry.state? id = some state) :
    census.ofSlot registry id = census.slot id state := by
  rw [ofSlot, there]

theorem ofSlot_of_gone {registry : Registry} {id : SessionId} (gone : registry.state? id = none) :
    census.ofSlot registry id = 0 := by
  rw [ofSlot, gone]

/-- The count of the table is that of one slot and of the table without it. -/
theorem ofStates_forget (registry : Registry) (id : SessionId) :
    census.ofStates (registry.forget id).states + census.ofSlot registry id =
      census.ofStates registry.states := by
  cases there : registry.slot? id with
  | none =>
    have erased : eraseEntry id.name registry.table.entries = registry.table.entries :=
      eraseEntry_of_lookup_eq_none there
    have gone : registry.state? id = none := by rw [Registry.state?, there]; rfl
    simp only [census.ofSlot_of_gone gone, Registry.states, Registry.forget, NameTable.erase,
      erased]
    rfl
  | some slot =>
    have split := perm_eraseEntry registry.table.sorted
      (there : registry.table.entries.lookup _ = _)
    have counted := ((split.map fun entry => (entry.1, entry.2.state)).map
      fun entry => census.slot ⟨entry.1⟩ entry.2).sum_nat
    rw [census.ofSlot_of_state (registry.state?_of_slot? there)]
    have here : census.slot ⟨id.name⟩ slot.state = census.slot id slot.state := rfl
    simp only [List.map_cons, List.sum_cons] at counted
    simp only [ofStates, Registry.states, Registry.forget, NameTable.erase]
    omega

/-- Putting a slot in takes what the one in its place counted, and adds what it counts itself. -/
theorem ofStates_putSlot (registry : Registry) (id : SessionId) (slot : Slot) :
    census.ofStates (registry.putSlot id slot).states + census.ofSlot registry id =
      census.ofStates registry.states + census.slot id slot.state := by
  have erased := census.ofStates_forget registry id
  have split := perm_insertEntry id.name slot registry.table.sorted
  have counted := ((split.map fun entry => (entry.1, entry.2.state)).map
    fun entry => census.slot ⟨entry.1⟩ entry.2).sum_nat
  have here : census.slot ⟨id.name⟩ slot.state = census.slot id slot.state := rfl
  simp only [List.map_cons, List.sum_cons] at counted
  simp only [ofStates, Registry.states, Registry.forget, Registry.putSlot, NameTable.erase,
    NameTable.insert] at erased ⊢
  omega

/-- The sessions that are done take with them what their slots counted. -/
theorem ofStates_reaped (registry : Registry) :
    census.ofStates registry.reaped.states +
        (registry.finished.map fun entry => census.slot entry.1 (.running entry.2)).sum =
      census.ofStates registry.states := by
  simp only [ofStates, Registry.states, registry.entries_reaped, Registry.finished]
  induction registry.table.entries with
  | nil => rfl
  | cons entry rest ih =>
    obtain ⟨name, slot⟩ := entry
    simp only [List.filter_cons, List.filterMap_cons, List.map_cons, List.sum_cons,
      Registry.slotFinished] at ih ⊢
    cases held : slot.state with
    | running worker =>
      cases complete : registry.isFinished worker with
      | false =>
        simp only [complete, held, Bool.not_false, Bool.false_eq_true, if_true, if_false,
          List.map_cons, List.sum_cons]
        omega
      | true =>
        simp only [complete, Bool.not_true, Bool.false_eq_true, if_true, if_false,
          List.map_cons, List.sum_cons]
        omega
    | unloaded sink =>
      simp only [Bool.not_false, if_true, List.map_cons, List.sum_cons, held]
      omega
    | pending =>
      simp only [Bool.not_false, if_true, List.map_cons, List.sum_cons, held]
      omega

theorem ofSlot_le (registry : Registry) (id : SessionId) :
    census.ofSlot registry id ≤ census.ofStates registry.states := by
  have split := census.ofStates_forget registry id
  omega

/-- Two slots count side by side. -/
theorem ofSlot_add_ofSlot_le (registry : Registry) {id other : SessionId} (different : other ≠ id) :
    census.ofSlot registry id + census.ofSlot registry other ≤ census.ofStates registry.states := by
  have split := census.ofStates_forget registry id
  have bound := census.ofSlot_le (registry.forget id) other
  have kept : census.ofSlot (registry.forget id) other = census.ofSlot registry other := by
    simp only [ofSlot, registry.state?_forget, if_neg different]
  omega

/-- What is counted in the table is counted at some slot. -/
theorem exists_of_ofStates_pos {registry : Registry}
    (positive : 0 < census.ofStates registry.states) :
    ∃ id state, registry.state? id = some state ∧ 0 < census.slot id state := by
  obtain ⟨count, member, some⟩ := List.sum_pos_iff_exists_pos_nat.mp positive
  obtain ⟨entry, listed, rfl⟩ := List.mem_map.mp member
  obtain ⟨⟨name, slot⟩, inTable, rfl⟩ := List.mem_map.mp listed
  exact ⟨_, _, registry.state?_of_slot? (registry.mem_entries.mp inTable), some⟩

/-- The table counts nothing where no slot counts. -/
theorem ofStates_eq_zero {registry : Registry} :
    census.ofStates registry.states = 0 ↔
      ∀ id state, registry.state? id = some state → census.slot id state = 0 := by
  constructor
  · intro none id state there
    have bound := census.ofSlot_le registry id
    rw [census.ofSlot_of_state there, none] at bound
    exact Nat.le_zero.mp bound
  · intro none
    by_contra positive
    obtain ⟨id, state, there, counts⟩ :=
      census.exists_of_ofStates_pos (Nat.pos_of_ne_zero positive)
    exact Nat.ne_of_gt counts (none id state there)

theorem ofFlights_append (first second : List Flight) :
    census.ofFlights (first ++ second) = census.ofFlights first + census.ofFlights second := by
  simp [ofFlights]

/-- A call's tasks are exchanged for others. -/
theorem ofFlights_set {flights : List Flight} {number : Nat} {flight : Flight}
    (known : flights[number]? = some flight) (moved : Flight) :
    census.ofFlights (flights.set number moved) + census.ofTasks flight.todo =
      census.ofFlights flights + census.ofTasks moved.todo := by
  induction flights generalizing number with
  | nil => cases known
  | cons first rest ih =>
    cases number with
    | zero =>
      cases known
      simp only [ofFlights, List.set_cons_zero, List.map_cons, List.sum_cons]
      omega
    | succ number =>
      have exchanged := ih (by simpa using known)
      simp only [ofFlights, List.set_cons_succ, List.map_cons, List.sum_cons] at exchanged ⊢
      omega

/-- The calls have nothing that counts where no task counts. -/
theorem ofFlights_eq_zero {flights : List Flight} :
    census.ofFlights flights = 0 ↔
      ∀ flight ∈ flights, ∀ task ∈ flight.todo, census.task task = 0 := by
  simp only [ofFlights, List.sum_eq_zero_iff_forall_eq_nat, List.forall_mem_map, ofTasks_eq_zero]

/-- When no call is in progress, nothing is in the hands of one. -/
theorem ofFlights_of_quiet {system : System} (quiet : system.isQuiet = true) :
    census.ofFlights system.flights = 0 := by
  rw [ofFlights_eq_zero]
  intro flight inFlight task member
  have complete := List.all_eq_true.mp quiet flight inFlight
  rw [List.isEmpty_iff.mp complete] at member
  cases member

theorem ofTasks_le_ofFlights {flights : List Flight} {number : Nat} {flight : Flight}
    (known : flights[number]? = some flight) :
    census.ofTasks flight.todo ≤ census.ofFlights flights :=
  List.single_le_sum (fun _ _ => Nat.zero_le _) _
    (List.mem_map_of_mem (List.mem_of_getElem? known))

/-- Two calls count side by side. -/
theorem ofTasks_add_ofTasks_le {flights : List Flight} {number other : Nat} {flight rival : Flight}
    (known : flights[number]? = some flight) (second : flights[other]? = some rival)
    (different : other ≠ number) :
    census.ofTasks flight.todo + census.ofTasks rival.todo ≤ census.ofFlights flights := by
  have exchanged := census.ofFlights_set known { flight with todo := [] }
  have left : (flights.set number { flight with todo := [] })[other]? = some rival := by
    rw [List.getElem?_set_ne (Ne.symm different), second]
  have bound := census.ofTasks_le_ofFlights left
  simp only [ofTasks_nil] at exchanged
  omega

/-- A task counts among the tasks of all calls. -/
theorem task_le_ofFlights {flights : List Flight} {flight : Flight} {task : Task}
    (inFlight : flight ∈ flights) (member : task ∈ flight.todo) :
    census.task task ≤ census.ofFlights flights :=
  (census.task_le_ofTasks member).trans
    (List.single_le_sum (fun _ _ => Nat.zero_le _) _ (List.mem_map_of_mem inFlight))

/-- **The count after a task was done**: the table's change, and the task exchanged for what it led
to. -/
theorem total_done {system : System} {number : Nat} {flight : Flight} {task : Task}
    {later : List Task} (known : system.flights[number]? = some flight)
    (next : flight.todo = task :: later) (progress : Progress) :
    census.total ⟨progress.registry, system.flights.set number (flight.advance progress later)⟩ +
        census.ofStates system.registry.states + census.task task =
      census.total system + census.ofStates progress.registry.states +
        census.ofTasks progress.todo := by
  have exchanged := census.ofFlights_set known (flight.advance progress later)
  simp only [total, Flight.advance, next, ofTasks_cons, ofTasks_append] at exchanged ⊢
  omega

end Census

end Arcade
