import ApiBindings.Registry.Lowering
import ApiBindings.Types.Resolve
import ApiBindings.Types.SharedMemo
import Mathlib.Data.List.Dedup
import Mathlib.Logic.Function.Iterate

/-!
# A shared memo cannot be noticed

However the steps of clients that share a memo are interleaved, every client does what it would do alone and
without a memo: it makes the `calls` of its program, gets the answers that resolution gives, and comes to the
value of its program.

Two invariants carry this.  What the memo remembers is right, so a hit answers as resolution does
(`Client.follows_step`).  The memo remembers exactly the names of the calls that have returned, each once, and
a call that is in flight has not returned (`Consistent.remembered`); between calls its size is therefore the
number of distinct names asked for.

Clients never wait for each other.  A call takes three steps of its client at most (`Client.stepsLeft_step`),
so a client that is scheduled three times for each of its calls has come to its end, whatever the others do.
-/

namespace ApiBindings.Resolving

set_option autoImplicit false

variable {α : Type} {resolve : String → String}

/-! ## What a computation does alone -/

/-- The calls that a computation makes, each with the answer of `resolve`. -/
def calls (resolve : String → String) : Resolving α → List (String × String)
  | answer _ => []
  | ask name next => (name, resolve name) :: (next (resolve name)).calls resolve

theorem answer_of_mem_calls (program : Resolving α) {call : String × String}
    (mem : call ∈ program.calls resolve) : call.2 = resolve call.1 := by
  induction program with
  | answer value => cases mem
  | ask name next ih =>
      rcases List.mem_cons.mp mem with rfl | later
      · rfl
      · exact ih _ later

/-! ## The names of a memo -/

namespace Memo

variable {memo : Memo} {name other resolved : String}

/-- The names whose resolution is remembered. -/
def names (memo : Memo) : List String := memo.entries.map (·.1)

theorem size_eq_length_names (memo : Memo) : memo.size = memo.names.length := by
  rw [size, names, List.length_map]

theorem mem_names_of_find? (hit : memo.find? name = some resolved) : name ∈ memo.names := by
  obtain ⟨before, after, split, -⟩ := List.lookup_eq_some_iff.mp hit
  rw [names, split]
  simp

theorem names_insert (memo : Memo) (name resolved : String) :
    (memo.insert name resolved).names = name :: memo.names.filter (· != name) := by
  rw [names, insert, List.map_cons, names, List.filter_map]
  rfl

theorem mem_names_insert : other ∈ (memo.insert name resolved).names ↔
    other = name ∨ other ∈ memo.names := by
  rw [names_insert, List.mem_cons, List.mem_filter, bne_iff_ne]
  by_cases same : other = name <;> simp [same]

theorem nodup_names_insert (distinct : memo.names.Nodup) (name resolved : String) :
    (memo.insert name resolved).names.Nodup := by
  rw [names_insert, List.nodup_cons]
  exact ⟨by simp, distinct.filter _⟩

end Memo

/-! ## A step of one client -/

/-- What is left to do from a stage on; a call in flight is still to be made. -/
def Stage.rest : Stage α → Resolving α
  | ready rest => rest
  | missed name next => ask name next
  | found name _ next => ask name next

/-- A bound on the steps that a client takes from a stage on, three for each call. -/
def Stage.stepsLeft (resolve : String → String) : Stage α → Nat
  | ready rest => 3 * (rest.calls resolve).length
  | missed name next => 3 * ((next (resolve name)).calls resolve).length + 2
  | found name _ next => 3 * ((next (resolve name)).calls resolve).length + 1

namespace Client

variable {program : Resolving α} {client : Client α} {memo : Memo} {name : String}

/-- A client does what its program does. -/
structure Follows (resolve : String → String) (program : Resolving α) (client : Client α) : Prop where
  calls : client.calls ++ client.stage.rest.calls resolve = program.calls resolve
  value : client.stage.rest.eval resolve = program.eval resolve
  found : ∀ name resolved next, client.stage = .found name resolved next → resolved = resolve name

theorem Follows.ofProgram (program : Resolving α) : (ofProgram program).Follows resolve program :=
  ⟨rfl, rfl, by simp [Client.ofProgram]⟩

theorem Follows.returned {next : String → Resolving α} {resolved : String}
    (follows : client.Follows resolve program) (inFlight : client.stage.rest = ask name next)
    (right : resolved = resolve name) :
    (client.returned name resolved next).Follows resolve program := by
  subst right
  obtain ⟨calls, value, -⟩ := follows
  rw [inFlight] at calls value
  refine ⟨?_, value, by simp [Client.returned]⟩
  rw [Client.returned, List.append_assoc]
  exact calls

theorem Follows.moved {stage : Stage α} (follows : client.Follows resolve program)
    (same : stage.rest = client.stage.rest)
    (right : ∀ name resolved next, stage = .found name resolved next → resolved = resolve name) :
    Follows resolve program { client with stage } := by
  refine ⟨?_, ?_, right⟩
  · rw [same]
    exact follows.calls
  · rw [same]
    exact follows.value

theorem follows_step (sound : memo.Sound resolve) (follows : client.Follows resolve program) :
    (client.step resolve memo).1.Follows resolve program := by
  unfold step
  split
  · exact follows
  · next name next stage =>
      have inFlight : client.stage.rest = ask name next := by rw [stage, Stage.rest]
      split
      · next resolved hit => exact follows.returned inFlight (sound.find? hit)
      · exact follows.moved inFlight.symm (by simp)
  · next name next stage =>
      have inFlight : client.stage.rest = ask name next := by rw [stage, Stage.rest]
      refine follows.moved inFlight.symm ?_
      rintro _ _ _ ⟨⟩
      rfl
  · next name resolved next stage =>
      have inFlight : client.stage.rest = ask name next := by rw [stage, Stage.rest]
      exact follows.returned inFlight (follows.found name resolved next stage)

theorem sound_step (sound : memo.Sound resolve) (follows : client.Follows resolve program) :
    (client.step resolve memo).2.Sound resolve := by
  unfold step
  split
  · exact sound
  · split <;> exact sound
  · exact sound
  · next name resolved next stage =>
      rw [follows.found name resolved next stage]
      exact sound.insert name

theorem nodup_names_step (distinct : memo.names.Nodup) (client : Client α) :
    (client.step resolve memo).2.names.Nodup := by
  unfold step
  split
  · exact distinct
  · split <;> exact distinct
  · exact distinct
  · exact Memo.nodup_names_insert distinct _ _

/-- A step returns at most one call, and never takes one back. -/
theorem calls_subset_step (client : Client α) (memo : Memo) :
    client.calls ⊆ (client.step resolve memo).1.calls := by
  unfold step
  split
  · exact List.Subset.refl _
  · split
    · exact List.subset_append_left _ _
    · exact List.Subset.refl _
  · exact List.Subset.refl _
  · exact List.subset_append_left _ _

/-- What a step makes the memo remember is the name of the call that returns. -/
theorem mem_names_step (known : ∀ name ∈ client.calls.map (·.1), name ∈ memo.names) :
    name ∈ (client.step resolve memo).2.names ↔
      name ∈ memo.names ∨ name ∈ (client.step resolve memo).1.calls.map (·.1) := by
  have returnedBefore := known name
  unfold step
  split
  · exact (or_iff_left_of_imp returnedBefore).symm
  · next asked next stage =>
      split
      · next resolved hit =>
          have remembered := Memo.mem_names_of_find? hit
          simp only [returned, List.map_append, List.map_cons, List.map_nil, List.mem_append,
            List.mem_singleton]
          refine (or_iff_left_of_imp ?_).symm
          rintro (before | rfl)
          · exact returnedBefore before
          · exact remembered
      · exact (or_iff_left_of_imp returnedBefore).symm
  · exact (or_iff_left_of_imp returnedBefore).symm
  · next asked resolved next stage =>
      simp only [Memo.mem_names_insert, returned, List.map_append, List.map_cons, List.map_nil,
        List.mem_append, List.mem_singleton]
      tauto

/-- Every step of a client brings it nearer to its end. -/
theorem stepsLeft_step (sound : memo.Sound resolve) (follows : client.Follows resolve program) :
    (client.step resolve memo).1.stage.stepsLeft resolve ≤ client.stage.stepsLeft resolve - 1 := by
  unfold step
  split
  · next value stage => simp [stage, Stage.stepsLeft, Resolving.calls]
  · next name next stage =>
      split
      · next resolved hit =>
          rw [stage, returned, sound.find? hit]
          simp only [Stage.stepsLeft, Resolving.calls, List.length_cons]
          omega
      · rw [stage]
        simp only [Stage.stepsLeft, Resolving.calls, List.length_cons]
        omega
  · next name next stage =>
      rw [stage]
      simp only [Stage.stepsLeft]
      omega
  · next name resolved next stage =>
      rw [stage, returned, follows.found name resolved next stage]
      simp only [Stage.stepsLeft]
      omega

/-- A client without steps left has come to its end. -/
theorem Follows.ended (follows : client.Follows resolve program)
    (none : client.stage.stepsLeft resolve = 0) :
    client = ⟨.ready (.answer (program.eval resolve)), program.calls resolve⟩ := by
  obtain ⟨stage, returned⟩ := client
  obtain ⟨calls, value, -⟩ := follows
  match stage with
  | .missed name next => simp [Stage.stepsLeft] at none
  | .found name resolved next => simp [Stage.stepsLeft] at none
  | .ready (.ask name next) => simp [Stage.stepsLeft, Resolving.calls] at none
  | .ready (.answer last) =>
      obtain rfl : last = program.eval resolve := value
      rw [← calls]
      simp [Stage.rest, Resolving.calls]

theorem Follows.eq_of_value? (follows : client.Follows resolve program) {value : α}
    (ended : client.value? = some value) : value = program.eval resolve := by
  rw [← follows.value]
  unfold value? at ended
  split at ended
  · next last stage =>
      rw [stage]
      exact (Option.some.inj ended).symm
  · cases ended

/-- A call whose steps no other client interrupts is one question to the memo. -/
theorem step_uninterrupted {next : String → Resolving α} (client : Client α) (memo : Memo)
    (stage : client.stage = .ready (.ask name next)) :
    ∃ count ≤ 3, (fun (now : Client α × Memo) => now.1.step resolve now.2)^[count] (client, memo) =
      (client.returned name (consult resolve memo name).1 next, (consult resolve memo name).2) := by
  cases looked : memo.find? name with
  | some resolved => exact ⟨1, by omega, by simp [step, stage, looked, consult]⟩
  | none => exact ⟨3, Nat.le_refl 3, by simp [step, stage, looked, consult, returned]⟩

/-- Calls that have returned have the answers of resolution. -/
theorem Follows.answer (follows : client.Follows resolve program) {call : String × String}
    (mem : call ∈ client.calls) : call.2 = resolve call.1 := by
  apply answer_of_mem_calls program
  rw [← follows.calls]
  exact List.mem_append_left _ mem

end Client

/-! ## Steps of all clients -/

/-- Where replacing an element loses nothing, what some element has, the new one or an old one has. -/
theorem exists_mem_set_iff {β : Type} {elements : List β} {position : Nat} {old new : β}
    {has : β → Prop} (here : elements[position]? = some old) (keeps : has old → has new) :
    (∃ element ∈ elements.set position new, has element) ↔
      has new ∨ ∃ element ∈ elements, has element := by
  obtain ⟨inside, at_⟩ := List.getElem?_eq_some_iff.mp here
  constructor
  · rintro ⟨element, mem, holds⟩
    rcases List.mem_or_eq_of_mem_set mem with before | rfl
    · exact .inr ⟨element, before, holds⟩
    · exact .inl holds
  · rintro (holds | ⟨element, mem, holds⟩)
    · exact ⟨new, List.mem_set inside new, holds⟩
    · obtain ⟨other, there⟩ := List.mem_iff_getElem?.mp mem
      by_cases same : position = other
      · subst same
        obtain rfl : old = element := Option.some.inj (here.symm.trans there)
        exact ⟨new, List.mem_set inside new, keeps holds⟩
      · rw [← List.getElem?_set_ne same (a := new)] at there
        exact ⟨element, List.mem_of_getElem? there, holds⟩

namespace Shared

variable {programs : List (Resolving α)} {program : Resolving α} {state : Shared α}
  {position other : Nat} {client : Client α}

theorem step_of_none (missing : state.clients[position]? = none) :
    state.step resolve position = state := by
  rw [step, missing]

theorem memo_step (here : state.clients[position]? = some client) :
    (state.step resolve position).memo = (client.step resolve state.memo).2 := by
  rw [step, here]

theorem clients_step (here : state.clients[position]? = some client) :
    (state.step resolve position).clients =
      state.clients.set position (client.step resolve state.memo).1 := by
  rw [step, here]

/-- What holds of a memo and its clients at any time. -/
structure Consistent (resolve : String → String) (programs : List (Resolving α))
    (state : Shared α) : Prop where
  sound : state.memo.Sound resolve
  distinct : state.memo.names.Nodup
  /-- The memo remembers the names of the calls that have returned. -/
  remembered : ∀ name, name ∈ state.memo.names ↔
    ∃ client ∈ state.clients, name ∈ client.calls.map (·.1)
  length : state.clients.length = programs.length
  follows : ∀ (position : Nat) (program : Resolving α) (client : Client α),
    programs[position]? = some program → state.clients[position]? = some client →
      client.Follows resolve program

theorem Consistent.start (programs : List (Resolving α)) :
    Consistent resolve programs (start programs) := by
  refine ⟨Memo.sound_empty resolve, List.nodup_nil, ?_, List.length_map _, ?_⟩
  · simp [Shared.start, Memo.names, Memo.empty, Client.ofProgram]
  · intro position program client has here
    rw [Shared.start, List.getElem?_map, has] at here
    cases here
    exact .ofProgram program

theorem Consistent.exists_program (consistent : Consistent resolve programs state)
    (here : state.clients[position]? = some client) : ∃ program, programs[position]? = some program := by
  obtain ⟨inside, -⟩ := List.getElem?_eq_some_iff.mp here
  exact ⟨_, List.getElem?_eq_getElem (consistent.length ▸ inside)⟩

theorem Consistent.step (consistent : Consistent resolve programs state) (position : Nat) :
    Consistent resolve programs (state.step resolve position) := by
  cases here : state.clients[position]? with
  | none =>
      rw [step_of_none here]
      exact consistent
  | some client =>
      obtain ⟨program, has⟩ := consistent.exists_program here
      have follows := consistent.follows position program client has here
      have known : ∀ name ∈ client.calls.map (·.1), name ∈ state.memo.names := by
        intro name mem
        exact (consistent.remembered name).mpr ⟨client, List.mem_of_getElem? here, mem⟩
      refine ⟨?_, ?_, ?_, ?_, ?_⟩
      · rw [memo_step here]
        exact Client.sound_step consistent.sound follows
      · rw [memo_step here]
        exact Client.nodup_names_step consistent.distinct client
      · intro name
        have keeps : name ∈ client.calls.map (·.1) →
            name ∈ (client.step resolve state.memo).1.calls.map (·.1) := by
          intro mem
          exact List.map_subset _ (client.calls_subset_step state.memo) mem
        rw [memo_step here, clients_step here, Client.mem_names_step known, consistent.remembered,
          exists_mem_set_iff here keeps]
        exact or_comm
      · rw [clients_step here, List.length_set]
        exact consistent.length
      · intro other program client hasOther there
        rw [clients_step here] at there
        by_cases same : position = other
        · subst same
          rw [List.getElem?_set_self (List.getElem?_eq_some_iff.mp here).1] at there
          obtain rfl := Option.some.inj there
          obtain rfl := Option.some.inj (has.symm.trans hasOther)
          exact Client.follows_step consistent.sound follows
        · rw [List.getElem?_set_ne same] at there
          exact consistent.follows other program client hasOther there

theorem Consistent.run (consistent : Consistent resolve programs state) (schedule : List Nat) :
    Consistent resolve programs (state.run resolve schedule) := by
  induction schedule generalizing state with
  | nil => exact consistent
  | cons position schedule ih => exact ih (consistent.step position)

/-- Between calls the size of the memo is the number of distinct names asked for. -/
theorem Consistent.size_of_idle (consistent : Consistent resolve programs state)
    (idle : state.Idle) : state.memo.size = state.asked.dedup.length := by
  have same : ∀ name, name ∈ state.memo.names ↔ name ∈ state.asked.dedup := by
    intro name
    rw [consistent.remembered, List.mem_dedup, asked, List.mem_flatMap]
    refine exists_congr fun client => and_congr_right fun mem => ?_
    rw [Client.asked, idle client mem, Option.toList_none, List.append_nil]
  rw [Memo.size_eq_length_names]
  exact ((List.perm_ext_iff_of_nodup consistent.distinct (List.nodup_dedup _)).mpr same).length_eq

/-! ## Coming to an end -/

/-- A bound on the steps that the client in a position has left. -/
def stepsLeft (resolve : String → String) (state : Shared α) (position : Nat) : Nat :=
  (state.clients[position]?.map fun client => client.stage.stepsLeft resolve).getD 0

theorem stepsLeft_step (consistent : Consistent resolve programs state) (position other : Nat) :
    (state.step resolve other).stepsLeft resolve position ≤
      state.stepsLeft resolve position - if other = position then 1 else 0 := by
  cases here : state.clients[other]? with
  | none =>
      rw [step_of_none here]
      split
      · next same =>
          subst same
          simp [stepsLeft, here]
      · exact Nat.le_refl _
  | some client =>
      obtain ⟨program, has⟩ := consistent.exists_program here
      have follows := consistent.follows other program client has here
      unfold stepsLeft
      rw [clients_step here]
      split
      · next same =>
          subst same
          rw [List.getElem?_set_self (List.getElem?_eq_some_iff.mp here).1, here]
          exact Client.stepsLeft_step consistent.sound follows
      · next apart =>
          rw [List.getElem?_set_ne apart]
          exact Nat.le_refl _

theorem stepsLeft_run (consistent : Consistent resolve programs state) (schedule : List Nat)
    (position : Nat) : (state.run resolve schedule).stepsLeft resolve position ≤
      state.stepsLeft resolve position - schedule.count position := by
  induction schedule generalizing state with
  | nil => exact Nat.le_refl _
  | cons first schedule ih =>
      have later := ih (consistent.step first)
      have now := stepsLeft_step consistent position first
      rw [List.count_cons]
      simp only [beq_iff_eq]
      have split : (state.run resolve (first :: schedule)) =
        (state.step resolve first).run resolve schedule := rfl
      rw [split]
      omega

/-- **A client that is scheduled three times for each of its calls has come to the end of its program.** -/
theorem ended_of_le_count (has : programs[position]? = some program) {schedule : List Nat}
    (often : 3 * (program.calls resolve).length ≤ schedule.count position) :
    ((start programs).run resolve schedule).clients[position]? =
      some ⟨.ready (.answer (program.eval resolve)), program.calls resolve⟩ := by
  have initial : Consistent resolve programs (start programs) := .start programs
  have consistent := initial.run schedule
  have bound := stepsLeft_run initial schedule position
  have first : (start programs).stepsLeft resolve position = 3 * (program.calls resolve).length := by
    rw [stepsLeft, Shared.start, List.getElem?_map, has]
    rfl
  have inside : position < ((start programs).run resolve schedule).clients.length := by
    rw [consistent.length]
    exact (List.getElem?_eq_some_iff.mp has).1
  have here := List.getElem?_eq_getElem inside
  have follows := consistent.follows position program _ has here
  rw [here]
  refine congrArg some (follows.ended ?_)
  rw [stepsLeft, here] at bound
  simp only [Option.map_some, Option.getD_some] at bound
  omega

theorem mapM_eq_some_iff {β γ : Type} (f : β → Option γ) (elements : List β) (images : List γ) :
    elements.mapM f = some images ↔ elements.map f = images.map some := by
  induction elements generalizing images with
  | nil => cases images <;> simp
  | cons element elements ih =>
      cases images <;> simp [List.mapM_cons, Option.bind_eq_some_iff, ih]

/-- Clients that have come to their ends have the values of their programs. -/
theorem Consistent.eq_of_values? (consistent : Consistent resolve programs state) {values : List α}
    (ended : state.values? = some values) : values = programs.map (·.eval resolve) := by
  have found := (mapM_eq_some_iff _ _ _).mp ended
  apply List.ext_getElem?
  intro position
  have here := congrArg (·[position]?) found
  simp only [List.getElem?_map] at here ⊢
  cases at_ : state.clients[position]? with
  | none =>
      have outside : programs[position]? = none := by
        rw [List.getElem?_eq_none_iff] at at_ ⊢
        exact consistent.length ▸ at_
      rw [at_] at here
      rw [outside, Option.map_none]
      exact Option.map_eq_none_iff.mp here.symm
  | some client =>
      obtain ⟨program, has⟩ := consistent.exists_program at_
      have follows := consistent.follows position program client has at_
      rw [at_, Option.map_some] at here
      obtain ⟨value, there, same⟩ := Option.map_eq_some_iff.mp here.symm
      rw [there, has, Option.map_some, follows.eq_of_value? same.symm]

/-- Clients that are all scheduled often enough come to their ends. -/
theorem values?_of_le_count {schedule : List Nat}
    (often : ∀ (position : Nat) (program : Resolving α), programs[position]? = some program →
      3 * (program.calls resolve).length ≤ schedule.count position) :
    ((start programs).run resolve schedule).values? = some (programs.map (·.eval resolve)) := by
  have initial : Consistent resolve programs (start programs) := .start programs
  have consistent := initial.run schedule
  refine (mapM_eq_some_iff _ _ _).mpr (List.ext_getElem? fun position => ?_)
  simp only [List.getElem?_map]
  cases has : programs[position]? with
  | none =>
      have outside : ((start programs).run resolve schedule).clients[position]? = none := by
        rw [List.getElem?_eq_none_iff] at has ⊢
        exact consistent.length ▸ has
      rw [outside]
      rfl
  | some program =>
      rw [ended_of_le_count has (often position program has)]
      rfl

end Shared

/-- **A shared memo cannot be noticed.**  Whatever the clients ask and however their steps are interleaved,
every call that returns has the answer of the walk without a memo; between calls the memo remembers as many
names as have been asked for; and every client comes to its end within three steps for each of its calls,
having made the calls of its program and found the value of its program. -/
theorem shared_memo_unnoticed (registry : Registry) (programs : List (Resolving α))
    (schedule : List Nat) :
    let state := (Shared.start programs).run registry.resolve schedule
    (∀ client ∈ state.clients, ∀ call ∈ client.calls,
      call.2 = registry.walk registry.walkBound call.1) ∧
    (state.Idle → state.memo.size = state.asked.dedup.length) ∧
    ∀ position program, programs[position]? = some program →
      3 * (program.calls registry.resolve).length ≤ schedule.count position →
      state.clients[position]? = some
        ⟨.ready (.answer (program.eval registry.resolve)), program.calls registry.resolve⟩ := by
  intro state
  have initial : Shared.Consistent registry.resolve programs (Shared.start programs) :=
    .start programs
  have consistent : Shared.Consistent registry.resolve programs state := initial.run schedule
  refine ⟨?_, consistent.size_of_idle, fun position program has => Shared.ended_of_le_count has⟩
  intro client mem call returned
  obtain ⟨position, here⟩ := List.mem_iff_getElem?.mp mem
  obtain ⟨program, has⟩ := consistent.exists_program here
  exact (consistent.follows position program client has here).answer returned

/-- Flags that are stored as a base type. -/
def storedFlags : Registry :=
  Document.registry { Document.empty with
    typedefs := [⟨"Flags", "Bits"⟩]
    baseTypes := [⟨"Bits", "uint32_t"⟩] }

/-- A client that asks for two names, and one that asks for the first of them. -/
def flagClients : List (Resolving (List String)) :=
  [["Flags", "Bits"].mapM resolution, ["Flags"].mapM resolution]

/-- Both clients miss `Flags` before either of them remembers it. -/
def flagRace : List Nat := [0, 1, 0, 1, 1, 0, 0, 0, 0]

theorem shared_memo_in_flagRace :
    let state := (Shared.start flagClients).run storedFlags.resolve flagRace
    state.Idle ∧ state.asked = ["Flags", "Bits", "Flags"] ∧
    state.memo.size = state.asked.dedup.length ∧
    (∀ client ∈ state.clients, ∀ call ∈ client.calls,
      call.2 = storedFlags.walk storedFlags.walkBound call.1) ∧
    state.clients[1]?.map Client.calls = some [("Flags", "uint32_t")] := by
  intro state
  have idle : state.Idle := by decide +kernel
  obtain ⟨answers, size, ends⟩ := shared_memo_unnoticed storedFlags flagClients flagRace
  have ended := ends 1 (["Flags"].mapM resolution) rfl (by decide)
  refine ⟨idle, by decide +kernel, size idle, answers, ?_⟩
  rw [ended]
  decide +kernel

end ApiBindings.Resolving
