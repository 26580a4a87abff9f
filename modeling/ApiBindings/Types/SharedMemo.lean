import ApiBindings.Types.Resolving

/-!
# Clients that share a memo

Computations may run at the same time over one memo.  A call, the question for one name, then takes steps
of its own: the name is looked up; on a miss its resolution is found without the memo; what was found is
remembered.  Looking up and remembering are indivisible, but other clients may take their steps in between.
Two clients may so miss the same name and both remember its resolution.

A schedule names the client of every step, in the order of the steps.  A schedule may name a client that has
come to its end, or that does not exist: nothing happens then.  Every interleaving of the clients' steps is
a schedule.
-/

namespace ApiBindings.Resolving

set_option autoImplicit false

variable {α : Type}

/-! ## Clients -/

/-- Where a client stands between two of its steps. -/
inductive Stage (α : Type) where
  /-- No call is in flight; what is left to do may begin with one. -/
  | ready (rest : Resolving α)
  /-- A name was looked up and not found. -/
  | missed (name : String) (next : String → Resolving α)
  /-- The resolution of a missed name is found, and is yet to be remembered. -/
  | found (name resolved : String) (next : String → Resolving α)

/-- A client of a memo. -/
structure Client (α : Type) where
  stage : Stage α
  /-- The calls that have returned, in their order, with their answers. -/
  calls : List (String × String)

namespace Client

/-- A client that has done nothing yet. -/
def ofProgram (program : Resolving α) : Client α := ⟨.ready program, []⟩

/-- The name of the call that is in flight. -/
def inFlight? (client : Client α) : Option String :=
  match client.stage with
  | .ready _ => none
  | .missed name _ => some name
  | .found name _ _ => some name

/-- The names that a client has asked for, in their order. -/
def asked (client : Client α) : List String :=
  client.calls.map (·.1) ++ client.inFlight?.toList

/-- The value of a client that has come to its end. -/
def value? (client : Client α) : Option α :=
  match client.stage with
  | .ready (.answer value) => some value
  | _ => none

/-- A call returns, and the client goes on with its answer. -/
def returned (client : Client α) (name resolved : String) (next : String → Resolving α) : Client α :=
  ⟨.ready (next resolved), client.calls ++ [(name, resolved)]⟩

/-- One step of a client over a memo. -/
def step (resolve : String → String) (client : Client α) (memo : Memo) : Client α × Memo :=
  match client.stage with
  | .ready (.answer _) => (client, memo)
  | .ready (.ask name next) =>
    match memo.find? name with
    | some resolved => (client.returned name resolved next, memo)
    | none => ({ client with stage := .missed name next }, memo)
  | .missed name next => ({ client with stage := .found name (resolve name) next }, memo)
  | .found name resolved next => (client.returned name resolved next, memo.insert name resolved)

end Client

/-! ## Interleavings -/

/-- A memo and its clients. -/
structure Shared (α : Type) where
  memo : Memo
  clients : List (Client α)

namespace Shared

/-- Clients of a memo that remembers nothing, before their first step. -/
def start (programs : List (Resolving α)) : Shared α := ⟨.empty, programs.map Client.ofProgram⟩

/-- One step of the client in a position. -/
def step (resolve : String → String) (state : Shared α) (position : Nat) : Shared α :=
  match state.clients[position]? with
  | none => state
  | some client =>
    let (client, memo) := client.step resolve state.memo
    ⟨memo, state.clients.set position client⟩

/-- The steps of a schedule, one after another. -/
def run (resolve : String → String) (schedule : List Nat) (state : Shared α) : Shared α :=
  schedule.foldl (step resolve) state

/-- No call is in flight. -/
def Idle (state : Shared α) : Prop := ∀ client ∈ state.clients, client.inFlight? = none

instance (state : Shared α) : Decidable state.Idle :=
  inferInstanceAs (Decidable (∀ client ∈ state.clients, client.inFlight? = none))

/-- The names that the clients have asked for, with repetitions. -/
def asked (state : Shared α) : List String := state.clients.flatMap Client.asked

/-- The values of the clients, once all of them have come to their ends. -/
def values? (state : Shared α) : Option (List α) := state.clients.mapM Client.value?

end Shared

end ApiBindings.Resolving
