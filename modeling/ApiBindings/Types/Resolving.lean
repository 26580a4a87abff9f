/-!
# Computations that ask how names resolve

What is emitted for a registry depends on how its type names resolve, and the same name is asked for
many times.  A `Resolving α` is a computation of an `α` that may ask for the resolution of a name at any
point and goes on with the answer.

The computation does not say where answers come from.  `eval` takes them from a function.  `run` takes
them from a memo that remembers every answer: a name is looked up, and on a miss its answer is found and
stored.  `run_fst` states that the memo cannot be noticed as long as what it holds is right.
-/

namespace ApiBindings

set_option autoImplicit false

/-- A computation that asks for the resolution of names. -/
inductive Resolving (α : Type) where
  | answer (value : α)
  | ask (name : String) (next : String → Resolving α)

namespace Resolving

variable {α β γ : Type}

/-- Goes on with the value of a computation. -/
protected def bind : Resolving α → (α → Resolving β) → Resolving β
  | answer value, next => next value
  | ask name rest, next => ask name fun resolved => (rest resolved).bind next

instance : Monad Resolving where
  pure := answer
  bind := Resolving.bind

/-- Asks for one name. -/
def resolution (name : String) : Resolving String := ask name answer

theorem bind_answer (x : Resolving α) : x.bind answer = x := by
  induction x with
  | answer value => rfl
  | ask name next ih => simp only [Resolving.bind, ih]

theorem bind_assoc (x : Resolving α) (f : α → Resolving β) (g : β → Resolving γ) :
    (x.bind f).bind g = x.bind fun a => (f a).bind g := by
  induction x with
  | answer value => rfl
  | ask name next ih => simp only [Resolving.bind, ih]

instance : LawfulMonad Resolving :=
  LawfulMonad.mk' Resolving bind_answer (fun _ _ => rfl) bind_assoc

/-! ## Answers from a function -/

/-- The value of a computation whose questions are answered by `resolve`. -/
def eval (resolve : String → String) : Resolving α → α
  | answer value => value
  | ask name next => (next (resolve name)).eval resolve

theorem eval_pure (resolve : String → String) (value : α) :
    (pure value : Resolving α).eval resolve = value := rfl

theorem eval_bind (resolve : String → String) (x : Resolving α) (f : α → Resolving β) :
    (x >>= f).eval resolve = (f (x.eval resolve)).eval resolve := by
  induction x with
  | answer value => rfl
  | ask name next ih => exact ih _

theorem eval_mapM (resolve : String → String) (f : α → Resolving β) (inputs : List α) :
    (inputs.mapM f).eval resolve = inputs.map fun input => (f input).eval resolve := by
  induction inputs with
  | nil => rfl
  | cons input inputs ih =>
    rw [List.mapM_cons, eval_bind, eval_bind, ih]
    rfl

/-! ## Answers from a memo -/

/-- Names whose resolution is remembered, each once. -/
structure Memo where
  entries : List (String × String)
  deriving Repr, Inhabited

namespace Memo

/-- The memo of one that has asked for nothing. -/
def empty : Memo := ⟨[]⟩

/-- The remembered resolution of a name. -/
def find? (memo : Memo) (name : String) : Option String := memo.entries.lookup name

/-- Remembers a resolution, in place of any other of that name. -/
def insert (memo : Memo) (name resolved : String) : Memo :=
  ⟨(name, resolved) :: memo.entries.filter (·.1 != name)⟩

/-- The number of names whose resolution is remembered. -/
def size (memo : Memo) : Nat := memo.entries.length

/-- Everything remembered is right. -/
def Sound (resolve : String → String) (memo : Memo) : Prop :=
  ∀ entry ∈ memo.entries, entry.2 = resolve entry.1

theorem sound_empty (resolve : String → String) : Sound resolve empty := by
  simp [Sound, empty]

theorem Sound.insert {resolve : String → String} {memo : Memo} (h : Sound resolve memo)
    (name : String) : Sound resolve (memo.insert name (resolve name)) := by
  intro entry mem
  simp only [Memo.insert, List.mem_cons, List.mem_filter] at mem
  rcases mem with rfl | ⟨mem, _⟩
  · rfl
  · exact h entry mem

theorem Sound.find? {resolve : String → String} {memo : Memo} (h : Sound resolve memo)
    {name resolved : String} (hit : memo.find? name = some resolved) : resolved = resolve name := by
  obtain ⟨l₁, l₂, hl, _⟩ := List.lookup_eq_some_iff.1 hit
  exact h (name, resolved) (by rw [hl]; simp)

end Memo

/-- One question to the memo: its answer, and the memo that remembers it. -/
def consult (resolve : String → String) (memo : Memo) (name : String) : String × Memo :=
  match memo.find? name with
  | some resolved => (resolved, memo)
  | none => (resolve name, memo.insert name (resolve name))

/-- Runs a computation over a memo; `resolve` answers the names that the memo does not know. -/
def run (resolve : String → String) : Resolving α → Memo → α × Memo
  | answer value, memo => (value, memo)
  | ask name next, memo =>
    let (resolved, memo) := consult resolve memo name
    (next resolved).run resolve memo

theorem consult_fst {resolve : String → String} {memo : Memo} (h : memo.Sound resolve)
    (name : String) : (consult resolve memo name).1 = resolve name := by
  unfold consult
  split
  · next hit => exact h.find? hit
  · rfl

theorem consult_snd_sound {resolve : String → String} {memo : Memo} (h : memo.Sound resolve)
    (name : String) : (consult resolve memo name).2.Sound resolve := by
  unfold consult
  split
  · exact h
  · exact h.insert name

/-- The memo cannot be noticed. -/
theorem run_fst {resolve : String → String} (x : Resolving α) {memo : Memo}
    (h : memo.Sound resolve) : (x.run resolve memo).1 = x.eval resolve := by
  induction x generalizing memo with
  | answer value => rfl
  | ask name next ih =>
    show ((next (consult resolve memo name).1).run resolve (consult resolve memo name).2).1 = _
    rw [ih _ (consult_snd_sound h name), consult_fst h name]
    rfl

end Resolving

end ApiBindings
