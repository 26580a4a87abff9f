import ApiBindings.Document.Fault

/-!
# Readers

A reader takes a value off the front of a text, or stops at a fault.  What it leaves is never longer
than what it was given; the bound is part of the result, so every loop over readers ends because its
text gets shorter.  `Reader.Reads` is the relation between a text, the value taken and the rest.  The lemmas
beside it say what each step of a reader reads, so that a reader is run through its steps by rewriting.
-/

namespace ApiBindings.Document

set_option autoImplicit false

/-! ## Readers in sequence -/

/-- A value taken off the front of a text, and what is left. -/
structure Taken (α : Type) (text : List Char) where
  value : α
  rest : List Char
  le : rest.length ≤ text.length

/-- The same value, taken off a longer text. -/
def Taken.weaken {α : Type} {short long : List Char} (h : short.length ≤ long.length)
    (taken : Taken α short) : Taken α long :=
  ⟨taken.value, taken.rest, Nat.le_trans taken.le h⟩

/-- Takes a value off the front of a text. -/
def Reader (α : Type) : Type := (text : List Char) → Except Fault (Taken α text)

namespace Reader

variable {α β : Type}

/-- Takes nothing. -/
protected def pure (value : α) : Reader α := fun text => .ok ⟨value, text, Nat.le_refl _⟩

/-- Runs one reader, then another on what is left. -/
protected def bind (first : Reader α) (next : α → Reader β) : Reader β := fun text =>
  match first text with
  | .error fault => .error fault
  | .ok taken => (next taken.value taken.rest).map (·.weaken taken.le)

instance : Monad Reader where
  pure := Reader.pure
  bind := Reader.bind

/-- Stops at a fault with a number of bytes behind it. -/
def failAt (cause : Cause) (bytesBehind : Nat) : Reader α := fun _ => .error ⟨cause, bytesBehind⟩

/-- Stops at a fault in front of what is left. -/
def fail (cause : Cause) : Reader α := fun text => .error ⟨cause, byteLength text⟩

/-- Stops at a fault one byte into what is left, or at the end of the text. -/
def failNext (cause : Cause) : Reader α := fun text => .error ⟨cause, byteLength text - 1⟩

/-- What is left, without taking anything. -/
def look : Reader (List Char) := fun text => .ok ⟨text, text, Nat.le_refl _⟩

/-- Takes a number of characters. -/
def skip (n : Nat) : Reader Unit := fun text =>
  .ok ⟨(), text.drop n, by simp only [List.length_drop]; omega⟩

/-! ## Blanks between tokens -/

/-- The blanks that may stand between the tokens of a document. -/
def isSpace (c : Char) : Bool := c = ' ' || c = '\t' || c = '\n' || c = '\r'

/-- Takes the blanks in front. -/
def spaces : Reader Unit := fun text =>
  .ok ⟨(), text.dropWhile isSpace, (List.dropWhile_sublist _).length_le⟩

/-- The first character behind the blanks, which are taken; the character is not. -/
def peek : Reader (Option Char) := do
  spaces
  return (← look).head?

/-! ## What a reader reads -/

/-- The reader takes the value off the text and leaves the rest. -/
def Reads (reader : Reader α) (text : List Char) (value : α) (rest : List Char) : Prop :=
  ∃ le, reader text = .ok ⟨value, rest, le⟩

theorem reads_pure (value : α) (text : List Char) : Reads (pure value) text value text :=
  ⟨Nat.le_refl _, rfl⟩

theorem Reads.bind {first : Reader α} {next : α → Reader β} {text middle rest : List Char}
    {value : α} {result : β} (h₁ : Reads first text value middle)
    (h₂ : Reads (next value) middle result rest) : Reads (first >>= next) text result rest := by
  obtain ⟨le₁, h₁⟩ := h₁
  obtain ⟨le₂, h₂⟩ := h₂
  refine ⟨Nat.le_trans le₂ le₁, ?_⟩
  show Reader.bind first next text = _
  simp only [Reader.bind, h₁, h₂, Except.map, Taken.weaken]

/-- A reader reads one value and leaves one rest. -/
theorem Reads.unique {reader : Reader α} {text rest₁ rest₂ : List Char} {value₁ value₂ : α}
    (h₁ : Reads reader text value₁ rest₁) (h₂ : Reads reader text value₂ rest₂) :
    value₁ = value₂ ∧ rest₁ = rest₂ := by
  obtain ⟨le₁, h₁⟩ := h₁
  obtain ⟨le₂, h₂⟩ := h₂
  have h := h₁.symm.trans h₂
  simp only [Except.ok.injEq, Taken.mk.injEq] at h
  exact h

/-- One reading of a text says what every reading of it is. -/
theorem Reads.iff_eq {reader : Reader α} {text rest rest' : List Char} {value value' : α}
    (h : Reads reader text value rest) :
    Reads reader text value' rest' ↔ value' = value ∧ rest' = rest := by
  constructor
  · intro h'
    exact h'.unique h
  · rintro ⟨rfl, rfl⟩
    exact h

/-! ## What the steps of a reader read -/

section Steps

variable {text rest : List Char}

theorem reads_of_eq_ok {reader : Reader α} {taken : Taken α text} (h : reader text = .ok taken) :
    Reads reader text taken.value taken.rest := ⟨taken.le, h⟩

/-- A reading of a text is one of any longer text that it is taken off. -/
theorem exists_map_weaken_eq_ok_iff {short long : List Char} {h : short.length ≤ long.length}
    {outcome : Except Fault (Taken α short)} {value : α} :
    (∃ le, outcome.map (·.weaken h) = .ok ⟨value, rest, le⟩) ↔
      ∃ le, outcome = .ok ⟨value, rest, le⟩ := by
  constructor
  · rintro ⟨_, mapped⟩
    cases outcome with
    | error fault => cases mapped
    | ok taken =>
      cases mapped
      exact ⟨taken.le, rfl⟩
  · rintro ⟨le, rfl⟩
    exact ⟨Nat.le_trans le h, rfl⟩

@[simp]
theorem reads_pure_iff {value result : α} :
    Reads (pure value) text result rest ↔ result = value ∧ rest = text := by
  constructor
  · intro h
    obtain ⟨rfl, rfl⟩ := (reads_pure value text).unique h
    exact ⟨rfl, rfl⟩
  · rintro ⟨rfl, rfl⟩
    exact reads_pure _ _

theorem reads_bind_iff {first : Reader α} {next : α → Reader β} {result : β} :
    Reads (first >>= next) text result rest ↔
      ∃ value middle, Reads first text value middle ∧ Reads (next value) middle result rest := by
  constructor
  · rintro ⟨le, h⟩
    change Reader.bind first next text = _ at h
    rw [Reader.bind] at h
    cases outcome : first text with
    | error fault => simp [outcome] at h
    | ok taken =>
      rw [outcome] at h
      cases later : next taken.value taken.rest with
      | error fault => simp [later, Except.map] at h
      | ok last =>
        simp only [later, Except.map, Taken.weaken, Except.ok.injEq, Taken.mk.injEq] at h
        obtain ⟨rfl, rfl⟩ := h
        exact ⟨_, _, reads_of_eq_ok outcome, reads_of_eq_ok later⟩
  · rintro ⟨value, middle, h₁, h₂⟩
    exact h₁.bind h₂

/-- Two readers in sequence, one written out after the other, on the end of a longer text. -/
theorem map_bind_eq (first : Reader α) (next : α → Reader β) {short long : List Char}
    (h : short.length ≤ long.length) :
    ((first >>= next) short).map (·.weaken h) =
      match first short with
      | .error fault => .error fault
      | .ok taken =>
        (next taken.value taken.rest).map (·.weaken (Nat.le_trans taken.le h)) := by
  change (Reader.bind first next short).map _ = _
  rw [Reader.bind]
  cases first short with
  | error fault => rfl
  | ok taken => cases outcome : next taken.value taken.rest <;> simp only [outcome] <;> rfl

@[simp]
theorem not_reads_failAt {cause : Cause} {bytesBehind : Nat} {value : α} :
    ¬ Reads (failAt cause bytesBehind) text value rest := nofun

@[simp]
theorem not_reads_fail {cause : Cause} {value : α} : ¬ Reads (fail cause) text value rest := nofun

@[simp]
theorem not_reads_failNext {cause : Cause} {value : α} :
    ¬ Reads (failNext cause) text value rest := nofun

theorem reads_look : Reads look text text text := ⟨Nat.le_refl _, rfl⟩

theorem reads_skip (n : Nat) : Reads (skip n) text () (text.drop n) :=
  ⟨by simp only [List.length_drop]; omega, rfl⟩

theorem reads_peek :
    Reads peek text (text.dropWhile isSpace).head? (text.dropWhile isSpace) := by
  have taken : Reads spaces text () (text.dropWhile isSpace) := ⟨_, rfl⟩
  exact taken.bind (reads_look.bind (reads_pure _ _))

/-- Behind a reader that surely reads, the next one decides. -/
theorem Reads.bind_iff {first : Reader α} {next : α → Reader β} {middle : List Char} {value : α}
    {result : β} (h : Reads first text value middle) :
    Reads (first >>= next) text result rest ↔ Reads (next value) middle result rest := by
  constructor
  · intro read
    obtain ⟨_, _, taken, read⟩ := reads_bind_iff.1 read
    obtain ⟨rfl, rfl⟩ := h.unique taken
    exact read
  · exact h.bind

@[simp]
theorem reads_look_bind_iff {next : List Char → Reader β} {result : β} :
    Reads (look >>= next) text result rest ↔ Reads (next text) text result rest :=
  reads_look.bind_iff

@[simp]
theorem reads_skip_bind_iff {n : Nat} {next : Unit → Reader β} {result : β} :
    Reads (skip n >>= next) text result rest ↔ Reads (next ()) (text.drop n) result rest :=
  (reads_skip n).bind_iff

@[simp]
theorem reads_peek_bind_iff {next : Option Char → Reader β} {result : β} :
    Reads (peek >>= next) text result rest ↔
      Reads (next (text.dropWhile isSpace).head?) (text.dropWhile isSpace) result rest :=
  reads_peek.bind_iff

end Steps

end Reader

end ApiBindings.Document
