/-!
# Text for a terminal

Messages emphasise the words that they are about by control sequences, which a terminal obeys instead of
showing them.  Where a message does not go to a terminal, `plain` takes all control sequences out again,
also those that a word brought along.

A control sequence starts with the escape character.  Most end with a letter or a sign, strings of
commands end with a bell, and other strings with the byte 0x9C, inside a character if need be.  Tabs and
line ends inside a sequence are shown, and so is the text behind them; the sequence goes on at the next
control character.

`plain_of_shown` states that text without control characters is kept, and `shown_of_mem_plain` that
nothing else is left.
-/

namespace ApiBindings.Text

set_option autoImplicit false

/-! ## Emphasis -/

/-- A text that a terminal shows with emphasis. -/
def emphasised (text : String) : String := "\x1b[1m" ++ text ++ "\x1b[0m"

/-! ## Control sequences -/

/-- How far a control sequence has been read. -/
inductive Sequence where
  /-- No sequence has begun, or the last one has ended. -/
  | outside
  | escape
  /-- Behind an escape and further signs that announce a final one. -/
  | announced
  /-- The parameters of a sequence that a bracket opens. -/
  | parameters
  /-- The head of a string for a device. -/
  | header
  | string
  /-- A string of commands for the terminal. -/
  | commands
  deriving DecidableEq, Repr

/-- Whether a character ends a string: its encoding has the byte 0x9C. -/
def endsString (c : Char) : Bool := (String.utf8EncodeChar c).contains 0x9C

/-- A control character that is shown, since it only places the text behind it. -/
def isSpacing (c : Char) : Bool := c == '\t' || c == '\n' || c == '\x0c' || c == '\r'

namespace Sequence

/-- How far a sequence is after one more character.  An escape starts anew, and the two characters that
cancel end every sequence. -/
def next (sequence : Sequence) (c : Char) : Sequence :=
  if c = '\x1b' then escape
  else if c = '\x18' || c = '\x1a' then outside
  else
    match sequence with
    | outside => outside
    | escape =>
      if ' ' ≤ c && c ≤ '/' then announced
      else if c = '[' then parameters
      else if c = ']' then commands
      else if c = 'P' then header
      else if c = 'X' || c = '^' || c = '_' then string
      else if '0' ≤ c && c ≤ '~' then outside
      else escape
    | announced => if '0' ≤ c && c ≤ '~' then outside else announced
    | parameters => if '@' ≤ c && c ≤ '~' then outside else parameters
    | header => if '@' ≤ c && c ≤ '~' then string else header
    | string => if endsString c then outside else string
    | commands => if c = '\x07' then outside else commands

/-- How far an interrupted sequence is after one more character of the text that interrupts it.  Only
characters beyond ASCII, and those that start or cancel a sequence, end the interrupted one. -/
def behind (sequence : Sequence) (c : Char) : Sequence :=
  if 0x80 ≤ c.toNat || c = '\x1b' || c = '\x18' || c = '\x1a' then outside.next c else sequence

/-- Whether a character is shown. -/
def shows (sequence : Sequence) (c : Char) : Bool :=
  match sequence with
  | outside => isSpacing c || (' ' ≤ c && c ≠ '\x7f')
  | escape | announced | parameters => isSpacing c
  | header | string | commands => false

theorem shows_outside_of_shows {sequence : Sequence} {c : Char} (h : sequence.shows c) :
    outside.shows c := by
  cases sequence <;> simp_all [shows]

end Sequence

/-! ## Plain text -/

/-- What is shown of a text when a sequence has been read so far; `showing` tells whether the character in
front was shown. -/
def plainFrom (sequence : Sequence) (showing : Bool) : List Char → List Char
  | [] => []
  | c :: rest =>
    if (if showing then .outside else sequence).shows c then
      c :: plainFrom (if showing then sequence.behind c else sequence.next c) true rest
    else plainFrom (if showing then sequence.behind c else sequence.next c) false rest

/-- A text without control sequences and control characters. -/
def plain (text : String) : String := String.ofList (plainFrom .outside false text.toList)

theorem plainFrom_of_shown {sequence : Sequence} {text : List Char}
    (h : ∀ c ∈ text, Sequence.outside.shows c) : plainFrom sequence true text = text := by
  induction text generalizing sequence with
  | nil => rfl
  | cons c rest ih =>
    rw [plainFrom, if_pos (by simpa using h c (by simp)), ih fun d hd => h d (by simp [hd])]

/-- Text of shown characters is plain already. -/
theorem plain_of_shown {text : String} (h : ∀ c ∈ text.toList, Sequence.outside.shows c) :
    plain text = text := by
  have kept : plainFrom .outside false text.toList = text.toList := by
    cases hc : text.toList with
    | nil => rfl
    | cons c rest =>
      rw [hc] at h
      rw [plainFrom, if_pos (by simpa using h c (by simp)),
        plainFrom_of_shown fun d hd => h d (by simp [hd])]
  rw [plain, kept, String.ofList_toList]

theorem shown_of_mem_plainFrom {sequence : Sequence} {showing : Bool} {text : List Char} {c : Char}
    (h : c ∈ plainFrom sequence showing text) : Sequence.outside.shows c := by
  induction text generalizing sequence showing with
  | nil => simp [plainFrom] at h
  | cons d rest ih =>
    by_cases shown : (if showing then Sequence.outside else sequence).shows d
    · rw [plainFrom, if_pos shown] at h
      rcases List.mem_cons.1 h with rfl | h
      · exact Sequence.shows_outside_of_shows shown
      · exact ih h
    · rw [plainFrom, if_neg shown] at h
      exact ih h

/-- Plain text has shown characters only. -/
theorem shown_of_mem_plain {text : String} {c : Char} (h : c ∈ (plain text).toList) :
    Sequence.outside.shows c := by
  rw [plain, String.toList_ofList] at h
  exact shown_of_mem_plainFrom h

end ApiBindings.Text
