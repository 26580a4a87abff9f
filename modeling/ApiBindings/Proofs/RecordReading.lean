import Mathlib.Data.List.Nodup
import ApiBindings.Proofs.ValueReading

/-!
# Readers of records follow their forms

A record is read field by field into a draft, from an object or from an array.  Both loops do the same
to the draft: each value sets the part with its key, which must not have been set before, and at the end
every part that was not set must have a default.  `Completes` says this of all values at once, without a
draft for each step, and `completes_cons_iff` takes one step off; the two loops are then inductions over
what is written.
-/

namespace ApiBindings.Document

set_option autoImplicit false

variable {ρ : Type}

/-! ## Parts of a record -/

/-- The parts of a record have different keys, and two records with the same parts are equal. -/
structure Determine (parts : List (Part ρ)) : Prop where
  distinct : (parts.map (·.key)).Nodup
  ext : ∀ record record', (∀ part ∈ parts, part.get record = part.get record') → record = record'

/-- A record is the draft with one part set to what a value stands for. -/
def Part.Sets (parts : List (Part ρ)) (part : Part ρ) (draft record : ρ) (json : Json) : Prop :=
  part.form (part.get record) json ∧
    ∀ other ∈ parts, other.key ≠ part.key → other.get record = other.get draft

/-- A field of a format reads a part of the record. -/
structure Field.Fills (parts : List (Part ρ)) (field : Field ρ) (part : Part ρ) : Prop where
  key_eq : field.key = part.key
  required_eq : field.required = part.default?.isNone
  follows : ∀ draft, Follows (field.read draft) (part.Sets parts draft)
  /-- The part can take its value from any record. -/
  update : ∀ draft record, ∃ draft', part.get draft' = part.get record ∧
    ∀ other ∈ parts, other.key ≠ part.key → other.get draft' = other.get draft

/-- A format reads the parts of a record, in their order, and starts with their defaults. -/
structure FormatOf (parts : List (Part ρ)) (format : RecordFormat ρ) : Prop extends
    Determine parts where
  fills : List.Forall₂ (Field.Fills parts) format.fields parts
  blank : ∀ part ∈ parts, ∀ default, part.default? = some default →
    part.get format.blank = default

section Determine

variable {parts : List (Part ρ)}

theorem Determine.eq_of_key_eq (determine : Determine parts) {part other : Part ρ}
    (mem : part ∈ parts) (mem' : other ∈ parts) (same : part.key = other.key) : part = other :=
  List.inj_on_of_nodup_map determine.distinct mem mem' same

/-- A field that stores what a reader reads fills the part, if storing a value leaves the other parts as
they are. -/
theorem Determine.fills_of {α : Type} (determine : Determine parts) {key : String} {required : Bool}
    {reader : Reader α} {store : ρ → α → ρ} {get : ρ → α} {form : Form α} {default? : Option α}
    (mem : ⟨key, α, get, form, default?⟩ ∈ parts) (required_eq : required = default?.isNone)
    (follows : Follows reader form) (get_store : ∀ draft value, get (store draft value) = value)
    (get_store_other : ∀ other ∈ parts, other.key ≠ key → ∀ draft value,
      other.get (store draft value) = other.get draft) :
    (Field.of key required reader store).Fills parts ⟨key, α, get, form, default?⟩ where
  key_eq := rfl
  required_eq := required_eq
  follows draft := by
    intro json text before rest left record written blank closed
    simp only [Field.of, Part.Sets, Reader.reads_bind_iff, follows written blank closed,
      Reader.reads_pure_iff]
    constructor
    · rintro ⟨value, _, ⟨rfl, meant⟩, rfl, rfl⟩
      refine ⟨rfl, ?_, fun other mem apart => get_store_other other mem apart _ _⟩
      rwa [get_store]
    · rintro ⟨rfl, meant, others⟩
      refine ⟨get record, _, ⟨rfl, meant⟩, determine.ext _ _ fun other mem' => ?_, rfl⟩
      by_cases same : other.key = key
      · rw [determine.eq_of_key_eq mem' mem same]
        exact (get_store _ _).symm
      · rw [others other mem' same, get_store_other other mem' same]
  update draft record :=
    ⟨store draft (get record), get_store _ _, fun other mem apart =>
      get_store_other other mem apart _ _⟩

end Determine

/-! ## All values at once -/

/-- Values with their keys complete a draft to a record.  The parts with the keys of `seen` have been set
before. -/
structure Completes (parts : List (Part ρ)) (seen : List String) (draft : ρ)
    (members : List (String × Json)) (record : ρ) : Prop where
  distinct : (members.map (·.1)).Nodup
  fresh : ∀ member ∈ members, member.1 ∉ seen
  written : ∀ member ∈ members,
    ∃ part ∈ parts, part.key = member.1 ∧ part.form (part.get record) member.2
  kept : ∀ part ∈ parts, part.key ∉ members.map (·.1) → part.get record = part.get draft
  required : ∀ part ∈ parts, part.default? = none →
    part.key ∈ members.map (·.1) ∨ part.key ∈ seen

section Completes

variable {parts : List (Part ρ)} {seen : List String} {draft record : ρ}

theorem completes_nil_iff (determine : Determine parts) :
    Completes parts seen draft [] record ↔
      record = draft ∧ ∀ part ∈ parts, part.default? = none → part.key ∈ seen := by
  constructor
  · intro completes
    refine ⟨determine.ext _ _ fun part mem => completes.kept part mem List.not_mem_nil, ?_⟩
    intro part mem required
    simpa using completes.required part mem required
  · rintro ⟨rfl, required⟩
    exact ⟨List.nodup_nil, nofun, nofun, fun _ _ _ => rfl, fun part mem none =>
      .inr (required part mem none)⟩

/-- **One step of completing a record.**  The first value sets the part with its key in the draft, and the
other values complete what results. -/
theorem completes_cons_iff (determine : Determine parts)
    (update : ∀ part ∈ parts, ∀ draft record, ∃ draft', part.get draft' = part.get record ∧
      ∀ other ∈ parts, other.key ≠ part.key → other.get draft' = other.get draft)
    {key : String} {json : Json} {members : List (String × Json)} :
    Completes parts seen draft ((key, json) :: members) record ↔
      key ∉ seen ∧ ∃ part ∈ parts, part.key = key ∧ ∃ draft', part.Sets parts draft draft' json ∧
        Completes parts (key :: seen) draft' members record := by
  constructor
  · intro completes
    obtain ⟨newKey, distinct⟩ := List.nodup_cons.1 completes.distinct
    obtain ⟨part, mem, rfl, meant⟩ := completes.written _ List.mem_cons_self
    -- The first value alone says what its part is, so the part may be taken from the record it leads to.
    obtain ⟨draft', same, others⟩ := update part mem draft record
    refine ⟨completes.fresh _ List.mem_cons_self, part, mem, rfl, draft', ⟨by rwa [same], others⟩, ?_⟩
    refine ⟨distinct, ?_, ?_, ?_, ?_⟩
    · intro member mem'
      rw [List.mem_cons, not_or]
      refine ⟨fun again => newKey ?_, completes.fresh _ (List.mem_cons_of_mem _ mem')⟩
      exact List.mem_map.2 ⟨member, mem', again⟩
    · exact fun member mem' => completes.written _ (List.mem_cons_of_mem _ mem')
    · intro other mem' unwritten
      by_cases here : other.key = part.key
      · rw [determine.eq_of_key_eq mem' mem here, same]
      · rw [others other mem' here]
        refine completes.kept other mem' ?_
        rw [List.map_cons, List.mem_cons, not_or]
        exact ⟨here, unwritten⟩
    · intro other mem' none
      have := completes.required other mem' none
      rw [List.map_cons, List.mem_cons] at this
      rw [List.mem_cons]
      tauto
  · rintro ⟨unseen, part, mem, rfl, draft', ⟨meant, others⟩, completes⟩
    -- Its key is no longer fresh, so no later value sets the part again.
    have newKey : part.key ∉ members.map (·.1) := by
      intro again
      obtain ⟨member, mem', same⟩ := List.mem_map.1 again
      exact completes.fresh member mem' (same ▸ List.mem_cons_self)
    refine ⟨List.nodup_cons.2 ⟨newKey, completes.distinct⟩, ?_, ?_, ?_, ?_⟩
    · rw [List.forall_mem_cons]
      exact ⟨unseen, fun member mem' seenBefore =>
        completes.fresh member mem' (List.mem_cons_of_mem _ seenBefore)⟩
    · rw [List.forall_mem_cons]
      exact ⟨⟨part, mem, rfl, by rwa [completes.kept part mem newKey]⟩, completes.written⟩
    · intro other mem' unwritten
      rw [List.map_cons, List.mem_cons, not_or] at unwritten
      rw [completes.kept other mem' unwritten.2, others other mem' unwritten.1]
    · intro other mem' none
      have := completes.required other mem' none
      rw [List.mem_cons] at this
      rw [List.map_cons, List.mem_cons]
      tauto

end Completes

/-! ## Fields and parts -/

section Forall₂

variable {α β : Type*} {R : α → β → Prop} {as : List α} {bs : List β} {a : α}

theorem getElem?_of_forall₂ (all : List.Forall₂ R as bs) {index : Nat} (found : as[index]? = some a) :
    ∃ b, bs[index]? = some b ∧ R a b := by
  induction all generalizing index with
  | nil => cases found
  | cons head _ ih =>
    cases index with
    | zero =>
      cases found
      exact ⟨_, rfl, head⟩
    | succ index => exact ih found

theorem exists_of_forall₂ (all : List.Forall₂ R as bs) (mem : a ∈ as) : ∃ b ∈ bs, R a b := by
  obtain ⟨index, found⟩ := List.mem_iff_getElem?.1 mem
  obtain ⟨b, found', holds⟩ := getElem?_of_forall₂ all found
  exact ⟨b, List.mem_of_getElem? found', holds⟩

end Forall₂

namespace FormatOf

variable {parts : List (Part ρ)} {format : RecordFormat ρ} {record : ρ}
  {members : List (String × Json)}

/-- What completes the record of defaults is what gives a record its fields. -/
theorem completes_blank_iff (isFormat : FormatOf parts format) :
    Completes parts [] format.blank members record ↔ Assigns parts record members := by
  constructor
  · intro completes
    refine ⟨completes.distinct, completes.written, fun part mem unwritten => ?_⟩
    rw [completes.kept part mem unwritten]
    cases default : part.default? with
    | none => simpa [unwritten] using completes.required part mem default
    | some value => rw [isFormat.blank part mem value default]
  · intro assigns
    refine ⟨assigns.distinct, fun _ _ => List.not_mem_nil, assigns.written, ?_, ?_⟩
    · intro part mem unwritten
      exact (isFormat.blank part mem _ (assigns.leftOut part mem unwritten)).symm
    · intro part mem required
      by_contra unwritten
      rw [List.mem_nil_iff, or_false] at unwritten
      cases required.symm.trans (assigns.leftOut part mem unwritten)

theorem exists_part (isFormat : FormatOf parts format) {field : Field ρ}
    (mem : field ∈ format.fields) : ∃ part ∈ parts, field.Fills parts part :=
  exists_of_forall₂ isFormat.fills mem

theorem exists_field (isFormat : FormatOf parts format) {part : Part ρ} (mem : part ∈ parts) :
    ∃ field ∈ format.fields, field.Fills parts part :=
  exists_of_forall₂ isFormat.fills.flip mem

theorem update (isFormat : FormatOf parts format) :
    ∀ part ∈ parts, ∀ draft record, ∃ draft', part.get draft' = part.get record ∧
      ∀ other ∈ parts, other.key ≠ part.key → other.get draft' = other.get draft := by
  intro part mem
  obtain ⟨field, -, fills⟩ := isFormat.exists_field mem
  exact fills.update

theorem missing?_eq_none_iff (isFormat : FormatOf parts format) {seen : List String} :
    Reader.missing? format seen = none ↔
      ∀ part ∈ parts, part.default? = none → part.key ∈ seen := by
  simp only [Reader.missing?, Option.map_eq_none_iff, List.find?_eq_none, Bool.and_eq_true,
    Bool.not_eq_true', List.contains_eq_mem, decide_eq_false_iff_not, not_and, not_not]
  constructor
  · intro all part mem none
    obtain ⟨field, mem', fills⟩ := isFormat.exists_field mem
    rw [← fills.key_eq]
    exact all field mem' (by rw [fills.required_eq, none]; rfl)
  · intro all field mem required
    obtain ⟨part, mem', fills⟩ := isFormat.exists_part mem
    rw [fills.key_eq]
    exact all part mem' (by rwa [fills.required_eq, Option.isNone_iff_eq_none] at required)

theorem find?_eq_none_iff (isFormat : FormatOf parts format) {key : String} :
    format.fields.find? (·.key == key) = none ↔ ∀ part ∈ parts, part.key ≠ key := by
  simp only [List.find?_eq_none, beq_iff_eq]
  constructor
  · intro all part mem
    obtain ⟨field, mem', fills⟩ := isFormat.exists_field mem
    exact fills.key_eq ▸ all field mem'
  · intro all field mem
    obtain ⟨part, mem', fills⟩ := isFormat.exists_part mem
    exact fills.key_eq ▸ all part mem'

theorem exists_part_of_find? (isFormat : FormatOf parts format) {key : String} {field : Field ρ}
    (found : format.fields.find? (·.key == key) = some field) :
    ∃ part ∈ parts, part.key = key ∧ field.Fills parts part := by
  obtain ⟨part, mem, fills⟩ := isFormat.exists_part (List.mem_of_find?_eq_some found)
  have same : field.key = key := by simpa using List.find?_some found
  exact ⟨part, mem, fills.key_eq ▸ same, fills⟩

end FormatOf

namespace Reader

variable {parts : List (Part ρ)} {format : RecordFormat ρ} {seen : List String}
  {draft record : ρ} {rest left text : List Char}

/-! ## Objects -/

theorem nextKey_close {isFirst : Bool} {gap : List Char} (blank : Blanks gap) :
    (gap ++ '\x7d' :: rest).dropWhile isSpace = '\x7d' :: rest ∧
      nextKey isFirst ('\x7d' :: rest) = .ok none := by
  rw [dropWhile_blanks blank]
  exact ⟨rfl, rfl⟩

/-- Behind a separator stands the next key. -/
theorem nextKey_separator {isFirst : Bool} {front : List Char} (separator : Separator isFirst front) :
    ∃ shorter, nextKey isFirst ((front ++ '"' :: rest).dropWhile isSpace) = .ok (some shorter) ∧
      shorter.rest = rest := by
  cases separator with
  | first blank =>
    rw [dropWhile_blanks blank]
    exact ⟨_, rfl, rfl⟩
  | @later gap next blank blank' =>
    have front : (next ++ '"' :: rest).dropWhile isSpace = '"' :: rest := by
      rw [dropWhile_blanks blank']
      rfl
    rw [List.append_assoc, List.cons_append, dropWhile_blanks blank,
      List.dropWhile_cons_of_neg (by decide), nextKey, if_neg (by decide), if_neg (by decide),
      if_pos rfl]
    split
    · next ended => cases front.symm.trans ended
    · next same =>
      cases front.symm.trans same
      rw [if_pos rfl]
      exact ⟨_, rfl, rfl⟩

/-- A member is read behind the opening quote of its key. -/
theorem reads_member_iff (isFormat : FormatOf parts format) {key key' : String} {json : Json}
    {keyText gap next : List Char} (keyWritten : TextWrittenAs key.toList keyText) (blank : Blanks gap)
    (blank' : Blanks next) (written : json.WrittenAs text) (closed : Closed rest) :
    Reads (member format seen draft) (keyText ++ (gap ++ ':' :: (next ++ (text ++ rest))))
        (key', record) left ↔
      (left = rest ∧ key' = key) ∧ key ∉ seen ∧
        ∃ part ∈ parts, part.key = key ∧ part.Sets parts draft record json := by
  rw [member, (reads_text keyWritten).bind_iff]
  cases found : format.fields.find? (·.key == key) with
  | none =>
    refine iff_of_false not_reads_refuseRecord ?_
    rintro ⟨-, -, part, mem, same, -⟩
    exact isFormat.find?_eq_none_iff.1 found part mem same
  | some field =>
    obtain ⟨part, mem, same, fills⟩ := isFormat.exists_part_of_find? found
    dsimp only
    split
    · next again =>
      refine iff_of_false not_reads_refuseRecord ?_
      rintro ⟨-, unseen, -⟩
      exact unseen (by simpa using again)
    · next unseen =>
      rw [(reads_colon blank).bind_iff, reads_bind_iff]
      simp only [fills.follows draft written blank' closed, reads_pure_iff, Prod.mk.injEq]
      constructor
      · rintro ⟨_, _, ⟨rfl, sets⟩, ⟨rfl, rfl⟩, rfl⟩
        exact ⟨⟨rfl, rfl⟩, by simpa using unseen, part, mem, same, sets⟩
      · rintro ⟨⟨rfl, rfl⟩, -, other, mem', same', sets⟩
        obtain rfl := isFormat.eq_of_key_eq mem mem' (same.trans same'.symm)
        exact ⟨_, _, ⟨rfl, sets⟩, ⟨rfl, rfl⟩, rfl⟩

theorem closed_of_membersWrittenAs {members : List (String × Json)}
    (written : MembersWrittenAs false members text) : Closed (text ++ rest) := by
  cases written with
  | close blank =>
    rw [List.append_assoc]
    exact closed_of_token blank (by decide)
  | member separator =>
    rw [List.append_assoc]
    exact closed_of_separator separator

/-- **The members of an object complete the draft, or the object is refused.** -/
theorem reads_members_iff (isFormat : FormatOf parts format) {isFirst : Bool}
    {written : List (String × Json)} (writtenAs : MembersWrittenAs isFirst written text) :
    Reads (members format isFirst seen draft) (text ++ rest) record left ↔
      left = rest ∧ Completes parts seen draft written record := by
  induction written generalizing isFirst seen draft text with
  | nil =>
    cases writtenAs with
    | close blank =>
      rw [List.append_assoc, List.singleton_append]
      obtain ⟨front, ended⟩ := @nextKey_close rest isFirst _ blank
      rw [reads_members_end (by rw [front, ended]), front, isFormat.missing?_eq_none_iff,
        completes_nil_iff isFormat.toDetermine]
      simp only [List.drop_one, List.tail_cons]
      tauto
  | cons entry written ih =>
    cases writtenAs with
    | member separator keyWritten blank blank' valueWritten more =>
      simp only [List.append_assoc, List.cons_append]
      obtain ⟨shorter, found, front⟩ := nextKey_separator separator
      rw [reads_members_next found, front, completes_cons_iff isFormat.toDetermine isFormat.update]
      simp only [reads_member_iff isFormat keyWritten blank blank' valueWritten
        (closed_of_membersWrittenAs more)]
      constructor
      · rintro ⟨_, draft', _, ⟨⟨rfl, rfl⟩, unseen, part, mem, same, sets⟩, read⟩
        obtain ⟨rfl, completes⟩ := (ih more).1 read
        exact ⟨rfl, unseen, part, mem, same, draft', sets, completes⟩
      · rintro ⟨rfl, unseen, part, mem, same, draft', sets, completes⟩
        exact ⟨_, draft', _, ⟨⟨rfl, rfl⟩, unseen, part, mem, same, sets⟩, (ih more).2 ⟨rfl, completes⟩⟩

/-! ## Arrays -/

theorem reads_hasElement_close {isFirst : Bool} {gap : List Char} (blank : Blanks gap) :
    Reads (hasElement isFirst) (gap ++ ']' :: rest) false (']' :: rest) := by
  rw [hasElement, reads_peek_token_iff blank (by decide)]
  cases isFirst with
  | true => exact reads_pure _ _
  | false => exact ⟨Nat.le_refl _, rfl⟩

theorem reads_separator {shorter : Shorter text} (found : nextElement text = .ok (some shorter)) :
    Reads separator text true shorter.rest :=
  ⟨Nat.le_of_lt shorter.lt, by rw [separator, found]⟩

theorem reads_hasElement_item {isFirst : Bool} {front : List Char} {json : Json}
    (separator : Separator isFirst front) (written : json.WrittenAs text) :
    Reads (hasElement isFirst) (front ++ (text ++ rest)) true (text ++ rest) := by
  cases separator with
  | first blank =>
    rw [hasElement, reads_peek_value_iff written blank]
    obtain ⟨c, _, text_eq, starts⟩ := written.starts
    have first : text.head? = some c := congrArg List.head? text_eq
    simp only [first, if_true]
    simpa using ne_bracket_of_startsWith starts
  | @later gap next blank blank' =>
    obtain ⟨shorter, found, front⟩ := @nextElement_separator _ _ gap next rest blank blank' written
    have first : ((gap ++ ',' :: (next ++ (text ++ rest))).dropWhile isSpace).head? = some ',' := by
      rw [dropWhile_blanks blank]
      rfl
    rw [List.append_assoc, List.cons_append, hasElement, reads_peek_bind_iff, first]
    have taken := reads_separator found
    rw [front] at taken
    exact taken

theorem reads_sequenceEnd_iff :
    Reads sequenceEnd text () left ↔ text.dropWhile isSpace = ']' :: left := by
  rw [sequenceEnd, reads_peek_bind_iff]
  split
  · next ended =>
    obtain ⟨tail, same⟩ := List.head?_eq_some_iff.1 ended
    rw [same]
    exact (reads_skip 1).iff_eq.trans (by simp [eq_comm])
  · next goesOn =>
    obtain ⟨tail, same⟩ := List.head?_eq_some_iff.1 goesOn
    simp [same]
  · next noEnd _ other =>
    refine iff_of_false not_reads_failNext fun same => ?_
    rw [same, List.head?_cons] at other
    cases other
    exact noEnd rfl
  · next absent =>
    simp [List.head?_eq_none_iff.1 absent]

theorem reads_sequenceEnd_close {gap : List Char} (blank : Blanks gap) :
    Reads sequenceEnd (gap ++ ']' :: rest) () left ↔ left = rest := by
  rw [reads_sequenceEnd_iff, dropWhile_blanks blank, List.dropWhile_cons_of_neg (by decide),
    List.cons_eq_cons, and_iff_right rfl, eq_comm]

theorem not_reads_sequenceEnd_item {isFirst : Bool} {front : List Char} {json : Json}
    (separator : Separator isFirst front) (written : json.WrittenAs text) :
    ¬ Reads sequenceEnd (front ++ (text ++ rest)) () left := by
  rw [reads_sequenceEnd_iff]
  obtain ⟨c, tail, rfl, starts⟩ := written.starts
  cases separator with
  | first blank =>
    rw [dropWhile_blanks blank, List.cons_append,
      List.dropWhile_cons_of_neg (not_isSpace_of_startsWith starts)]
    exact fun same => ne_bracket_of_startsWith starts (List.cons_eq_cons.1 same).1
  | later blank =>
    rw [List.append_assoc, dropWhile_blanks blank]
    exact nofun

/-- An array that has ended leaves every further field at its default. -/
theorem reads_positions_close {index : Nat} {gap : List Char} {fields : List (Field ρ)}
    (blank : Blanks gap) :
    (∃ middle, Reads (positions format index draft fields) (gap ++ ']' :: rest) record middle ∧
        Reads sequenceEnd middle () left) ↔
      left = rest ∧ record = draft ∧ ∀ field ∈ fields, field.required = false := by
  induction fields generalizing index gap with
  | nil =>
    simp only [positions, reads_pure_iff]
    constructor
    · rintro ⟨_, ⟨rfl, rfl⟩, ended⟩
      exact ⟨(reads_sequenceEnd_close blank).1 ended, rfl, List.forall_mem_nil _⟩
    · rintro ⟨ended, rfl, -⟩
      exact ⟨_, ⟨rfl, rfl⟩, (reads_sequenceEnd_close blank).2 ended⟩
  | cons field fields ih =>
    simp only [positions, (reads_hasElement_close blank).bind_iff, Bool.false_eq_true, if_false,
      List.forall_mem_cons]
    by_cases required : field.required
    · simp [required]
    · rw [if_neg required]
      refine (@ih (index + 1) [] (by decide)).trans ?_
      simp [required]

/-- **The items of an array complete the draft as the values of the fields in declaration order.**  The
parts are those with the keys of `seen`, which have been set, and the later ones, which have not. -/
theorem reads_positions_iff (isFormat : FormatOf parts format) {index : Nat}
    {fields : List (Field ρ)} {later : List (Part ρ)} {items : List Json}
    (fills : List.Forall₂ (Field.Fills parts) fields later) (later_mem : ∀ part ∈ later, part ∈ parts)
    (distinct : (later.map (·.key)).Nodup) (fresh : ∀ part ∈ later, part.key ∉ seen)
    (covers : ∀ part ∈ parts, part ∈ later ∨ part.key ∈ seen)
    (written : ItemsWrittenAs (index == 0) items text) :
    (∃ middle, Reads (positions format index draft fields) (text ++ rest) record middle ∧
        Reads sequenceEnd middle () left) ↔
      left = rest ∧ items.length ≤ later.length ∧
        Completes parts seen draft ((later.map (·.key)).zip items) record := by
  induction items generalizing index fields later seen draft text with
  | nil =>
    -- An array may end here if the fields that are left are optional.
    have optional : (∀ field ∈ fields, field.required = false) ↔
        ∀ part ∈ parts, part.default? = none → part.key ∈ seen := by
      constructor
      · intro all part mem none
        refine (covers part mem).resolve_left fun mem => ?_
        obtain ⟨field, mem', reads⟩ := exists_of_forall₂ fills.flip mem
        have := reads.required_eq.symm.trans (all field mem')
        simp [none] at this
      · intro all field mem
        obtain ⟨part, mem', reads⟩ := exists_of_forall₂ fills mem
        rw [reads.required_eq, Option.isNone_eq_false_iff, Option.isSome_iff_ne_none]
        exact fun none => fresh part mem' (all part (later_mem part mem') none)
    cases written with
    | close blank =>
      rw [List.append_assoc, List.singleton_append, reads_positions_close blank, List.zip_nil_right,
        completes_nil_iff isFormat.toDetermine, optional]
      simp
  | cons item items ih =>
    cases written with
    | item separator written more =>
      simp only [List.append_assoc]
      cases fills with
      | nil =>
        -- An item behind the last field is refused.
        simp [positions, not_reads_sequenceEnd_item separator written]
      | @cons field part fields later fills all =>
        obtain ⟨newKey, distinct⟩ := List.nodup_cons.1 distinct
        rw [List.forall_mem_cons] at later_mem fresh
        simp only [positions, (reads_hasElement_item separator written).bind_iff, if_true,
          reads_bind_iff, (fills.follows draft).reads_iff written (closed_of_itemsWrittenAs more)]
        rw [List.map_cons, List.zip_cons_cons,
          completes_cons_iff isFormat.toDetermine isFormat.update]
        have fresh' : ∀ other ∈ later, other.key ∉ part.key :: seen := by
          intro other mem
          rw [List.mem_cons, not_or]
          exact ⟨fun same => newKey (List.mem_map.2 ⟨other, mem, same⟩), fresh.2 other mem⟩
        have covers' : ∀ other ∈ parts, other ∈ later ∨ other.key ∈ part.key :: seen := by
          intro other mem
          obtain here | before := covers other mem
          · obtain rfl | after := List.mem_cons.1 here
            · exact .inr List.mem_cons_self
            · exact .inl after
          · exact .inr (List.mem_cons_of_mem _ before)
        have step (draft' : ρ) :=
          @ih (part.key :: seen) draft' _ (index + 1) fields later all later_mem.2 distinct fresh' covers'
            more
        constructor
        · rintro ⟨middle, ⟨draft', _, ⟨rfl, sets⟩, read⟩, ended⟩
          obtain ⟨rfl, short, completes⟩ := (step draft').1 ⟨middle, read, ended⟩
          exact ⟨rfl, Nat.succ_le_succ short, fresh.1, part, later_mem.1, rfl, draft', sets, completes⟩
        · rintro ⟨rfl, short, -, other, mem, same, draft', sets, completes⟩
          obtain rfl := isFormat.eq_of_key_eq later_mem.1 mem same.symm
          obtain ⟨middle, read, ended⟩ :=
            (step draft').2 ⟨rfl, Nat.le_of_succ_le_succ short, completes⟩
          exact ⟨middle, ⟨draft', _, ⟨rfl, sets⟩, read⟩, ended⟩

/-! ## Records -/

/-- **A record is read from both ways of writing it, and from nothing else.** -/
theorem follows_record (isFormat : FormatOf parts format) :
    Follows (Reader.record format) (.record parts) := by
  intro json text before rest left record written blank _
  rw [Reader.record, reads_peek_value_iff written blank]
  obtain ⟨c, tail, rfl, starts⟩ := written.starts
  rw [List.head?_cons]
  split
  · next isObject =>
    cases isObject
    obtain ⟨members, rfl, body⟩ := written.object_of_brace
    refine reads_skip_bind_iff.trans ((reads_members_iff isFormat body).trans ?_)
    rw [isFormat.completes_blank_iff]
    rfl
  · next isArray =>
    cases isArray
    obtain ⟨items, rfl, body⟩ := written.array_of_bracket
    have all := @reads_positions_iff _ parts format [] format.blank record rest left tail isFormat 0
      _ _ _ isFormat.fills (fun _ mem => mem) isFormat.distinct (fun _ _ => List.not_mem_nil)
      (fun _ mem => .inl mem) body
    rw [isFormat.completes_blank_iff] at all
    refine reads_skip_bind_iff.trans (.trans ?_ all)
    simp only [reads_bind_iff]
    constructor
    · rintro ⟨_, middle, read, ⟨⟩, _, ended, stored⟩
      obtain ⟨rfl, rfl⟩ := reads_pure_iff.1 stored
      exact ⟨middle, read, ended⟩
    · rintro ⟨middle, read, ended⟩
      exact ⟨record, middle, read, (), left, ended, reads_pure _ _⟩
  · next noObject noArray =>
    refine iff_of_false not_reads_refuse ?_
    rintro ⟨-, meant⟩
    cases starts with
    | object => exact noObject rfl
    | array => exact noArray rfl
    | _ => cases meant

end Reader

end ApiBindings.Document
