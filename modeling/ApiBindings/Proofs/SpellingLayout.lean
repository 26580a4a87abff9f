import ApiBindings.Proofs.Words

/-!
# Layouts of a spelling

C leaves it open how a type is laid out: there may be any blanks between two words, any blanks around a star,
and a qualifier may be repeated and may stand on either side of the named type.  A layout is a spelling with
all of these choices made.

Reading a layout always gives its pointer levels.  Reading gives its named type exactly where the layout is
spaced: at most one `const` stands on either side of the named type, and a space, not another blank, stands at
that word and behind `struct` (`layout_read_iff_spaced`).  For the levels a segment is split into words, whereas
the qualifiers of the named type are dropped as a beginning and an ending of the text.

The condition is not empty: a `const` with a tab behind it stays in the named type (`parse_keeps_qualifier`).
-/

namespace ApiBindings.Types

set_option autoImplicit false

open ApiBindings.Text

/-! ## Layouts -/

/-- Blanks between two words, at least one. -/
structure Gap extends Blanks where
  nonempty : chars ≠ []

/-- A name that a spelling cannot hide anything in. -/
@[ext]
structure TypeName where
  text : String
  bare : BareWord text
  nonempty : text ≠ ""

/-- The word `const`. -/
def constWord : List Char := ['c', 'o', 'n', 's', 't']

/-- The word `struct`. -/
def structWord : List Char := ['s', 't', 'r', 'u', 'c', 't']

/-- The part of a spelling in front of its stars. -/
structure NamedLayout where
  front : Blanks
  /-- What stands behind each `const` in front of the named type. -/
  before : List Gap
  /-- What stands behind `struct`, if it is there. -/
  tag : Option Gap
  name : TypeName
  /-- What stands in front of each `const` behind the named type. -/
  after : List Gap
  back : Blanks

/-- The part of a spelling between a star and the next one, or the end. -/
inductive StarLayout where
  | plain (blanks : Blanks)
  /-- One `const`, and one more behind each of the gaps. -/
  | const (front : Blanks) (more : List Gap) (back : Blanks)

/-- A spelling with its blanks and with the places of its qualifiers. -/
structure Layout where
  named : NamedLayout
  /-- What stands behind each star. -/
  stars : List StarLayout

/-! ### Texts -/

/-- Every `const` with the gap behind it. -/
def constsBefore (gaps : List Gap) : List Char := gaps.flatMap fun gap => constWord ++ gap.chars

/-- Every `const` with the gap in front of it. -/
def constsAfter (gaps : List Gap) : List Char := gaps.flatMap fun gap => gap.chars ++ constWord

/-- `struct` with the gap behind it. -/
def tagText (tag : Option Gap) : List Char := tag.toList.flatMap fun gap => structWord ++ gap.chars

namespace NamedLayout

variable (layout : NamedLayout)

/-- The named type with `struct`, without qualifiers. -/
def unqualified : List Char := tagText layout.tag ++ layout.name.text.toList

/-- The words with what is between them. -/
def core : List Char := constsBefore layout.before ++ (layout.unqualified ++ constsAfter layout.after)

def text : List Char := layout.front.chars ++ (layout.core ++ layout.back.chars)

/-- Whether the named type is `const`. -/
def isConst : Bool := !layout.before.isEmpty || !layout.after.isEmpty

/-- There is at most one `const` on either side, with a space directly behind or in front of it. -/
structure SpacedConsts : Prop where
  before_le : layout.before.length ≤ 1
  before_space : ∀ gap ∈ layout.before, gap.chars.head? = some ' '
  after_le : layout.after.length ≤ 1
  after_space : ∀ gap ∈ layout.after, gap.chars.getLast? = some ' '

/-- Beside that, a space stands directly behind `struct`. -/
structure Spaced : Prop extends SpacedConsts layout where
  tag_space : ∀ gap ∈ layout.tag, gap.chars.head? = some ' '

end NamedLayout

namespace StarLayout

def text : StarLayout → List Char
  | plain blanks => blanks.chars
  | const front more back => front.chars ++ (constWord ++ constsAfter more ++ back.chars)

/-- Whether the pointer of the star is `const`. -/
def isConst : StarLayout → Bool
  | plain _ => false
  | const _ _ _ => true

end StarLayout

namespace Layout

variable (layout : Layout)

def text : List Char := layout.named.text ++ layout.stars.flatMap fun star => '*' :: star.text

def spelling : String := String.ofList layout.text

/-- Whether the named type and the pointers to it, one inside the other, are `const`. -/
def qualifiers : List Bool := layout.named.isConst :: layout.stars.map StarLayout.isConst

/-- For each star, whether `const` stands in front of it behind the star before. -/
def levels : List Bool := layout.qualifiers.dropLast

end Layout

/-! ## Words of a layout -/

theorem solid_constWord : Solid constWord := ⟨by decide, by simp [constWord, isBlank]⟩

theorem solid_structWord : Solid structWord := ⟨by decide, by simp [structWord, isBlank]⟩

theorem TypeName.solid (name : TypeName) : Solid name.text.toList where
  ne_nil := fun none => name.nonempty (String.toList_eq_nil_iff.mp none)
  noBlank := name.bare.noBlank

theorem TypeName.ne_const (name : TypeName) : name.text.toList ≠ constWord :=
  fun same => name.bare.notConst (String.toList_injective same)

theorem TypeName.ne_struct (name : TypeName) : name.text.toList ≠ structWord :=
  fun same => name.bare.notStruct (String.toList_injective same)

theorem constsBefore_cons_append (gap : Gap) (gaps : List Gap) (text : List Char) :
    constsBefore (gap :: gaps) ++ text = constWord ++ (gap.chars ++ (constsBefore gaps ++ text)) := by
  simp only [constsBefore, List.flatMap_cons, List.append_assoc]

theorem constsAfter_cons (gap : Gap) (gaps : List Gap) :
    constsAfter (gap :: gaps) = gap.chars ++ (constWord ++ constsAfter gaps) := by
  simp only [constsAfter, List.flatMap_cons, List.append_assoc]

theorem tagText_some_append (gap : Gap) (text : List Char) :
    tagText (some gap) ++ text = structWord ++ (gap.chars ++ text) := by
  simp only [tagText, Option.toList_some, List.flatMap_cons, List.flatMap_nil, List.append_nil,
    List.append_assoc]

theorem words_constsBefore (gaps : List Gap) (text : List Char) :
    words (constsBefore gaps ++ text) = List.replicate gaps.length constWord ++ words text := by
  induction gaps with
  | nil => rfl
  | cons gap gaps ih =>
      rw [constsBefore_cons_append, words_append_gap gap.nonempty gap.isBlank, solid_constWord.words, ih]
      rfl

theorem words_constsAfter {word : List Char} (solid : Solid word) (gaps : List Gap) :
    words (word ++ constsAfter gaps) = word :: List.replicate gaps.length constWord := by
  induction gaps generalizing word with
  | nil =>
      rw [constsAfter, List.flatMap_nil, List.append_nil]
      exact solid.words
  | cons gap gaps ih =>
      rw [constsAfter_cons, words_append_gap gap.nonempty gap.isBlank, solid.words, ih solid_constWord]
      rfl

theorem words_tagText (tag : Option Gap) (text : List Char) :
    words (tagText tag ++ text) = tag.toList.map (fun _ => structWord) ++ words text := by
  cases tag with
  | none => rfl
  | some gap =>
      rw [tagText_some_append, words_append_gap gap.nonempty gap.isBlank, solid_structWord.words]
      rfl

theorem NamedLayout.words_core (layout : NamedLayout) :
    words layout.core = List.replicate layout.before.length constWord ++
      (layout.tag.toList.map (fun _ => structWord) ++
        layout.name.text.toList :: List.replicate layout.after.length constWord) := by
  rw [core, unqualified, words_constsBefore, List.append_assoc, words_tagText,
    words_constsAfter layout.name.solid]

theorem NamedLayout.words_text (layout : NamedLayout) : words layout.text = words layout.core := by
  rw [text, words_blank_append layout.front.isBlank, words_append_blanks layout.back.isBlank]

theorem StarLayout.words_text_const (front back : Blanks) (more : List Gap) :
    words (const front more back).text = constWord :: List.replicate more.length constWord := by
  rw [text, words_blank_append front.isBlank, words_append_blanks back.isBlank,
    words_constsAfter solid_constWord]

theorem NamedLayout.mentionsConst_text (layout : NamedLayout) :
    mentionsConst layout.text = layout.isConst := by
  have struct : constWord ≠ structWord := by decide
  have mentioned : constWord ∈ words layout.text ↔ layout.before ≠ [] ∨ layout.after ≠ [] := by
    rw [words_text, words_core]
    simp [List.mem_replicate, struct, layout.name.ne_const.symm]
  rw [Bool.eq_iff_iff, mentionsConst, List.contains_iff_mem]
  refine mentioned.trans ?_
  simp [isConst]

theorem StarLayout.mentionsConst_text (star : StarLayout) : mentionsConst star.text = star.isConst := by
  cases star with
  | plain blanks =>
      rw [mentionsConst, text, words_of_blank blanks.isBlank]
      rfl
  | const front more back =>
      rw [mentionsConst, words_text_const]
      rfl

/-! ## Pointer levels -/

theorem NamedLayout.star_notMem_text (layout : NamedLayout) : '*' ∉ layout.text := by
  intro mem
  obtain ⟨word, found, inside⟩ := exists_word_of_mem (by decide) mem
  rw [words_text, words_core] at found
  simp only [List.mem_append, List.mem_replicate, List.mem_map, List.mem_cons] at found
  rcases found with ⟨-, rfl⟩ | ⟨_, -, rfl⟩ | rfl | ⟨-, rfl⟩
  · exact absurd inside (by decide)
  · exact absurd inside (by decide)
  · exact layout.name.bare.noStar inside
  · exact absurd inside (by decide)

theorem StarLayout.star_notMem_text (star : StarLayout) : '*' ∉ star.text := by
  intro mem
  obtain ⟨word, found, inside⟩ := exists_word_of_mem (by decide) mem
  cases star with
  | plain blanks =>
      rw [text, words_of_blank blanks.isBlank] at found
      cases found
  | const front more back =>
      rw [words_text_const] at found
      rcases List.mem_cons.mp found with rfl | found
      · exact absurd inside (by decide)
      · rw [(List.mem_replicate.mp found).2] at inside
        exact absurd inside (by decide)

namespace Layout

variable (layout : Layout)

/-- The stars of a layout cut it into its parts. -/
theorem pieces_text : pieces (· == '*') layout.text =
    layout.named.text :: layout.stars.map StarLayout.text := by
  have marked : layout.text =
      layout.named.text ++ (layout.stars.map StarLayout.text).flatMap ('*' :: ·) := by
    rw [text, List.flatMap_map]
  rw [marked]
  refine pieces_of_marked fun piece mem => ?_
  rcases List.mem_cons.mp mem with rfl | mem
  · exact layout.named.star_notMem_text
  · obtain ⟨star, -, rfl⟩ := List.mem_map.mp mem
    exact star.star_notMem_text

theorem cut_text : cut (· == '*') layout.text =
    (layout.named.text, layout.stars.map StarLayout.text) := by
  obtain ⟨first, others⟩ := List.cons.inj layout.pieces_text
  exact Prod.ext first others

/-- **Reading a layout gives its pointer levels.** -/
theorem levels_parse : (Spelling.parse layout.spelling).levels = layout.levels := by
  have flags : (layout.named.text :: layout.stars.map StarLayout.text).map mentionsConst =
      layout.qualifiers := by
    rw [List.map_cons, List.map_map, layout.named.mentionsConst_text]
    exact congrArg _ (List.map_congr_left fun star _ => star.mentionsConst_text)
  rw [Spelling.parse, spelling, String.toList_ofList, cut_text, levelFlags, List.map_take, flags, levels,
    List.dropLast_eq_take]
  simp [qualifiers]

end Layout

/-! ## Dropped words -/

theorem dropStart_append (start rest : List Char) : dropStart start (start ++ rest) = rest := by
  rw [dropStart, if_pos (List.isPrefixOf_iff_prefix.mpr (List.prefix_append _ _)), List.drop_left]

theorem dropEnding_append (ending rest : List Char) : dropEnding ending (rest ++ ending) = rest := by
  rw [dropEnding, if_pos (List.isSuffixOf_iff_suffix.mpr (List.suffix_append _ _)), List.length_append,
    Nat.add_sub_cancel, List.take_left]

theorem dropStart_isSuffix (start text : List Char) : dropStart start text <:+ text := by
  rw [dropStart]
  split
  · exact List.drop_suffix _ _
  · exact List.suffix_refl _

/-- A word is dropped from the front of a text only as its first word, with a space behind it. -/
theorem exists_words_dropStart {word : List Char} (solid : Solid word) (text : List Char) :
    ∃ count, words text = List.replicate count word ++ words (dropStart (word ++ [' ']) text) ∧
      (count = 0 ∧ dropStart (word ++ [' ']) text = text ∨
        count = 1 ∧ text = word ++ ' ' :: dropStart (word ++ [' ']) text) := by
  by_cases found : word ++ [' '] <+: text
  · obtain ⟨rest, rfl⟩ := found
    rw [dropStart_append, List.append_assoc, List.singleton_append]
    refine ⟨1, ?_, .inr ⟨rfl, rfl⟩⟩
    rw [words_append_blank (by decide), solid.words]
    rfl
  · have kept : dropStart (word ++ [' ']) text = text := by
      rw [dropStart, if_neg (mt List.isPrefixOf_iff_prefix.mp found)]
    exact ⟨0, by rw [kept]; rfl, .inl ⟨rfl, kept⟩⟩

/-- A word is dropped from the end of a text only as its last word, with a space in front of it. -/
theorem exists_words_dropEnding {word : List Char} (solid : Solid word) (text : List Char) :
    ∃ count, words text = words (dropEnding (' ' :: word) text) ++ List.replicate count word ∧
      (count = 0 ∧ dropEnding (' ' :: word) text = text ∨
        count = 1 ∧ text = dropEnding (' ' :: word) text ++ ' ' :: word) := by
  by_cases found : ' ' :: word <:+ text
  · obtain ⟨rest, rfl⟩ := found
    rw [dropEnding_append]
    refine ⟨1, ?_, .inr ⟨rfl, rfl⟩⟩
    rw [words_append_blank (by decide), solid.words]
    rfl
  · have kept : dropEnding (' ' :: word) text = text := by
      rw [dropEnding, if_neg (mt List.isSuffixOf_iff_suffix.mp found)]
    exact ⟨0, by rw [kept]; exact (List.append_nil _).symm, .inl ⟨rfl, kept⟩⟩

theorem Gap.exists_of_head? {gap : Gap} (space : gap.chars.head? = some ' ') :
    ∃ more, Blank more ∧ gap.chars = ' ' :: more := by
  obtain ⟨more, chars⟩ := List.head?_eq_some_iff.mp space
  exact ⟨more, fun c mem => gap.isBlank c (chars ▸ List.mem_cons_of_mem _ mem), chars⟩

theorem Gap.head?_of_append (gap : Gap) {text rest : List Char} (same : gap.chars ++ text = ' ' :: rest) :
    gap.chars.head? = some ' ' := by
  rw [← List.head?_append_of_ne_nil _ gap.nonempty, same]
  rfl

theorem Gap.exists_of_getLast? {gap : Gap} (space : gap.chars.getLast? = some ' ') :
    ∃ more, Blank more ∧ gap.chars = more ++ [' '] := by
  obtain ⟨more, chars⟩ := List.getLast?_eq_some_iff.mp space
  exact ⟨more, fun c mem => gap.isBlank c (chars ▸ List.mem_append_left _ mem), chars⟩

/-- One `const` in front at most, with a space behind it, is dropped. -/
theorem exists_dropStart_consts {gaps : List Gap} {text : List Char} (le : gaps.length ≤ 1)
    (space : ∀ gap ∈ gaps, gap.chars.head? = some ' ') (other : (words text).head? ≠ some constWord) :
    ∃ blanks, Blank blanks ∧
      dropStart (constWord ++ [' ']) (constsBefore gaps ++ text) = blanks ++ text := by
  match gaps with
  | [] =>
      obtain ⟨count, split, ⟨-, kept⟩ | ⟨rfl, -⟩⟩ := exists_words_dropStart solid_constWord text
      · exact ⟨[], List.forall_mem_nil _, kept⟩
      · rw [split] at other
        exact absurd rfl other
  | [gap] =>
      obtain ⟨more, blank, chars⟩ := Gap.exists_of_head? (space gap (List.mem_singleton_self _))
      refine ⟨more, blank, ?_⟩
      rw [constsBefore_cons_append, chars]
      exact dropStart_append (constWord ++ [' ']) (more ++ text)
  | _ :: _ :: _ => simp at le

/-- One `const` at the end at most, with a space in front of it, is dropped. -/
theorem exists_dropEnding_consts {gaps : List Gap} {text : List Char} (le : gaps.length ≤ 1)
    (space : ∀ gap ∈ gaps, gap.chars.getLast? = some ' ')
    (other : (words text).getLast? ≠ some constWord) :
    ∃ blanks, Blank blanks ∧
      dropEnding (' ' :: constWord) (text ++ constsAfter gaps) = text ++ blanks := by
  match gaps with
  | [] =>
      rw [constsAfter, List.flatMap_nil, List.append_nil]
      obtain ⟨count, split, ⟨-, kept⟩ | ⟨rfl, -⟩⟩ := exists_words_dropEnding solid_constWord text
      · exact ⟨[], List.forall_mem_nil _, by rw [kept, List.append_nil]⟩
      · rw [split] at other
        simp at other
  | [gap] =>
      obtain ⟨more, blank, chars⟩ := Gap.exists_of_getLast? (space gap (List.mem_singleton_self _))
      have written : text ++ constsAfter [gap] = (text ++ more) ++ ' ' :: constWord := by
        rw [constsAfter_cons, chars]
        simp [constsAfter]
      exact ⟨more, blank, by rw [written, dropEnding_append]⟩
  | _ :: _ :: _ => simp at le

/-! ## Frames of a layout -/

theorem framed_constsBefore_append {text : List Char} (framed : Framed text) (gaps : List Gap) :
    Framed (constsBefore gaps ++ text) := by
  induction gaps with
  | nil => exact framed
  | cons gap gaps ih =>
      rw [constsBefore_cons_append]
      exact solid_constWord.framed.between ih gap.chars

theorem framed_append_constsAfter {text : List Char} (framed : Framed text) (gaps : List Gap) :
    Framed (text ++ constsAfter gaps) := by
  induction gaps generalizing text with
  | nil => simpa only [constsAfter, List.flatMap_nil, List.append_nil] using framed
  | cons gap gaps ih =>
      rw [constsAfter_cons, ← List.append_assoc, ← List.append_assoc, List.append_assoc text]
      exact ih (framed.between solid_constWord.framed gap.chars)

namespace NamedLayout

variable (layout : NamedLayout)

theorem framed_unqualified : Framed layout.unqualified := by
  rw [unqualified]
  cases layout.tag with
  | none => exact layout.name.solid.framed
  | some gap =>
      rw [tagText_some_append]
      exact solid_structWord.framed.between layout.name.solid.framed gap.chars

theorem framed_core : Framed layout.core :=
  framed_constsBefore_append (framed_append_constsAfter layout.framed_unqualified _) _

theorem trim_text : trim layout.text = layout.core :=
  layout.framed_core.trim layout.front.isBlank layout.back.isBlank

theorem words_unqualified : words layout.unqualified =
    layout.tag.toList.map (fun _ => structWord) ++ [layout.name.text.toList] := by
  rw [unqualified, words_tagText, layout.name.solid.words]

variable {layout}

theorem unqualified_of_tag {gap : Gap} (tagged : layout.tag = some gap) :
    layout.unqualified = structWord ++ (gap.chars ++ layout.name.text.toList) := by
  rw [unqualified, tagged, tagText_some_append]

/-! ## The named type -/

/-- **Spaced qualifiers are dropped**, and only the `struct` is left in front of the named type. -/
theorem dropConst_text (spaced : layout.SpacedConsts) : dropConst layout.text = layout.unqualified := by
  have words_first : (words (layout.unqualified ++ constsAfter layout.after)).head? ≠ some constWord := by
    rw [unqualified, List.append_assoc, words_tagText, words_constsAfter layout.name.solid]
    have struct : structWord ≠ constWord := by decide
    cases layout.tag with
    | none => simp [layout.name.ne_const]
    | some gap => simp [struct]
  obtain ⟨front, frontBlank, start⟩ :=
    exists_dropStart_consts spaced.before_le spaced.before_space words_first
  have words_last : (words (front ++ layout.unqualified)).getLast? ≠ some constWord := by
    rw [words_blank_append frontBlank, words_unqualified]
    simp [layout.name.ne_const]
  obtain ⟨back, backBlank, stop⟩ :=
    exists_dropEnding_consts spaced.after_le spaced.after_space words_last
  calc dropConst layout.text
      = trim (dropEnding (' ' :: constWord) (dropStart (constWord ++ [' ']) layout.core)) := by
        rw [← trim_text]
        rfl
    _ = trim (front ++ (layout.unqualified ++ back)) := by
        rw [core, start, ← List.append_assoc, stop, List.append_assoc]
    _ = layout.unqualified := layout.framed_unqualified.trim frontBlank backBlank

/-- A space that stands behind the first `const` is the first blank of its gap. -/
theorem before_space_of_core {rest : List Char} (le : layout.before.length ≤ 1)
    (written : layout.core = constWord ++ ' ' :: rest) :
    ∀ gap ∈ layout.before, gap.chars.head? = some ' ' := by
  intro gap mem
  obtain ⟨only, one⟩ := List.length_eq_one_iff.mp (le.antisymm (List.length_pos_of_mem mem))
  rw [one, List.mem_singleton] at mem
  subst mem
  have cancelled : gap.chars ++ (layout.unqualified ++ constsAfter layout.after) = ' ' :: rest := by
    rw [core, one, constsBefore_cons_append] at written
    exact List.append_cancel_left written
  exact gap.head?_of_append cancelled

/-- A space that stands in front of the last `const` is the last blank of its gap. -/
theorem after_space_of_core {rest : List Char} (le : layout.after.length ≤ 1)
    (written : layout.core = rest ++ ' ' :: constWord) :
    ∀ gap ∈ layout.after, gap.chars.getLast? = some ' ' := by
  intro gap mem
  obtain ⟨only, one⟩ := List.length_eq_one_iff.mp (le.antisymm (List.length_pos_of_mem mem))
  rw [one, List.mem_singleton] at mem
  subst mem
  have cancelled : (constsBefore layout.before ++ layout.unqualified) ++ gap.chars = rest ++ [' '] := by
    refine (List.append_left_inj constWord).mp ?_
    rw [core, one, constsAfter_cons] at written
    simpa [constsAfter] using written
  have last := congrArg List.getLast? cancelled
  rwa [List.getLast?_append_of_ne_nil _ gap.nonempty, List.getLast?_concat] at last

/-- What is left of a layout is its name only where its qualifiers are spaced. -/
theorem spacedConsts_of_words
    (named : words (dropStart (structWord ++ [' ']) (dropConst layout.text)) = [layout.name.text.toList]) :
    layout.SpacedConsts := by
  have dropped : dropConst layout.text =
      trim (dropEnding (' ' :: constWord) (dropStart (constWord ++ [' ']) layout.core)) := by
    rw [← trim_text]
    rfl
  obtain ⟨first, firstWords, firstDropped⟩ := exists_words_dropStart solid_constWord layout.core
  obtain ⟨last, lastWords, lastDropped⟩ :=
    exists_words_dropEnding solid_constWord (dropStart (constWord ++ [' ']) layout.core)
  obtain ⟨tag, tagWords, -⟩ := exists_words_dropStart solid_structWord (dropConst layout.text)
  -- All that was dropped, put back around the name, are the words of the layout.
  have parts : words layout.core = (List.replicate first constWord ++ List.replicate tag structWord) ++
      layout.name.text.toList :: List.replicate last constWord := by
    rw [firstWords, lastWords, ← words_trim, ← dropped, tagWords, named]
    simp only [List.append_assoc, List.singleton_append]
  have struct : structWord ≠ constWord := by decide
  have nameFront : layout.name.text.toList ∉
      List.replicate layout.before.length constWord ++ layout.tag.toList.map fun _ => structWord := by
    simp [List.mem_replicate, layout.name.ne_const, layout.name.ne_struct]
  have nameBack : layout.name.text.toList ∉ List.replicate layout.after.length constWord := by
    simp [List.mem_replicate, layout.name.ne_const]
  rw [words_core, ← List.append_assoc] at parts
  obtain ⟨fronts, -, backs⟩ := (List.append_cons_inj_of_notMem nameFront nameBack).mp parts
  have beforeCount : layout.before.length = first := by
    have counts := congrArg (List.count constWord) fronts
    simpa [List.count_replicate, struct] using counts
  have afterCount : layout.after.length = last := by
    simpa using congrArg List.length backs
  obtain ⟨skipped, rest⟩ := dropStart_isSuffix (constWord ++ [' ']) layout.core
  have before_le : layout.before.length ≤ 1 := by omega
  have after_le : layout.after.length ≤ 1 := by omega
  refine ⟨before_le, fun gap mem => ?_, after_le, fun gap mem => ?_⟩
  · have pos := List.length_pos_of_mem mem
    rcases firstDropped with ⟨none, -⟩ | ⟨-, written⟩
    · omega
    · exact before_space_of_core before_le written gap mem
  · have pos := List.length_pos_of_mem mem
    rcases lastDropped with ⟨none, -⟩ | ⟨-, written⟩
    · omega
    · rw [written, ← List.append_assoc] at rest
      exact after_space_of_core after_le rest.symm gap mem

/-- A space that stands behind `struct` is the first blank of its gap. -/
theorem tag_space_of_unqualified {gap : Gap} {rest : List Char} (tagged : layout.tag = some gap)
    (written : layout.unqualified = structWord ++ ' ' :: rest) : gap.chars.head? = some ' ' := by
  have cancelled : gap.chars ++ layout.name.text.toList = ' ' :: rest := by
    rw [unqualified_of_tag tagged] at written
    exact List.append_cancel_left written
  exact gap.head?_of_append cancelled

/-- **What is left of a layout is its name exactly where the layout is spaced.** -/
theorem trim_dropStart_eq_iff :
    trim (dropStart (structWord ++ [' ']) (dropConst layout.text)) = layout.name.text.toList ↔
      layout.Spaced := by
  constructor
  · intro named
    have left : words (dropStart (structWord ++ [' ']) (dropConst layout.text)) =
        [layout.name.text.toList] := by
      rw [← words_trim, named, layout.name.solid.words]
    have spaced := spacedConsts_of_words left
    refine ⟨spaced, fun gap tagged => ?_⟩
    rw [Option.mem_def] at tagged
    rw [dropConst_text spaced] at left
    obtain ⟨count, split, ⟨rfl, kept⟩ | ⟨-, written⟩⟩ :=
      exists_words_dropStart solid_structWord layout.unqualified
    · rw [words_unqualified, left, tagged] at split
      simp at split
    · exact tag_space_of_unqualified tagged written
  · intro spaced
    rw [dropConst_text spaced.toSpacedConsts]
    cases tagged : layout.tag with
    | none =>
        have plain : layout.unqualified = layout.name.text.toList := by
          rw [unqualified, tagged]
          rfl
        rw [plain, dropStart_of_not_mem (c := ' ') (by simp) layout.name.bare.noSpace,
          trim_of_no_blank layout.name.bare.noBlank]
    | some gap =>
        obtain ⟨more, blank, chars⟩ := Gap.exists_of_head? (spaced.tag_space gap tagged)
        have written : layout.unqualified = (structWord ++ [' ']) ++ (more ++ layout.name.text.toList) := by
          rw [unqualified_of_tag tagged, chars]
          rfl
        have trimmed := layout.name.solid.framed.trim blank (List.forall_mem_nil _)
        rw [List.append_nil] at trimmed
        rw [written, dropStart_append, trimmed]

end NamedLayout

namespace Layout

variable (layout : Layout)

theorem base_parse_eq_iff :
    (Spelling.parse layout.spelling).base = layout.named.name.text ↔ layout.named.Spaced := by
  have read : (Spelling.parse layout.spelling).base =
      String.ofList (trim (dropStart (structWord ++ [' ']) (dropConst layout.named.text))) := by
    rw [Spelling.parse, spelling, String.toList_ofList, cut_text]
    rfl
  rw [read, ← NamedLayout.trim_dropStart_eq_iff, ← String.toList_inj, String.toList_ofList]

/-- Reading a spaced layout gives its named type and its pointer levels. -/
theorem parse_of_spaced (spaced : layout.named.Spaced) :
    Spelling.parse layout.spelling = ⟨layout.named.name.text, layout.levels⟩ :=
  calc Spelling.parse layout.spelling
      = ⟨(Spelling.parse layout.spelling).base, (Spelling.parse layout.spelling).levels⟩ := rfl
    _ = ⟨layout.named.name.text, layout.levels⟩ := by
        rw [layout.base_parse_eq_iff.mpr spaced, layout.levels_parse]

/-- **Reading a layout always gives its pointer levels, and gives its named type exactly where the layout is
spaced.** -/
theorem layout_read_iff_spaced : (Spelling.parse layout.spelling).levels = layout.levels ∧
    ((Spelling.parse layout.spelling).base = layout.named.name.text ↔ layout.named.Spaced) :=
  ⟨layout.levels_parse, layout.base_parse_eq_iff⟩

end Layout

/-- A pointer to `const char` with a tab behind the qualifier. -/
def tabbedConst : Layout where
  named := {
    front := .none
    before := [⟨⟨['\t'], rfl⟩, List.cons_ne_nil _ _⟩]
    tag := none
    name := ⟨"char", by decide +kernel, by decide⟩
    after := []
    back := .none }
  stars := [.plain .none]

/-- Reading takes a qualifier with a tab behind it for a part of the named type. -/
theorem parse_keeps_qualifier : tabbedConst.spelling = "const\tchar*" ∧
    Spelling.parse tabbedConst.spelling = ⟨"const\tchar", [true]⟩ ∧
    (Spelling.parse tabbedConst.spelling).base ≠ tabbedConst.named.name.text := by
  decide +kernel

end ApiBindings.Types
