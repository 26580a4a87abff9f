import ApiBindings.Types.Native
import ApiBindings.Types.Spelling
import Mathlib.Data.List.TakeWhile

/-!
# Bare words

A bare word is a type name that a spelling cannot hide anything in: it holds no star and no blank, and is
neither `const` nor `struct`.  Reading a bare word as a spelling gives back the word, without pointer levels
(`BareWord.parse`).  Where the named type of a spelling is a bare word, the two readers of spellings agree
on it (`base_parse_of_bareWord`).
-/

namespace ApiBindings

set_option autoImplicit false

/-! ## Texts without blanks -/

namespace Text

variable {text : List Char}

theorem dropWhile_of_no_blank (solid : ∀ c ∈ text, isBlank c = false) :
    text.dropWhile isBlank = text := by
  rw [List.dropWhile_eq_self_iff]
  intro nonempty blank
  rw [solid _ (List.getElem_mem nonempty)] at blank
  cases blank

theorem trim_of_no_blank (solid : ∀ c ∈ text, isBlank c = false) : trim text = text := by
  rw [trim, trimEnd, dropWhile_of_no_blank solid,
    dropWhile_of_no_blank fun c mem => solid c (List.mem_reverse.mp mem), List.reverse_reverse]

theorem cut_of_none {p : Char → Bool} (uncut : ∀ c ∈ text, p c = false) :
    cut p text = (text, []) := by
  induction text with
  | nil => rfl
  | cons c rest ih =>
      obtain ⟨here, later⟩ := List.forall_mem_cons.mp uncut
      rw [cut, here, ih later]
      rfl

/-- A start with a character that the text lacks is not dropped. -/
theorem dropStart_of_not_mem {start : List Char} {c : Char} (mem : c ∈ start) (lacks : c ∉ text) :
    dropStart start text = text := by
  rw [dropStart, if_neg]
  intro found
  exact lacks ((List.isPrefixOf_iff_prefix.mp found).subset mem)

/-- An ending with a character that the text lacks is not dropped. -/
theorem dropEnding_of_not_mem {ending : List Char} {c : Char} (mem : c ∈ ending) (lacks : c ∉ text) :
    dropEnding ending text = text := by
  rw [dropEnding, if_neg]
  intro found
  exact lacks ((List.isSuffixOf_iff_suffix.mp found).subset mem)

end Text

namespace Types

open Text

/-! ## Bare words -/

/-- A name without stars and blanks that is no keyword of a spelling. -/
structure BareWord (name : String) : Prop where
  noStar : '*' ∉ name.toList
  noBlank : ∀ c ∈ name.toList, isBlank c = false
  notConst : name ≠ "const"
  notStruct : name ≠ "struct"

instance (name : String) : Decidable (BareWord name) :=
  decidable_of_iff ('*' ∉ name.toList ∧ name.toList.all (isBlank · == false) = true ∧
      name ≠ "const" ∧ name ≠ "struct") <| by
    simp only [List.all_eq_true, beq_iff_eq]
    exact ⟨fun ⟨noStar, noBlank, notConst, notStruct⟩ => ⟨noStar, noBlank, notConst, notStruct⟩,
      fun ⟨noStar, noBlank, notConst, notStruct⟩ => ⟨noStar, noBlank, notConst, notStruct⟩⟩

/-- Every native scalar is a bare word. -/
theorem bareWord_of_isPrimitive {name : String} (native : isPrimitive name = true) :
    BareWord name := by
  have all : ∀ name ∈ primitives, BareWord name := by decide +kernel
  exact all name (by simpa [isPrimitive] using native)

variable {name spelling : String}

theorem BareWord.noSpace (bare : BareWord name) : ' ' ∉ name.toList := by
  intro mem
  have solid := bare.noBlank ' ' mem
  revert solid
  decide

theorem BareWord.cut (bare : BareWord name) : Text.cut (· == '*') name.toList = (name.toList, []) :=
  cut_of_none fun c mem => by
    rw [beq_eq_false_iff_ne]
    exact fun star => bare.noStar (star ▸ mem)

theorem BareWord.dropConst (bare : BareWord name) : Types.dropConst name.toList = name.toList := by
  rw [Types.dropConst, trim_of_no_blank bare.noBlank,
    dropStart_of_not_mem (c := ' ') (by simp) bare.noSpace,
    dropEnding_of_not_mem (c := ' ') (by simp) bare.noSpace, trim_of_no_blank bare.noBlank]

/-- The named type of a bare word is the word. -/
theorem BareWord.baseName (bare : BareWord name) : Types.baseName name = name := by
  rw [Types.baseName, beforeStars, bare.cut, bare.dropConst, String.ofList_toList]

/-- Where the named type of a spelling is a bare word, there is no `struct` to drop from it. -/
theorem base_parse_of_bareWord (bare : BareWord (baseName spelling)) :
    (Spelling.parse spelling).base = baseName spelling := by
  have written : (baseName spelling).toList = Types.dropConst (beforeStars spelling.toList) :=
    String.toList_ofList
  show String.ofList (trim (dropStart _ (Types.dropConst (beforeStars spelling.toList)))) = _
  rw [← written, dropStart_of_not_mem (c := ' ') (by simp) bare.noSpace,
    trim_of_no_blank bare.noBlank, String.ofList_toList]

/-- **Reading a bare word gives back the word, without pointer levels.** -/
theorem BareWord.parse (bare : BareWord name) : Spelling.parse name = ⟨name, []⟩ := by
  have base : (Spelling.parse name).base = name := by
    rw [base_parse_of_bareWord (bare.baseName.symm ▸ bare), bare.baseName]
  have levels : (Spelling.parse name).levels = [] := by
    rw [Spelling.parse, bare.cut]
    rfl
  calc Spelling.parse name
      = ⟨(Spelling.parse name).base, (Spelling.parse name).levels⟩ := rfl
    _ = ⟨name, []⟩ := by rw [base, levels]

end Types

end ApiBindings
