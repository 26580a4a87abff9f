import ApiBindings.Registry.Check

/-!
# Chains as sequences

A chain is the sequence of the names that are met: a first name, if there is one, and behind each name what `next`
makes of it.  The sequence need not end.  The walk along it stops at the first place where there is no name, or one
that is not declared, or one that was passed before (`fault?_eq_iff`), and there is such a place among as many as there
are declared names and one more (`exists_stop`), since every place in front of it takes a declared name that no other
one takes.

Of an alias this says which of the three it is (`alias_walk_classified`): a missing name, a circle, or neither.
-/

namespace ApiBindings.Chain

set_option autoImplicit false

variable {next : String → Option String} {declared passed : List String} {first : Option String}
  {place other : Nat} {name : String}

/-! ## Sequences of names -/

/-- The name at a place of the sequence that goes on from a first name, places being counted from zero. -/
def nameAt? (next : String → Option String) (first : Option String) : (place : Nat) → Option String
  | 0 => first
  | place + 1 => (nameAt? next first place).bind next

/-- The names in front of a place. -/
def namesBefore (next : String → Option String) (first : Option String) (place : Nat) : List String :=
  (List.range place).filterMap (nameAt? next first)

/-- The sequence behind its first name is the one that goes on from the second. -/
theorem nameAt?_some_succ (name : String) (place : Nat) :
    nameAt? next (some name) (place + 1) = nameAt? next (next name) place := by
  induction place with
  | zero => rfl
  | succ place ih => rw [nameAt?, ih, nameAt?]

theorem namesBefore_some_succ (name : String) (place : Nat) :
    namesBefore next (some name) (place + 1) = name :: namesBefore next (next name) place := by
  have behind : nameAt? next (some name) ∘ Nat.succ = nameAt? next (next name) :=
    funext fun place => nameAt?_some_succ name place
  rw [namesBefore, List.range_succ_eq_map, List.filterMap_cons, List.filterMap_map, behind]
  rfl

theorem namesBefore_succ (found : nameAt? next first place = some name) :
    namesBefore next first (place + 1) = namesBefore next first place ++ [name] := by
  rw [namesBefore, List.range_succ, List.filterMap_append, List.filterMap_cons, found]
  rfl

theorem namesBefore_prefix (order : place ≤ other) :
    namesBefore next first place <+: namesBefore next first other := by
  obtain ⟨more, rfl⟩ := Nat.exists_eq_add_of_le order
  rw [namesBefore, namesBefore, List.range_add, List.filterMap_append]
  exact List.prefix_append _ _

/-- Behind the end of a sequence there is no name. -/
theorem nameAt?_eq_none_of_le (ended : nameAt? next first place = none) (order : place ≤ other) :
    nameAt? next first other = none := by
  induction order with
  | refl => exact ended
  | step _ ih => rw [nameAt?, ih]; rfl

/-! ## Where a walk stops -/

/-- The walk comes to a place: the names in front of it are declared, and each of them is met for the first time. -/
structure Reaches (next : String → Option String) (declared passed : List String) (first : Option String)
    (place : Nat) : Prop where
  known : ∀ name ∈ namesBefore next first place, name ∈ declared
  fresh : ∀ name ∈ namesBefore next first place, name ∉ passed
  distinct : (namesBefore next first place).Nodup

/-- What stops the walk at a place. -/
inductive Stops (next : String → Option String) (declared passed : List String) (first : Option String)
    (place : Nat) : Option ChainFault → Prop where
  | ended (gone : nameAt? next first place = none) : Stops next declared passed first place none
  | undeclared {name : String} (found : nameAt? next first place = some name) (unknown : name ∉ declared) :
      Stops next declared passed first place (some (.undeclared name))
  | cycle {name : String} (found : nameAt? next first place = some name) (known : name ∈ declared)
      (again : name ∈ passed ++ namesBefore next first place) :
      Stops next declared passed first place (some (.cycle name))

theorem reaches_zero : Reaches next declared passed first 0 :=
  ⟨List.forall_mem_nil _, List.forall_mem_nil _, List.nodup_nil⟩

/-- Where the walk from the second name comes to with the first one passed, the walk from the first one comes to. -/
theorem Reaches.step (known : name ∈ declared) (fresh : name ∉ passed)
    (reaches : Reaches next declared (name :: passed) (next name) place) :
    Reaches next declared passed (some name) (place + 1) := by
  constructor <;> rw [namesBefore_some_succ]
  · exact List.forall_mem_cons.mpr ⟨known, reaches.known⟩
  · refine List.forall_mem_cons.mpr ⟨fresh, fun met mem was => ?_⟩
    exact reaches.fresh met mem (List.mem_cons_of_mem _ was)
  · exact List.nodup_cons.mpr ⟨fun again => reaches.fresh name again List.mem_cons_self, reaches.distinct⟩

theorem Stops.step {result : Option ChainFault}
    (stops : Stops next declared (name :: passed) (next name) place result) :
    Stops next declared passed (some name) (place + 1) result := by
  cases stops with
  | ended gone => exact .ended ((nameAt?_some_succ name place).trans gone)
  | undeclared found unknown => exact .undeclared ((nameAt?_some_succ name place).trans found) unknown
  | cycle found known again =>
      refine .cycle ((nameAt?_some_succ name place).trans found) known ?_
      rw [namesBefore_some_succ]
      exact List.perm_middle.symm.subset again

/-- **The walk comes to a place that stops it**, and it comes there over no more names than are declared and not
passed yet. -/
theorem exists_stop (next : String → Option String) (declared passed : List String) (first : Option String) :
    ∃ place ≤ unpassed declared passed, Reaches next declared passed first place ∧
      Stops next declared passed first place (fault? next declared passed first) := by
  fun_induction fault? next declared passed first with
  | case1 passed => exact ⟨0, Nat.zero_le _, reaches_zero, .ended rfl⟩
  | case2 passed name known again =>
      exact ⟨0, Nat.zero_le _, reaches_zero, .cycle rfl known (List.mem_append_left _ again)⟩
  | case3 passed name known fresh ih =>
      obtain ⟨place, within, reaches, stops⟩ := ih
      exact ⟨place + 1, Nat.lt_of_le_of_lt within (unpassed_cons_lt known fresh), reaches.step known fresh, stops.step⟩
  | case4 passed name unknown => exact ⟨0, Nat.zero_le _, reaches_zero, .undeclared rfl unknown⟩

/-- At one place only one thing stops the walk. -/
theorem Stops.unique {result last : Option ChainFault} (stops : Stops next declared passed first place result)
    (again : Stops next declared passed first place last) : result = last := by
  cases stops <;> cases again <;> simp_all

/-- Where the walk goes on, the name is declared and met for the first time. -/
theorem Reaches.passes (reaches : Reaches next declared passed first other) (before : place < other)
    (found : nameAt? next first place = some name) :
    name ∈ declared ∧ name ∉ passed ++ namesBefore next first place := by
  have begins : namesBefore next first place ++ [name] <+: namesBefore next first other :=
    namesBefore_succ found ▸ namesBefore_prefix before
  have mem : name ∈ namesBefore next first other := begins.subset (by simp)
  have distinct := reaches.distinct.sublist begins.sublist
  refine ⟨reaches.known name mem, fun again => ?_⟩
  rcases List.mem_append.mp again with was | was
  · exact reaches.fresh name mem was
  · exact (List.nodup_append.mp distinct).2.2 name was name List.mem_cons_self rfl

/-- Two places to which the walk comes do not stop it with different results. -/
theorem Stops.eq_of_reaches {result last : Option ChainFault} (stops : Stops next declared passed first place result)
    (reaches : Reaches next declared passed first other)
    (stopsLast : Stops next declared passed first other last) (order : place ≤ other) : result = last := by
  rcases Nat.eq_or_lt_of_le order with rfl | before
  · exact stops.unique stopsLast
  · cases stops with
    | ended gone => exact (Stops.ended (nameAt?_eq_none_of_le gone order)).unique stopsLast
    | undeclared found unknown => exact absurd (reaches.passes before found).1 unknown
    | cycle found _ again => exact absurd again (reaches.passes before found).2

/-- **The result of a walk is what stops it at a place to which it comes.** -/
theorem fault?_eq_iff {result : Option ChainFault} : fault? next declared passed first = result ↔
    ∃ place, Reaches next declared passed first place ∧ Stops next declared passed first place result := by
  obtain ⟨place, -, reaches, stops⟩ := exists_stop next declared passed first
  constructor
  · rintro rfl
    exact ⟨place, reaches, stops⟩
  · rintro ⟨other, reachesOther, stopsOther⟩
    rcases Nat.le_total place other with order | order
    · exact stops.eq_of_reaches reachesOther stopsOther order
    · exact (stopsOther.eq_of_reaches reaches stops order).symm

/-! ## Aliases -/

theorem reaches_start_iff {start : String} : Reaches next declared [start] first place ↔
    (∀ name ∈ namesBefore next first place, name ∈ declared) ∧ (start :: namesBefore next first place).Nodup := by
  rw [List.nodup_cons]
  constructor
  · rintro ⟨known, fresh, distinct⟩
    exact ⟨known, fun mem => fresh start mem List.mem_cons_self, distinct⟩
  · rintro ⟨known, absent, distinct⟩
    refine ⟨known, fun name mem was => ?_, distinct⟩
    exact absent (List.mem_singleton.mp was ▸ mem)

theorem aliasDefect_injective : Function.Injective ChainFault.aliasDefect := by
  intro fault other same
  cases fault <;> cases other <;> simp_all [ChainFault.aliasDefect]

theorem aliasDefects_eq_iff {start : String} (result : Option ChainFault) :
    aliasDefects next declared start first = (result.map ChainFault.aliasDefect).toList ↔
      ∃ place, Reaches next declared [start] first place ∧ Stops next declared [start] first place result := by
  rw [aliasDefects, ← fault?_eq_iff]
  constructor
  · intro same
    have kept := congrArg List.head? same
    rw [Option.head?_toList, Option.head?_toList] at kept
    exact Option.map_injective aliasDefect_injective kept
  · rintro rfl
    rfl

/-- **The walk along a chain of aliases ends, and tells three kinds of chains apart.**  It stops at a place that
comes behind no more names than are declared.  It finds a missing name exactly if that is the first name of the
sequence that is not declared, and the ones in front of it and the name of the alias are all different.  It finds a
cycle exactly if a name is the first one that stood in the sequence before or is the name of the alias, and it and
all the ones in front of it are declared.  It finds nothing exactly if the sequence ends, all of it is declared, and
all of it and the name of the alias are different. -/
theorem alias_walk_classified (next : String → Option String) (declared : List String) (start : String)
    (first : Option String) :
    (∃ place ≤ declared.length, ∃ result, Reaches next declared [start] first place ∧
      Stops next declared [start] first place result ∧
      aliasDefects next declared start first = (result.map ChainFault.aliasDefect).toList) ∧
    (∀ target, aliasDefects next declared start first = [.unknownAlias target] ↔
      ∃ place, nameAt? next first place = some target ∧ target ∉ declared ∧
        (∀ name ∈ namesBefore next first place, name ∈ declared) ∧
        (start :: namesBefore next first place).Nodup) ∧
    (∀ target, aliasDefects next declared start first = [.aliasCycle target] ↔
      ∃ place, nameAt? next first place = some target ∧ target ∈ start :: namesBefore next first place ∧
        (start :: namesBefore next first place).Nodup ∧
        ∀ name ∈ namesBefore next first (place + 1), name ∈ declared) ∧
    (aliasDefects next declared start first = [] ↔
      ∃ place, nameAt? next first place = none ∧ (∀ name ∈ namesBefore next first place, name ∈ declared) ∧
        (start :: namesBefore next first place).Nodup) := by
  refine ⟨?_, fun target => ?_, fun target => ?_, ?_⟩
  · obtain ⟨place, within, reaches, stops⟩ := exists_stop next declared [start] first
    exact ⟨place, Nat.le_trans within (List.length_filter_le _ _), _, reaches, stops, rfl⟩
  · refine (aliasDefects_eq_iff (some (.undeclared target))).trans (exists_congr fun place => ?_)
    rw [reaches_start_iff]
    constructor
    · rintro ⟨⟨known, distinct⟩, stops⟩
      cases stops with
      | undeclared found unknown => exact ⟨found, unknown, known, distinct⟩
    · rintro ⟨found, unknown, known, distinct⟩
      exact ⟨⟨known, distinct⟩, .undeclared found unknown⟩
  · refine (aliasDefects_eq_iff (some (.cycle target))).trans (exists_congr fun place => ?_)
    rw [reaches_start_iff]
    constructor
    · rintro ⟨⟨known, distinct⟩, stops⟩
      cases stops with
      | cycle found here again =>
          rw [namesBefore_succ found, List.forall_mem_append]
          exact ⟨found, again, distinct, known, by simpa using here⟩
    · rintro ⟨found, again, distinct, known⟩
      rw [namesBefore_succ found, List.forall_mem_append] at known
      exact ⟨⟨known.1, distinct⟩, .cycle found (known.2 target (List.mem_singleton_self target)) again⟩
  · refine (aliasDefects_eq_iff none).trans (exists_congr fun place => ?_)
    rw [reaches_start_iff]
    constructor
    · rintro ⟨⟨known, distinct⟩, stops⟩
      cases stops with
      | ended gone => exact ⟨gone, known, distinct⟩
    · rintro ⟨gone, known, distinct⟩
      exact ⟨⟨known, distinct⟩, .ended gone⟩

end ApiBindings.Chain
