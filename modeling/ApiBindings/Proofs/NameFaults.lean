import ApiBindings.Proofs.ProperNames

/-!
# The faults of names

A name in a list is at fault if it is blank, or if it is not and stands in the list before (`Faulty`).  Which names
have been seen does not matter to that: the first position of a name that stands before is the least one of all.

The check of a collection's names goes through the list with the names seen so far and their positions.  What it knows
about a name that is not blank is the first position of the name in the part of the list behind it
(`SeenIn`), so it finds the faults of the list in their order and nothing else (`nameProblems_eq`).  The check of the
names inside a row finds the same faults and only words them in another way (`memberNameDefects_eq`).
-/

namespace ApiBindings

set_option autoImplicit false

open Text (allBlank)

/-! ## Faults -/

/-- What is wrong with a name in a list. -/
inductive NameFault where
  | blank
  /-- The name stands in the list before, first at a position. -/
  | repeated (first : Nat)
  deriving DecidableEq, Repr

/-- The fault as a defect of an entity's name. -/
def NameFault.defect : NameFault → Defect
  | blank => .emptyName .entity
  | repeated first => .duplicateName first

/-- The fault as a defect of a name inside a row. -/
def NameFault.innerDefect (role : NameRole) (name : String) : NameFault → Defect
  | blank => .emptyName role
  | repeated _ => .duplicateMember name

/-- A name at a position of a list has the fault. -/
inductive Faulty (names : List String) (index : Nat) (name : String) : NameFault → Prop where
  | blank (empty : Text.trim name.toList = []) : Faulty names index name .blank
  | repeated {first : Nat} (filled : Text.trim name.toList ≠ []) (earlier : first < index)
      (same : names[first]? = some name) (least : ∀ other < first, names[other]? ≠ some name) :
      Faulty names index name (.repeated first)

/-- The fault of a name at a position, if there is one. -/
def nameFault? (names : List String) (index : Nat) (name : String) : Option NameFault :=
  if allBlank name then some .blank else ((names.take index).idxOf? name).map .repeated

/-- The names of a list that are at fault, with their positions. -/
def nameFaults (names : List String) : List (Nat × String × NameFault) :=
  names.zipIdx.filterMap fun entry => (nameFault? names entry.2 entry.1).map fun fault => (entry.2, entry.1, fault)

/-- The first position of a name, found by look-ups. -/
theorem idxOf?_eq_some_iff_getElem? {names : List String} {first : Nat} {name : String} :
    names.idxOf? name = some first ↔ names[first]? = some name ∧ ∀ other < first, names[other]? ≠ some name := by
  rw [List.idxOf?_eq_some_iff]
  constructor
  · rintro ⟨inside, same, least⟩
    refine ⟨List.getElem?_eq_some_iff.mpr ⟨inside, same⟩, ?_⟩
    intro other before found
    exact least other before (List.getElem?_eq_some_iff.mp found).2
  · rintro ⟨found, least⟩
    obtain ⟨inside, same⟩ := List.getElem?_eq_some_iff.mp found
    refine ⟨inside, same, ?_⟩
    intro other before again
    exact least other before (List.getElem?_eq_some_iff.mpr ⟨before.trans inside, again⟩)

/-- The fault that is computed is the fault that a name has. -/
theorem nameFault?_eq_some_iff {names : List String} {index : Nat} {name : String} {fault : NameFault} :
    nameFault? names index name = some fault ↔ Faulty names index name fault := by
  rw [nameFault?]
  cases blank : allBlank name with
  | true =>
      have empty : Text.trim name.toList = [] := (Text.trim_eq_nil_iff _).mpr blank
      rw [if_pos rfl, Option.some.injEq]
      constructor
      · rintro rfl
        exact .blank empty
      · rintro (_ | ⟨filled, -⟩)
        · rfl
        · exact absurd empty filled
  | false =>
      have filled : Text.trim name.toList ≠ [] := (allBlank_eq_false_iff name).mp blank
      rw [if_neg Bool.false_ne_true, Option.map_eq_some_iff]
      constructor
      · rintro ⟨first, found, rfl⟩
        obtain ⟨same, least⟩ := idxOf?_eq_some_iff_getElem?.mp found
        have earlier : first < index := by
          by_contra late
          rw [List.getElem?_take_eq_none (Nat.le_of_not_lt late)] at same
          cases same
        refine .repeated filled earlier (List.getElem?_take_of_lt earlier ▸ same) fun other before => ?_
        exact List.getElem?_take_of_lt (before.trans earlier) ▸ least other before
      · rintro (empty | ⟨-, earlier, same, least⟩)
        · exact absurd empty filled
        · refine ⟨_, idxOf?_eq_some_iff_getElem?.mpr ⟨?_, fun other before => ?_⟩, rfl⟩
          · rwa [List.getElem?_take_of_lt earlier]
          · rw [List.getElem?_take_of_lt (before.trans earlier)]
            exact least other before

/-- The faults of a list are those of its names. -/
theorem mem_nameFaults_iff {names : List String} {index : Nat} {name : String} {fault : NameFault} :
    (index, name, fault) ∈ nameFaults names ↔ names[index]? = some name ∧ Faulty names index name fault := by
  simp only [nameFaults, List.mem_filterMap, Option.map_eq_some_iff, nameFault?_eq_some_iff, Prod.exists,
    List.mem_zipIdx_iff_getElem?]
  constructor
  · rintro ⟨_, _, found, _, faulty, ⟨⟩⟩
    exact ⟨found, faulty⟩
  · rintro ⟨found, faulty⟩
    exact ⟨name, index, found, fault, faulty, rfl⟩

/-- The faults of a list stand in the order of their positions. -/
theorem pairwise_nameFaults (names : List String) :
    (nameFaults names).Pairwise fun fault later => fault.1 < later.1 := by
  have positions : names.zipIdx.Pairwise fun entry later => entry.2 < later.2 := by
    rw [← List.pairwise_map, List.zipIdx_map_snd]
    exact List.pairwise_lt_range' 1
  refine List.Pairwise.filterMap _ ?_ positions
  intro entry later before fault found faultLater foundLater
  obtain ⟨_, -, rfl⟩ := Option.map_eq_some_iff.mp found
  obtain ⟨_, -, rfl⟩ := Option.map_eq_some_iff.mp foundLater
  exact before

/-! ## Names seen so far -/

/-- What has been seen of the names in front: of each name that is not blank, its first position. -/
def SeenIn (front : List String) (seen : List (String × Nat)) : Prop :=
  ∀ name, allBlank name = false → seen.lookup name = front.idxOf? name

section SeenIn

variable {front : List String} {seen : List (String × Nat)} {here : String}

theorem seenIn_nil : SeenIn [] [] := fun _ _ => rfl

theorem idxOf?_concat (front : List String) (here name : String) :
    (front ++ [here]).idxOf? name = (front.idxOf? name).or (if name == here then some front.length else none) := by
  rw [List.idxOf?, List.findIdx?_append, List.findIdx?_singleton, BEq.comm]
  split <;> simp

/-- A blank name is no name to be seen. -/
theorem SeenIn.concat_blank (known : SeenIn front seen) (blank : allBlank here = true) :
    SeenIn (front ++ [here]) seen := by
  intro name filled
  have other : (name == here) = false := by
    rw [beq_eq_false_iff_ne]
    rintro rfl
    exact Bool.false_ne_true (filled.symm.trans blank)
  rw [known name filled, idxOf?_concat, other, if_neg Bool.false_ne_true, Option.or_none]

/-- A name that was seen keeps its first position. -/
theorem SeenIn.concat_repeated {first : Nat} (known : SeenIn front seen) (was : seen.lookup here = some first) :
    SeenIn (front ++ [here]) seen := by
  intro name filled
  rw [idxOf?_concat, ← known name filled]
  cases same : name == here with
  | true => rw [eq_of_beq same, was, Option.some_or]
  | false => rw [if_neg Bool.false_ne_true, Option.or_none]

theorem SeenIn.concat_new (known : SeenIn front seen) (unseen : seen.lookup here = none) :
    SeenIn (front ++ [here]) ((here, front.length) :: seen) := by
  intro name filled
  rw [idxOf?_concat, ← known name filled, List.lookup_cons]
  cases same : name == here with
  | true => rw [eq_of_beq same, unseen, if_pos rfl, Option.none_or]
  | false => rw [if_neg Bool.false_ne_true, Option.or_none]

end SeenIn

/-- **The check of names finds their faults**, going on in a list of which it has seen the names in front. -/
theorem nameDefects_eq {front : List String} {seen : List (String × Nat)} (known : SeenIn front seen)
    (rest : List String) : nameDefects front.length seen rest = (rest.zipIdx front.length).filterMap fun entry =>
      (nameFault? (front ++ rest) entry.2 entry.1).map fun fault => (entry.2, entry.1, fault.defect) := by
  induction rest generalizing front seen with
  | nil => rfl
  | cons here rest ih =>
      have onward {seen : List (String × Nat)} (known : SeenIn (front ++ [here]) seen) := ih known
      simp only [List.length_append, List.length_singleton, List.append_assoc, List.singleton_append] at onward
      rw [nameDefects, List.zipIdx_cons, List.filterMap_cons]
      simp only [nameFault?, List.take_left] at onward ⊢
      cases blank : allBlank here with
      | true =>
          rw [if_pos rfl, if_pos rfl, onward (known.concat_blank blank)]
          rfl
      | false =>
          rw [if_neg Bool.false_ne_true, if_neg Bool.false_ne_true, ← known here blank]
          cases was : seen.lookup here with
          | some first =>
              simp only [onward (known.concat_repeated was)]
              rfl
          | none =>
              simp only [onward (known.concat_new was)]
              rfl

theorem nameDefects_eq_map (names : List String) : nameDefects 0 [] names =
    (nameFaults names).map fun entry => (entry.1, entry.2.1, entry.2.2.defect) := by
  rw [nameFaults, List.map_filterMap]
  refine (nameDefects_eq seenIn_nil names).trans (congrArg (List.filterMap · _) (funext fun entry => ?_))
  rw [Option.map_map]
  rfl

/-! ## Names inside a row -/

/-- The defect of a name inside a row for which a name of a collection would have the given one. -/
def Defect.inside (role : NameRole) (name : String) : Defect → Defect
  | .duplicateName _ => .duplicateMember name
  | _ => .emptyName role

theorem NameFault.inside_defect (role : NameRole) (name : String) (fault : NameFault) :
    fault.defect.inside role name = fault.innerDefect role name := by
  cases fault <;> rfl

theorem contains_map_fst (seen : List (String × Nat)) (name : String) :
    (seen.map Prod.fst).contains name = (seen.lookup name).isSome := by
  rw [Bool.eq_iff_iff, List.contains_iff_mem, List.lookup_isSome_iff, List.mem_map]
  exact exists_congr fun entry => and_congr_right fun _ => by rw [beq_iff_eq, eq_comm]

/-- The names inside a row are checked as those of a collection are. -/
theorem memberNameDefects_eq_map (role : NameRole) (index : Nat) (seen : List (String × Nat)) (names : List String) :
    memberNameDefects role (seen.map Prod.fst) names =
      (nameDefects index seen names).map fun entry => entry.2.2.inside role entry.2.1 := by
  fun_induction nameDefects index seen names with
  | case1 => rfl
  | case2 index seen name names blank ih =>
      rw [memberNameDefects, if_pos blank, ih]
      rfl
  | case3 index seen name names filled first was ih =>
      rw [memberNameDefects, if_neg filled, contains_map_fst, was, Option.isSome_some, if_pos rfl, ih]
      rfl
  | case4 index seen name names filled unseen ih =>
      rw [memberNameDefects, if_neg filled, contains_map_fst, unseen, Option.isSome_none,
        if_neg Bool.false_ne_true, ← ih]
      rfl

/-- The problems of a collection's names are their faults. -/
theorem nameProblems_eq (collection : Collection) (names : List String) : nameProblems collection names =
    (nameFaults names).map fun (index, name, fault) => ⟨⟨collection, index, name⟩, fault.defect⟩ := by
  rw [nameProblems, nameDefects_eq_map, List.map_map]
  rfl

/-- The defects of the names inside a row are their faults. -/
theorem memberNameDefects_eq (role : NameRole) (names : List String) : memberNameDefects role [] names =
    (nameFaults names).map fun (_, name, fault) => fault.innerDefect role name :=
  calc memberNameDefects role [] names
    _ = (nameDefects 0 [] names).map fun entry => entry.2.2.inside role entry.2.1 :=
      memberNameDefects_eq_map role 0 [] names
    _ = (nameFaults names).map fun entry => entry.2.2.defect.inside role entry.2.1 := by
      rw [nameDefects_eq_map, List.map_map]
      rfl
    _ = (nameFaults names).map fun (_, name, fault) => fault.innerDefect role name := by
      simp only [NameFault.inside_defect]

/-- **The checks of names report each fault once, in order, and nothing else.**  The faults of a list are a list of
their own, in which they stand in the order of their positions: a blank name, and a name that is not blank and
stands in the list before, with its first position. -/
theorem name_faults_reported (collection : Collection) (role : NameRole) (names : List String) :
    ∃ faults : List (Nat × String × NameFault),
      faults.Pairwise (fun fault later => fault.1 < later.1) ∧
      (∀ index name fault, (index, name, fault) ∈ faults ↔
        names[index]? = some name ∧ Faulty names index name fault) ∧
      nameProblems collection names = faults.map (fun (index, name, fault) =>
        ⟨⟨collection, index, name⟩, fault.defect⟩) ∧
      memberNameDefects role [] names = faults.map (fun (_, name, fault) => fault.innerDefect role name) ∧
      (nameProblems collection names = [] ↔ ProperNames names) ∧
      (memberNameDefects role [] names = [] ↔ ProperNames names) :=
  ⟨nameFaults names, pairwise_nameFaults names, fun _ _ _ => mem_nameFaults_iff, nameProblems_eq collection names,
    memberNameDefects_eq role names, nameProblems_eq_nil_iff collection names,
    memberNameDefects_eq_nil_iff role names⟩

end ApiBindings
