/-!
# Chains of names

An alias or a typedef leads from one name to the next, and so to a chain of names.  `Chain.fault?` follows
such a chain through a finite set of declared names and reports how it goes wrong, if it does: it reaches
a name that is not declared, or a name that it has already passed.

The walk ends because every step passes a declared name for the first time; `Chain.unpassed` counts those that
are left.
-/

namespace ApiBindings

set_option autoImplicit false

/-- How a chain of names goes wrong. -/
inductive ChainFault where
  | undeclared (name : String)
  | cycle (name : String)
  deriving DecidableEq, Repr, Inhabited

namespace Chain

/-- How many of the declared names have not been passed. -/
def unpassed (declared passed : List String) : Nat :=
  (declared.filter fun name => !passed.contains name).length

/-- Passing a declared name for the first time leaves fewer. -/
theorem unpassed_cons_lt {declared passed : List String} {name : String} (hd : name ∈ declared)
    (hp : name ∉ passed) : unpassed declared (name :: passed) < unpassed declared passed := by
  have sub : (declared.filter fun n => !(name :: passed).contains n) =
      (declared.filter fun n => !passed.contains n).filter fun n => !decide (n = name) := by
    rw [List.filter_filter]
    congr 1
    funext n
    simp [Bool.not_or]
  unfold unpassed
  rw [sub]
  refine List.length_filter_lt_length_iff_exists.2 ⟨name, ?_, by simp⟩
  simp [hd, hp]

/-- Follows a chain from `target` on, the names in `passed` having been passed. -/
def fault? (next : String → Option String) (declared passed : List String) (target : Option String) :
    Option ChainFault :=
  match target with
  | none => none
  | some name =>
    if _ : name ∈ declared then
      if _ : name ∈ passed then some (.cycle name)
      else fault? next declared (name :: passed) (next name)
    else some (.undeclared name)
  termination_by unpassed declared passed
  decreasing_by exact unpassed_cons_lt ‹_› ‹_›

end Chain

end ApiBindings
