import ApiBindings.Binding.Emit
import ApiBindings.Proofs.ScriptText

/-!
# Declarations of a registry

The emitters ask how names resolve while they go through a registry.  With the registry's own answers each of
them comes to a list with one declaration for every entity, in the order of the registry, and a declaration
depends on its entity and on the types its spellings are emitted as (`typeText`).  This module says for each
emitter what its declarations are, so that what is proved of the emitted code need not go through the asking.
-/

namespace ApiBindings.Binding

set_option autoImplicit false

open Resolving

variable (registry : Registry)

/-! ## Types -/

/-- The type that a C spelling is emitted as. -/
def typeText (spelling : String) : String := (Types.emittedType registry spelling).eval registry.resolve

/-- What follows the parameters of a function of that return type. -/
def resultText (spelling : String) : String := (Types.returnSuffix registry spelling).eval registry.resolve

/-! ## Functions -/

/-- Parameters with the types that they are emitted with. -/
def declaredParams (params : List Param) : List EmittedParam :=
  params.map fun param => ⟨identifier param.name, typeText registry param.type⟩

theorem eval_emittedParams (params : List Param) :
    (emittedParams registry params).eval registry.resolve = declaredParams registry params := by
  rw [emittedParams, eval_mapM, declaredParams]
  simp only [eval_bind, eval_pure, typeText]

theorem eval_functionTypes :
    (functionTypes registry).eval registry.resolve = registry.funcPointers.map fun pointer =>
      ⟨identifier pointer.name, declaredParams registry pointer.params,
        resultText registry pointer.returnType⟩ := by
  rw [functionTypes, eval_mapM]
  simp only [functionType, eval_bind, eval_pure, eval_emittedParams, resultText]

theorem eval_signatureType (command : Command) :
    (signatureType registry command).eval registry.resolve =
      ⟨signatureName command.name, declaredParams registry command.params,
        resultText registry command.returnType⟩ := by
  simp only [signatureType, eval_bind, eval_pure, eval_emittedParams, resultText]

theorem eval_forwarder (command : Command) :
    (forwarder registry command).eval registry.resolve = {
      name := methodName command.name
      native := command.name
      params := declaredParams registry command.params
      result := resultText registry command.returnType
      slot := identifier command.name
      arguments := command.params.map fun param => identifier param.name } := by
  simp only [forwarder, eval_bind, eval_pure, eval_emittedParams, resultText]

theorem eval_commandTable :
    (commandTable registry).eval registry.resolve = {
      signatures := (boundCommands registry).map fun command =>
        (signatureType registry command).eval registry.resolve
      slots := (boundCommands registry).map commandSlot
      emptySlots := (boundCommands registry).map emptySlot
      loadedSlots := (boundCommands registry).map loadedSlot
      forwarders := (boundCommands registry).map fun command =>
        (forwarder registry command).eval registry.resolve } := by
  simp only [commandTable, eval_bind, eval_pure, eval_mapM]

/-! ## Structs and unions -/

/-- The fields of a struct or a union with the types that they are emitted with. -/
def declaredFields (fieldsOf : Member → String → List FieldDeclaration) (aggregate : Aggregate) :
    List FieldDeclaration :=
  aggregate.members.flatMap fun m => fieldsOf m (typeText registry m.type)

theorem eval_aggregateDeclaration (keyword : String)
    (fieldsOf : Member → String → List FieldDeclaration) (aggregate : Aggregate) :
    (aggregateDeclaration registry keyword fieldsOf aggregate).eval registry.resolve =
      ⟨keyword, identifier aggregate.name, declaredFields registry fieldsOf aggregate⟩ := by
  simp only [aggregateDeclaration, eval_bind, eval_pure, eval_mapM, declaredFields, List.flatMap,
    typeText]

/-- The declaration of a struct. -/
def structDeclaration (aggregate : Aggregate) : AggregateDeclaration :=
  (aggregateDeclaration registry "struct" structFields aggregate).eval registry.resolve

/-- The declaration of a union. -/
def unionDeclaration (aggregate : Aggregate) : AggregateDeclaration :=
  (aggregateDeclaration registry "union" unionFields aggregate).eval registry.resolve

theorem structDeclaration_eq (aggregate : Aggregate) : structDeclaration registry aggregate =
    ⟨"struct", identifier aggregate.name, declaredFields registry structFields aggregate⟩ :=
  eval_aggregateDeclaration registry "struct" structFields aggregate

theorem unionDeclaration_eq (aggregate : Aggregate) : unionDeclaration registry aggregate =
    ⟨"union", identifier aggregate.name, declaredFields registry unionFields aggregate⟩ :=
  eval_aggregateDeclaration registry "union" unionFields aggregate

theorem eval_structDeclarations :
    (structDeclarations registry).eval registry.resolve = registry.structs.map (structDeclaration registry) :=
  eval_mapM registry.resolve _ registry.structs

theorem eval_unionDeclarations :
    (unionDeclarations registry).eval registry.resolve = registry.unions.map (unionDeclaration registry) :=
  eval_mapM registry.resolve _ registry.unions

/-! ## Artifacts -/

theorem code_eq_text (artifact : Artifact) :
    code registry artifact = Script.text (.line (banner artifact) :: .blank ::
      (bodyScript registry artifact).eval registry.resolve) := by
  rw [code, artifactText, eval_bind, artifactScript, eval_bind]
  rfl

/-- The code of an artifact is its banner, a blank line, and what its declarations write. -/
theorem code_of_writes {artifact : Artifact} {text : String}
    (body : Script.Writes 0 ((bodyScript registry artifact).eval registry.resolve) text) :
    code registry artifact = banner artifact ++ "\n\n" ++ text := by
  have head := (Script.writes_line 0 (banner artifact)).append (Script.writes_blank 0)
  have breaks : Writer.lineText 0 (banner artifact) ++ "\n" = banner artifact ++ "\n\n" := by
    rw [Writer.lineText_zero, String.append_assoc]
    rfl
  rw [code_eq_text, ← breaks]
  exact (head.append body).text_eq

end ApiBindings.Binding
