import Typewright.Policy

/-! What the directives of a node decide. A representation is read first, and what it replaces is not
selected; for anything else the flag that asks for every artifact can only add to the selected. -/
namespace Typewright.Policy

variable {node container : String} {directives : Directives} {definition : Definition} {field : Field}
  {generateAll selected : Bool} {policy : Policy}

def asks (directives : Directives) (generateAll : Bool) : Bool :=
  generateAll || directives.contains "generate" || directives.contains "resolver"

@[simp] theorem asks_true : asks directives true = true := by
  simp [asks]

theorem shouldGenerate_ok_iff :
    shouldGenerate node directives generateAll = .ok selected ↔
      ∃ representation, representationOf node directives = .ok representation ∧
        selected = (representation.isNone && asks directives generateAll) := by
  rw [shouldGenerate, asks]
  cases representationOf node directives with
  | error fault => simp [bind, Except.bind]
  | ok representation =>
    cases representation <;> simp [bind, Except.bind, pure, Except.pure, eq_comm]

/-- Whether a node is selected and what represents it hang on one reading of its directives. -/
theorem read_ok_iff {build : Bool → Option String → Policy} :
    (do
      let selected ← shouldGenerate node directives generateAll
      let representation ← representationOf node directives
      return build selected representation) = Except.ok policy ↔
      ∃ representation, representationOf node directives = .ok representation ∧
        policy = build (representation.isNone && asks directives generateAll) representation := by
  rw [shouldGenerate, asks]
  cases representationOf node directives with
  | error fault => simp [bind, Except.bind]
  | ok representation =>
    cases representation <;> simp [bind, Except.bind, pure, Except.pure, eq_comm]

theorem ofDefinition_ok_iff :
    ofDefinition definition generateAll = .ok policy ↔
      ∃ representation, representationOf definition.name definition.directives = .ok representation ∧
        policy = {
          generate := representation.isNone && asks definition.directives generateAll
          representation
          doubleNull := wantsDoubleNull definition.directives } :=
  read_ok_iff

theorem ofField_ok_iff :
    ofField container field generateAll = .ok policy ↔
      ∃ representation,
        representationOf (fieldPath container field.name) field.directives = .ok representation ∧
        policy = {
          generate := representation.isNone && asks field.directives generateAll
          representation
          doubleNull := wantsDoubleNull field.directives
          pagination := wantsPages field } :=
  read_ok_iff

theorem ofArgument_ok_iff {name : String} {argument : Argument} :
    ofArgument container name argument = .ok policy ↔
      ∃ representation, representationOf (argumentPath container name argument.name)
          argument.directives = .ok representation ∧
        policy = { representation, doubleNull := wantsDoubleNull argument.directives } := by
  rw [ofArgument]
  cases representationOf (argumentPath container name argument.name) argument.directives <;>
    simp [bind, Except.bind, pure, Except.pure, eq_comm]

theorem pagination_ofField (read : ofField container field generateAll = .ok policy) :
    policy.pagination = wantsPages field := by
  obtain ⟨representation, _, rfl⟩ := ofField_ok_iff.mp read
  rfl

/-- Only what no representation replaces is selected. -/
theorem representationOf_of_generate (read : ofDefinition definition generateAll = .ok policy)
    (selected : policy.generate = true) :
    representationOf definition.name definition.directives = .ok none := by
  obtain ⟨representation, represented, rfl⟩ := ofDefinition_ok_iff.mp read
  rw [Bool.and_eq_true, Option.isNone_iff_eq_none] at selected
  exact selected.1 ▸ represented

/-- With the flag set a definition is selected unless a representation replaces it. -/
theorem exists_ofDefinition
    (plain : representationOf definition.name definition.directives = .ok none) :
    ∃ policy, ofDefinition definition true = .ok policy ∧ policy.generate = true :=
  ⟨_, ofDefinition_ok_iff.mpr ⟨none, plain, rfl⟩, rfl⟩

/-- A field that is selected without the flag has the same policy with it. -/
theorem ofField_widened (read : ofField container field generateAll = .ok policy)
    (selected : policy.generate = true) : ofField container field true = .ok policy := by
  obtain ⟨representation, represented, rfl⟩ := ofField_ok_iff.mp read
  refine ofField_ok_iff.mpr ⟨representation, represented, ?_⟩
  rw [Bool.and_eq_true] at selected
  rw [selected.1, selected.2, asks_true]

end Typewright.Policy
