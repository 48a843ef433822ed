import Typewright.Proofs.Artifacts

/-! The groups of artifacts that make up a run. A group is what one generator makes for one node of
the schema, or one artifact that the run shares. -/
namespace Typewright.Job

/-- An artifact that the run shares. It stands alone and names nothing. -/
structure Shared (job : Job) (granted : Set Key) (role : Role) (artifact : Artifact) : Prop where
  common : role.isShared = true
  claimed : Key.shared role ∈ granted
  named : artifact.name = job.settings.compose (.shared role)
  kind : artifact.kind = .record
  origin : artifact.origin = ""
  silent : artifact.references = []
  plain : artifact.function? = none

/-- A group of artifacts. That of a field served in pages is `paged`: it needs the page info of the
run. -/
inductive Group (job : Job) (granted : Set Key) : (paged : Bool) → List Artifact → Prop
  | enum {name : String} (member : .enum name values directives ∈ job.schema.types)
      (made : (job.enumArtifact name values).Yields granted artifact) :
    Group job granted false [artifact]
  | input (member : .input record ∈ job.schema.types)
      (made : (job.inputArtifacts record).Yields granted artifacts) :
    Group job granted false artifacts
  | output (member : .output record ∈ job.schema.types)
      (made : (job.outputArtifact record).Yields granted artifact) :
    Group job granted false [artifact]
  | resolver (member : .output record ∈ job.schema.types) (listed : field ∈ record.fields)
      (made : (job.resolverArtifacts record.name field policy).Yields granted artifacts) :
    Group job granted false artifacts
  | connection (member : .output record ∈ job.schema.types) (listed : field ∈ record.fields)
      (made : (job.connectionArtifacts record.name field).Yields granted artifacts) :
    Group job granted true artifacts
  | interface (member : .interface record ∈ job.schema.types)
      (made : (job.interfaceArtifact record).Yields granted artifact) :
    Group job granted false [artifact]
  | shared {role : Role} (made : Shared job granted role artifact) : Group job granted false [artifact]

variable {job : Job} {granted : Set Key} {paged : Bool} {group artifacts : List Artifact}
  {artifact : Artifact} {name : QualifiedName} {container : String} {field : Field}
  {type : TargetType}

theorem pageInfoArtifact_origin (made : job.pageInfoArtifact.Yields granted artifact) :
    Shared job granted .pageInfo artifact := by
  obtain ⟨_, claimed, made⟩ := Draft.yields_bind.mp made
  obtain rfl := Draft.yields_pure.mp made
  exact ⟨rfl, (yields_jobName.mp claimed).2, (yields_jobName.mp claimed).1, rfl, rfl, rfl, rfl⟩

theorem valueBoxArtifact_origin (made : job.valueBoxArtifact.Yields granted artifact) :
    Shared job granted .valueBox artifact := by
  obtain ⟨_, claimed, made⟩ := Draft.yields_bind.mp made
  obtain rfl := Draft.yields_pure.mp made
  exact ⟨rfl, (yields_jobName.mp claimed).2, (yields_jobName.mp claimed).1, rfl, rfl, rfl, rfl⟩

theorem environmentArtifact_origin (made : job.environmentArtifact.Yields granted artifact) :
    Shared job granted .environment artifact := by
  obtain ⟨_, claimed, made⟩ := Draft.yields_bind.mp made
  obtain rfl := Draft.yields_pure.mp made
  refine ⟨rfl, (yields_jobName.mp claimed).2, (yields_jobName.mp claimed).1, rfl, rfl, ?_, rfl⟩
  cases job.settings.contextType <;> rfl

theorem names_of_arguments (made : (job.arguments container field).Yields granted (artifacts, type))
    (named : name ∈ type.names) : ∃ other ∈ artifacts, other.name = name := by
  rcases arguments_origin made with ⟨_, rfl, rfl⟩ | ⟨_, _, _, fields, _, rfl, rfl⟩
  · simp [unit, Base.names] at named
  · obtain rfl : name = _ := by simpa [Base.names] using named
    exact ⟨_, .head _, rfl⟩

theorem references_of_arguments
    (made : (job.arguments container field).Yields granted (artifacts, type))
    (among : artifact ∈ artifacts) (named : name ∈ artifact.references) :
    Referable job granted name ∨ ∃ other ∈ artifacts, other.name = name := by
  rcases arguments_origin made with ⟨_, rfl, _⟩ | ⟨_, _, _, fields, synthesized, rfl, _⟩
  · simp at among
  · rcases parsedRecord_references among named with rfl | ⟨coercion, listed, named⟩
    · exact .inr ⟨_, .head _, rfl⟩
    · obtain ⟨_, _, _, built⟩ := synthesized coercion listed
      exact .inl (synthesize_referable built name named)

/-- What a served field names, over and above the types of its result. -/
theorem references_of_served {arguments returns : TargetType} {parsed : List Artifact}
    {contract : Artifact} (taken : (job.arguments container field).Yields granted (parsed, arguments))
    (stated : (job.contract container field arguments returns).Yields granted contract)
    (among : artifact ∈ parsed ++ [contract]) (named : name ∈ artifact.references) :
    Referable job granted name ∨ (∃ other ∈ parsed, other.name = name) ∨
      name = job.settings.compose (.shared .environment) ∨ name ∈ returns.names := by
  rcases List.mem_append.mp among with ofParsed | ofContract
  · rcases references_of_arguments taken ofParsed named with elsewhere | here
    · exact .inl elsewhere
    · exact .inr (.inl here)
  · obtain rfl := List.mem_singleton.mp ofContract
    rcases contract_references stated named with elsewhere | shared | ofArguments | ofReturns
    · exact .inl elsewhere
    · exact .inr (.inr (.inl shared))
    · exact .inr (.inl (names_of_arguments taken ofArguments))
    · exact .inr (.inr (.inr ofReturns))

/-- Whatever an artifact names is a type of the schema, another artifact of its group, or an item
that the run shares. -/
theorem Group.references (made : Group job granted paged group) (among : artifact ∈ group)
    (named : name ∈ artifact.references) :
    Referable job granted name ∨ (∃ other ∈ group, other.name = name) ∨
      name = job.settings.compose (.shared .environment) ∨
      (paged = true ∧ name = job.settings.compose (.shared .pageInfo)) := by
  cases made with
  | enum _ made =>
    obtain rfl := List.mem_singleton.mp among
    obtain ⟨_, rfl⟩ := yields_enumArtifact.mp made
    simp [mem_references, Member.names] at named
  | input member made =>
    obtain ⟨_, fields, synthesized, rfl⟩ := inputArtifacts_origin made
    rcases parsedRecord_references among named with rfl | ⟨coercion, listed, named⟩
    · exact .inr (.inl ⟨_, .head _, rfl⟩)
    · obtain ⟨_, _, _, built⟩ := synthesized coercion listed
      exact .inl (synthesize_referable built name named)
  | output _ made =>
    obtain rfl := List.mem_singleton.mp among
    obtain ⟨_, members, each, rfl⟩ := outputArtifact_origin made
    obtain ⟨member, listed, named⟩ := mem_references.mp named
    obtain ⟨field, type, rfl, referable⟩ := each member listed
    exact .inl (referable name named)
  | interface _ made =>
    obtain rfl := List.mem_singleton.mp among
    obtain ⟨_, members, each, rfl⟩ := interfaceArtifact_origin made
    obtain ⟨member, listed, named⟩ := mem_references.mp named
    obtain ⟨field, type, rfl, referable⟩ := each member listed
    exact .inl (referable name (by simpa [Member.names, paramNames] using named))
  | resolver _ _ made =>
    obtain ⟨parsed, arguments, returns, contract, taken, referable, stated, rfl⟩ :=
      resolverArtifacts_origin made
    rcases references_of_served taken stated among named with
      elsewhere | ⟨other, member, same⟩ | shared | ofReturns
    · exact .inl elsewhere
    · exact .inr (.inl ⟨other, List.mem_append_left _ member, same⟩)
    · exact .inr (.inr (.inl shared))
    · exact .inl (referable name ofReturns)
  | connection _ _ made =>
    obtain ⟨element, referable, pages⟩ := connectionArtifacts_origin made
    obtain ⟨_, parsed, arguments, contract, taken, stated, rfl⟩ := pagesOf_origin pages
    rw [List.append_assoc] at among
    rcases List.mem_append.mp among with part | served
    · rcases connectionParts_references part named with ofElement | rfl | rfl | rfl | rfl
      · exact .inl (referable name ofElement)
      · exact .inr (.inl (by simp [connectionParts]))
      · exact .inr (.inl (by simp [connectionParts]))
      · exact .inr (.inl (by simp [connectionParts]))
      · exact .inr (.inr (.inr ⟨rfl, rfl⟩))
    · rcases references_of_served taken stated served named with
        elsewhere | ⟨other, member, same⟩ | shared | ofPage
      · exact .inl elsewhere
      · exact .inr (.inl ⟨other, by simp [member], same⟩)
      · exact .inr (.inr (.inl shared))
      · obtain rfl : name = _ := by simpa [Base.names] using ofPage
        exact .inr (.inl (by simp [connectionParts]))
  | shared made =>
    obtain rfl := List.mem_singleton.mp among
    simp [made.silent] at named

end Typewright.Job
