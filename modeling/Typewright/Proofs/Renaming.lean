import Typewright.Proofs.Artifacts

/-! Qualified names replaced throughout what generators make. -/
namespace Typewright

variable {f : QualifiedName → QualifiedName}

namespace Base

mutual
def rename (f : QualifiedName → QualifiedName) : Base → Base
  | generated name => generated (f name)
  | applied name arguments => applied (f name) (renameAll f arguments)
  | builtin text => builtin text
  | external text => external text
  | unknown => unknown
  | param name => param name

def renameAll (f : QualifiedName → QualifiedName) : List (Wrapped Base) → List (Wrapped Base)
  | [] => []
  | argument :: rest => renameWrapped f argument :: renameAll f rest

def renameWrapped (f : QualifiedName → QualifiedName) : Wrapped Base → Wrapped Base
  | ⟨base, nullable, wrapping⟩ => ⟨base.rename f, nullable, wrapping⟩
end

mutual
theorem names_rename (f : QualifiedName → QualifiedName) :
    (base : Base) → (base.rename f).names = base.names.map f
  | generated _ | builtin _ | external _ | unknown | param _ => rfl
  | applied name arguments => by rw [rename, names, names, namesAll_rename f arguments]; rfl

theorem namesAll_rename (f : QualifiedName → QualifiedName) :
    (arguments : List (Wrapped Base)) → namesAll (renameAll f arguments) = (namesAll arguments).map f
  | [] => rfl
  | ⟨base, nullable, wrapping⟩ :: rest => by
    rw [renameAll, renameWrapped, namesAll, namesAll, namesWrapped, namesWrapped, names_rename f base,
      namesAll_rename f rest, List.map_append]
end

end Base

def Wrapped.rename (f : QualifiedName → QualifiedName) (type : TargetType) : TargetType :=
  { type with base := type.base.rename f }

@[simp] theorem Base.renameWrapped_eq (type : TargetType) :
    renameWrapped f type = Wrapped.rename f type := by
  cases type
  rfl

def Step.rename (f : QualifiedName → QualifiedName) : Step → Step
  | cast target shape nullable => cast (target.rename f) shape nullable
  | parseEnum enumName target values nullable => parseEnum enumName (target.rename f) values nullable
  | buildInput input builder nullable => buildInput input (f builder) nullable
  | nonNull => nonNull
  | mapList nullable elementsNullable => mapList nullable elementsNullable

def Chain.rename (f : QualifiedName → QualifiedName) (chain : Chain) : Chain :=
  ⟨chain.steps.map (Step.rename f), chain.presence, Wrapped.rename f chain.target⟩

def FieldCoercion.rename (f : QualifiedName → QualifiedName) (field : FieldCoercion) :
    FieldCoercion :=
  ⟨field.key, field.chain.rename f⟩

def Param.rename (f : QualifiedName → QualifiedName) (param : Param) : Param :=
  ⟨param.name, Wrapped.rename f param.type⟩

def Body.rename (f : QualifiedName → QualifiedName) : Body → Body
  | buildRecord record fields => buildRecord (f record) (fields.map (FieldCoercion.rename f))
  | buildConnection node edge connection pageInfo =>
    buildConnection (Wrapped.rename f node) (f edge) (f connection) (f pageInfo)

def Function.rename (f : QualifiedName → QualifiedName) (function : Function) : Function :=
  ⟨function.params.map (Param.rename f), Wrapped.rename f function.returns, function.body.rename f⟩

def Member.rename (f : QualifiedName → QualifiedName) : Member → Member
  | variant name => variant name
  | typeParam name => typeParam name
  | field name type => field name (Wrapped.rename f type)
  | method name params returns =>
    method name (params.map (Param.rename f)) (Wrapped.rename f returns)
  | function definition => function (definition.rename f)

def Artifact.rename (f : QualifiedName → QualifiedName) (artifact : Artifact) : Artifact :=
  ⟨f artifact.name, artifact.kind, artifact.origin, artifact.members.map (Member.rename f)⟩

mutual
theorem Base.rename_id_apply : (base : Base) → base.rename id = base
  | generated _ | builtin _ | external _ | unknown | param _ => rfl
  | applied name arguments => by rw [rename, renameAll_id arguments]; rfl

theorem Base.renameAll_id : (arguments : List (Wrapped Base)) → renameAll id arguments = arguments
  | [] => rfl
  | ⟨base, nullable, wrapping⟩ :: rest => by
    rw [renameAll, renameWrapped, rename_id_apply base, renameAll_id rest]
end

@[simp] theorem Base.rename_id : Base.rename id = id :=
  funext rename_id_apply

@[simp] theorem Wrapped.rename_id : Wrapped.rename id = id :=
  funext fun type => by simp [Wrapped.rename]

@[simp] theorem Step.rename_id : Step.rename id = id :=
  funext fun step => by cases step <;> simp [rename]

@[simp] theorem FieldCoercion.rename_id : FieldCoercion.rename id = id :=
  funext fun field => by simp [rename, Chain.rename]

@[simp] theorem Param.rename_id : Param.rename id = id :=
  funext fun param => by simp [rename]

@[simp] theorem Function.rename_id : Function.rename id = id :=
  funext fun ⟨params, returns, body⟩ => by cases body <;> simp [rename, Body.rename]

@[simp] theorem Member.rename_id : Member.rename id = id :=
  funext fun member => by cases member <;> simp [rename]

@[simp] theorem Artifact.rename_id : Artifact.rename id = id :=
  funext fun artifact => by simp [rename]

theorem names_renameType (f : QualifiedName → QualifiedName) (type : TargetType) :
    (Wrapped.rename f type).names = type.names.map f :=
  Base.names_rename f type.base

theorem Step.names_rename (f : QualifiedName → QualifiedName) (step : Step) :
    (step.rename f).names = step.names.map f := by
  cases step <;> simp [rename, names, Base.names_rename]

theorem Chain.names_rename (f : QualifiedName → QualifiedName) (chain : Chain) :
    (chain.rename f).names = chain.names.map f := by
  simp [rename, names, names_renameType, List.flatMap_map, List.map_flatMap, Step.names_rename]

theorem Body.names_rename (f : QualifiedName → QualifiedName) (body : Body) :
    (body.rename f).names = body.names.map f := by
  cases body <;> simp [rename, names, names_renameType, List.flatMap_map, List.map_flatMap,
    FieldCoercion.rename, Chain.names_rename]

theorem paramNames_rename (f : QualifiedName → QualifiedName) (params : List Param) :
    paramNames (params.map (Param.rename f)) = (paramNames params).map f := by
  simp [paramNames, Param.rename, names_renameType, List.flatMap_map, List.map_flatMap]

theorem Member.names_rename (f : QualifiedName → QualifiedName) (member : Member) :
    (member.rename f).names = member.names.map f := by
  cases member <;>
    simp [rename, names, Function.rename, names_renameType, paramNames_rename, Body.names_rename]

theorem mem_references_rename {artifact : Artifact} {name : QualifiedName} :
    name ∈ (artifact.rename f).references ↔ ∃ other ∈ artifact.references, f other = name := by
  simp only [mem_references]
  constructor
  · rintro ⟨_, listed, named⟩
    obtain ⟨member, inside, rfl⟩ := List.mem_map.mp listed
    rw [Member.names_rename] at named
    obtain ⟨other, among, rfl⟩ := List.mem_map.mp named
    exact ⟨other, ⟨member, inside, among⟩, rfl⟩
  · rintro ⟨other, ⟨member, inside, among⟩, rfl⟩
    refine ⟨_, List.mem_map_of_mem inside, ?_⟩
    rw [Member.names_rename]
    exact List.mem_map_of_mem among

@[simp] theorem rename_required (base : Base) :
    Wrapped.rename f (.required base) = .required (base.rename f) := rfl

theorem element?_rename (type : TargetType) :
    (Wrapped.rename f type).element? = type.element?.map (Wrapped.rename f) := by
  obtain ⟨base, nullable, _ | ⟨⟨_ | _, _⟩, inner⟩⟩ := type <;> rfl

theorem boxFor_rename (policy : Option Policy) (type : TargetType) :
    Job.boxFor policy (Wrapped.rename f type) = Wrapped.rename f (Job.boxFor policy type) := by
  have nullable : (Wrapped.rename f type).isNullable = type.isNullable := rfl
  rw [Job.boxFor, Job.boxFor, nullable]
  split <;> rfl

namespace Draft

theorem mapM_map {g : α → Draft β} {h : β → γ} {mapped : α → Draft γ} {xs : List α}
    (each : ∀ x ∈ xs, mapped x = h <$> g x) : xs.mapM mapped = List.map h <$> xs.mapM g := by
  induction xs with
  | nil => simp
  | cons x rest ih =>
    simp [List.mapM_cons, each x (.head _), ih fun y later => each y (.tail _ later)]

theorem when_map {draft : Draft α} {h : α → β} (wanted : Bool) :
    (h <$> draft).when wanted = List.map h <$> draft.when wanted := by
  cases wanted <;> simp [when]

end Draft

end Typewright
