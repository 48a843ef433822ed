import Typewright.Artifact.Basic

/-! The generated items that an artifact names. -/
namespace Typewright

namespace Base

mutual
def names : Base → List QualifiedName
  | generated name => [name]
  | applied name arguments => name :: namesAll arguments
  | builtin _ | external _ | unknown | param _ => []

def namesAll : List (Wrapped Base) → List QualifiedName
  | [] => []
  | argument :: rest => namesWrapped argument ++ namesAll rest

def namesWrapped : Wrapped Base → List QualifiedName
  | ⟨base, _, _⟩ => base.names
end

end Base

def Wrapped.names (type : TargetType) : List QualifiedName := type.base.names

@[simp] theorem Base.namesWrapped_eq (type : TargetType) : namesWrapped type = Wrapped.names type := by
  cases type
  rfl

def Step.names : Step → List QualifiedName
  | .cast target .. => target.names
  | .parseEnum _ target .. => target.names
  | .buildInput _ builder _ => [builder]
  | .nonNull | .mapList .. => []

def Chain.names (chain : Chain) : List QualifiedName :=
  Wrapped.names chain.target ++ chain.steps.flatMap Step.names

def Body.names : Body → List QualifiedName
  | .buildRecord record fields => record :: fields.flatMap (·.chain.names)
  | .buildConnection node edge connection pageInfo =>
    Wrapped.names node ++ [edge, connection, pageInfo]

def paramNames (params : List Param) : List QualifiedName :=
  params.flatMap fun param => Wrapped.names param.type

def Member.names : Member → List QualifiedName
  | .variant _ | .typeParam _ => []
  | .field _ type => Wrapped.names type
  | .method _ params returns => paramNames params ++ Wrapped.names returns
  | .function ⟨params, returns, body⟩ => paramNames params ++ Wrapped.names returns ++ body.names

/-- Every generated item that the artifact names, in ascending order, each once. -/
def Artifact.references (artifact : Artifact) : List QualifiedName :=
  QualifiedName.sorted (artifact.members.flatMap Member.names)

end Typewright
