import Typewright.Coercion.Chain
import Typewright.Target.Resolve

/-! The chain that converts a raw value into a schema type. -/
namespace Typewright.Job

/-- A configured target decides the shape of its scalar. -/
def scalarShape (job : Job) (name : String) : Base → Shape
  | .builtin type => if job.isRemapped name then .ofTarget type else .ofScalar name
  | _ => .ofScalar name

def terminal (job : Job) (node name : String) (nullable : Bool) (policy : Option Policy) :
    Draft Step := do
  match policy.bind (·.representation) with
  | some external => return .cast (.external external) .any nullable
  | none =>
    let target ← job.resolveBase node name
    match job.schema.get? name with
    | none | some (.scalar ..) => return .cast target (job.scalarShape name target) nullable
    | some (.enum name values _) => return .parseEnum name target values nullable
    | some (.input record) =>
      match ← Policy.representationOf record.name record.directives with
      | some _ => return .cast target .any nullable
      | none =>
        return .buildInput record.name (← job.name (.ofType .inputParser record.name)) nullable
    | some (.output _) | some (.interface _) | some (.union ..) =>
      return .cast target .any nullable

/-- One step for each layer, innermost first. A layer takes null unless a non-null marker stands
right outside it. -/
def stepsOf (terminal : String → Bool → Draft Step) :
    (nullable : Bool) → List Layer → Draft (List Step)
  | _, [] => pure []
  | nullable, layer :: inner => do
    let below ← stepsOf terminal (layer != .nonNull) inner
    match layer with
    | .named name => return below ++ [← terminal name nullable]
    | .nonNull => return below ++ [.nonNull]
    | .list => return below ++ [.mapList nullable (inner.head? != some .nonNull)]

def synthesize (job : Job) (node : String) (type : TypeRef) (policy : Option Policy) :
    Draft Chain := do
  let target ← job.resolve node type policy
  let steps ← stepsOf (fun name nullable => job.terminal node name nullable policy) true type.layers
  return ⟨steps, if target.isBoxed then .boxed else .plain, target⟩

end Typewright.Job
