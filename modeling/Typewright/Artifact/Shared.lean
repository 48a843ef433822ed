import Typewright.Artifact.Fields

/-! The artifacts that a whole run shares. -/
namespace Typewright.Job

def pageInfoArtifact (job : Job) : Draft Artifact := do
  let cursor : TargetType := .optional (.builtin "String")
  return ⟨← job.name (.shared .pageInfo), .record, "", [
    .field "hasNextPage" boolean,
    .field "hasPreviousPage" boolean,
    .field "startCursor" cursor,
    .field "endCursor" cursor]⟩

def valueBoxArtifact (job : Job) : Draft Artifact := do
  return ⟨← job.name (.shared .valueBox), .record, "", [
    .typeParam "T",
    .field "value" (.required (.param "T"))]⟩

def environmentArtifact (job : Job) : Draft Artifact := do
  let context : TargetType :=
    match job.settings.contextType with
    | some type => .required (.external type)
    | none => unit
  return ⟨← job.name (.shared .environment), .record, "", [
    .typeParam "S",
    .typeParam "A",
    .field "source" (.required (.param "S")),
    .field "args" (.required (.param "A")),
    .field "context" context]⟩

end Typewright.Job
