import Typewright.Artifact.Types

/-! The artifacts of single fields: resolver contracts, argument records and the parts of a
paginated field. -/
namespace Typewright.Job

def unit : TargetType := .required (.builtin "()")

def boolean : TargetType := .required (.builtin "bool")

def arguments (job : Job) (container : String) (field : Field) :
    Draft (List Artifact × TargetType) := do
  if field.arguments.isEmpty then return ([], unit)
  let recordName ← job.name (.ofField .fieldArguments container field.name)
  let parserName ← job.name (.ofField .argumentParser container field.name)
  let fields ← field.arguments.mapM fun argument => do
    let policy ← Policy.ofArgument container field.name argument
    let node := argumentPath container field.name argument.name
    let chain ← job.synthesize node argument.type policy
    return (⟨argument.name, chain⟩ : FieldCoercion)
  return (parsedRecord recordName parserName "args" (fieldPath container field.name) fields,
    .required (.generated recordName))

def contract (job : Job) (container : String) (field : Field) (arguments returns : TargetType) :
    Draft Artifact := do
  let node := fieldPath container field.name
  let contractName ← job.name (.ofField .fieldResolver container field.name)
  let environment ← job.name (.shared .environment)
  let source ← job.resolveBase node container
  let environmentType : TargetType :=
    .required (.applied environment [.required source, arguments])
  return ⟨contractName, .interface, node, [.method "resolve" [⟨"env", environmentType⟩] returns]⟩

def resolverArtifacts (job : Job) (container : String) (field : Field) (policy : Policy) :
    Draft (List Artifact) := do
  let (artifacts, arguments) ← job.arguments container field
  let returns ← job.resolve (fieldPath container field.name) field.type policy
  return artifacts ++ [← job.contract container field arguments returns]

def connectionParts (page edge connection builder pageInfo : QualifiedName) (origin : String)
    (element : TargetType) : List Artifact :=
  [⟨page, .record, origin, [
    .field "data" (element.listOf false),
    .field "hasPreviousPage" boolean,
    .field "hasNextPage" boolean]⟩,
  ⟨edge, .record, origin, [
    .field "node" element,
    .field "cursor" (.required (.builtin "String"))]⟩,
  ⟨connection, .record, origin, [
    .field "edges" ((Wrapped.required (.generated edge)).listOf false),
    .field "pageInfo" (.required (.generated pageInfo))]⟩,
  ⟨builder, .function, origin, [
    .function ⟨[⟨"page", .required (.generated page)⟩], .required (.generated connection),
      .buildConnection element edge connection pageInfo⟩]⟩]

/-- The resolver of a paginated field returns the page. -/
def connectionArtifacts (job : Job) (container : String) (field : Field) :
    Draft (List Artifact) := do
  let node := fieldPath container field.name
  let list ← job.resolve node field.type none
  match list.element? with
  | none => Draft.fail (.badDirectiveArgument node "pagination" "-" "field is not a list")
  | some element =>
    let page ← job.name (.ofField .page container field.name)
    let edge ← job.name (.ofField .edge container field.name)
    let connection ← job.name (.ofField .connection container field.name)
    let builder ← job.name (.ofField .connectionBuilder container field.name)
    let pageInfo ← job.name (.shared .pageInfo)
    let parts := connectionParts page edge connection builder pageInfo node element
    let (artifacts, arguments) ← job.arguments container field
    return parts ++ artifacts ++
      [← job.contract container field arguments (.required (.generated page))]

end Typewright.Job
