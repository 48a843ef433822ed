import Typewright.Artifact.Basic
import Typewright.Coercion.Synthesis

/-! The artifacts of single schema types. -/
namespace Typewright.Job

def enumArtifact (job : Job) (name : String) (values : List String) : Draft Artifact := do
  let enumName ← job.name (.typeName .enum name)
  return ⟨enumName, .enum, name, values.map .variant⟩

def fieldType (job : Job) (container : String) (field : Field) : Draft TargetType := do
  let policy ← Policy.ofField container field job.settings.generateAll
  job.resolve (fieldPath container field.name) field.type policy

/-- Every field counts, those that a resolver serves included: a resolver starts from them. -/
def outputArtifact (job : Job) (record : RecordType) : Draft Artifact := do
  let recordName ← job.name (.typeName .output record.name)
  let members ← record.fields.mapM fun field => do
    return Member.field field.name (← job.fieldType record.name field)
  return ⟨recordName, .record, record.name, members⟩

def interfaceArtifact (job : Job) (record : RecordType) : Draft Artifact := do
  let interfaceName ← job.name (.typeName .interface record.name)
  let members ← record.fields.mapM fun field => do
    return Member.method field.name [] (← job.fieldType record.name field)
  return ⟨interfaceName, .interface, record.name, members⟩

/-- A record whose fields have the types of their chains, and the function that fills it from the
raw value `parameter`. -/
def parsedRecord (recordName parserName : QualifiedName) (parameter origin : String)
    (fields : List FieldCoercion) : List Artifact :=
  [⟨recordName, .record, origin, fields.map fun field => .field field.key field.chain.target⟩,
   ⟨parserName, .function, origin,
    [.function ⟨[⟨parameter, .required .unknown⟩], .required (.generated recordName),
      .buildRecord recordName fields⟩]⟩]

def inputArtifacts (job : Job) (record : RecordType) : Draft (List Artifact) := do
  let recordName ← job.name (.typeName .input record.name)
  let parserName ← job.name (.ofType .inputParser record.name)
  let fields ← record.fields.mapM fun field => do
    let policy ← Policy.ofField record.name field job.settings.generateAll
    let chain ← job.synthesize (fieldPath record.name field.name) field.type policy
    return (⟨field.name, chain⟩ : FieldCoercion)
  return parsedRecord recordName parserName "value" record.name fields

end Typewright.Job
