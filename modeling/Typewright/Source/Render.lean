import Typewright.Artifact.Basic
import Typewright.Name.Ledger
import Typewright.Source.Tree
import Typewright.Source.TypeText

/-! From artifacts to items of generated source. -/
namespace Typewright.Source

structure Support where
  valueBox : QualifiedName
  error : QualifiedName
  malformed : QualifiedName

def Support.ofSettings (settings : Settings) : Support :=
  let valueBox := settings.compose (.shared .valueBox)
  ⟨valueBox, ⟨valueBox.namespacePath, "CoercionError"⟩, ⟨valueBox.namespacePath, "malformed"⟩⟩

namespace Support

def optionIf (nullable : Bool) (type : TypeTree) : TypeTree :=
  if nullable then .option type else type

/-- The wrappers around a type, the innermost of them looked at first. -/
def wrapAll (support : Support) (type : TypeTree) : List Wrapper → Except RenderFault TypeTree
  | [] => .ok type
  | wrapper :: inner => do
    let held ← support.wrapAll type inner
    match wrapper.kind with
    | .list => return optionIf wrapper.nullable (.list held)
    | .box => return optionIf wrapper.nullable (.item (← ItemPath.ofName support.valueBox) [held])

mutual
def baseTree (support : Support) : Base → Except RenderFault TypeTree
  | .builtin text => external text
  | .external text => external text
  | .generated name => return .item (← ItemPath.ofName name) []
  | .unknown => .ok .anyValue
  | .param name => return .param (← Ident.ofName name)
  | .applied name arguments => do
    let path ← ItemPath.ofName name
    return .item path (← support.argumentTrees arguments)
where
  external (text : String) : Except RenderFault TypeTree :=
    match typeTokens? text with
    | some tokens => .ok (.verbatim tokens)
    | none => .error (.badType text)

def argumentTrees (support : Support) : List (Wrapped Base) → Except RenderFault (List TypeTree)
  | [] => .ok []
  | argument :: rest => do
    let first ← support.wrappedTree argument
    return first :: (← support.argumentTrees rest)

def wrappedTree (support : Support) : Wrapped Base → Except RenderFault TypeTree
  | ⟨base, nullable, wrapping⟩ => do
    support.wrapAll (optionIf nullable (← support.baseTree base)) wrapping
end

def typeTree (support : Support) (type : TargetType) : Except RenderFault TypeTree :=
  support.wrappedTree type

/-- The closure of step `index`; a wrapper needs a step before it. -/
def stepTree (support : Support) (index : Nat) : Step → Except RenderFault StepTree
  | .nonNull => if index = 0 then .error .bareWrapper else .ok (.nonNull (index - 1))
  | .mapList nullable _ =>
    if index = 0 then .error .bareWrapper else .ok (.mapList (index - 1) nullable)
  | .cast target shape nullable => return .cast (← support.baseTree target) shape nullable
  | .parseEnum _ target _ nullable => return .parseEnum (← support.baseTree target) nullable
  | .buildInput _ builder nullable => return .buildInput (← ItemPath.ofName builder) nullable

def stepTrees (support : Support) (index : Nat) : List Step → Except RenderFault (List StepTree)
  | [] => .ok []
  | step :: rest => do
    let first ← support.stepTree index step
    return first :: (← support.stepTrees (index + 1) rest)

def chainTree (support : Support) (key : String) (chain : Chain) :
    Except RenderFault ChainTree := do
  let steps ← support.stepTrees 0 chain.steps
  if steps.isEmpty then throw (.emptyChain key)
  let box ←
    match chain.presence with
    | .plain => pure none
    | .boxed => some <$> ItemPath.ofName support.valueBox
  return ⟨steps, steps.length - 1, box⟩

def fieldTree (support : Support) (field : FieldCoercion) : Except RenderFault FieldTree := do
  let name ← Ident.ofField field.key
  return ⟨name, field.key, ← support.chainTree field.key field.chain⟩

def memberTree (support : Support) (member : String × TargetType) :
    Except RenderFault (Ident × TypeTree) := do
  let name ← Ident.ofField member.1
  return (name, ← support.typeTree member.2)

/-- The variant of an enum value: in camel case, and without the name of the enum where values
bear it and a letter follows. -/
def variantName (enumName value : String) : String :=
  let lead := (Text.shoutyCase enumName ++ "_").toList
  let cs := value.toList
  let rest := cs.drop lead.length
  if lead.isPrefixOf cs && (rest.head?.any Char.isAlpha) then
    Text.upperCamel (String.ofList rest)
  else Text.upperCamel value

def variantTrees (enumName : String) :
    (seen : List String) → List String → Except RenderFault (List (Ident × String))
  | _, [] => .ok []
  | seen, value :: rest => do
    let variant := variantName enumName value
    if variant ∈ seen then throw (.sameVariant variant)
    let ident ← Ident.ofName variant
    return (ident, value) :: (← variantTrees enumName (variant :: seen) rest)

def enumItem (support : Support) (artifact : Artifact) : Except RenderFault Item := do
  let name ← Ident.ofName artifact.name.identifier
  let error ← ItemPath.ofName support.error
  let variants ← variantTrees artifact.origin [] artifact.variants
  return .enum name artifact.origin variants error

def recordItem (support : Support) (artifact : Artifact) : Except RenderFault Item := do
  let name ← Ident.ofName artifact.name.identifier
  let generics ← artifact.typeParams.mapM Ident.ofName
  return .record name generics (← artifact.fields.mapM support.memberTree)

def methodTree (support : Support) (name : String) (params : List Param) (returns : TargetType) :
    Except RenderFault MethodTree := do
  let name ← Ident.ofField name
  let params ← params.mapM fun param => support.memberTree (param.name, param.type)
  return ⟨name, params, ← support.typeTree returns⟩

def contractItem (support : Support) (artifact : Artifact) : Except RenderFault Item := do
  let name ← Ident.ofName artifact.name.identifier
  return .contract name
    (← artifact.methods.mapM fun (name, params, returns) => support.methodTree name params returns)

/-- Whether the type may follow an ampersand; bounds at the top of a type may not. -/
def fitsReference (type : TargetType) : Bool :=
  match type with
  | ⟨.builtin text, false, []⟩ | ⟨.external text, false, []⟩ => mayBeBorrowed text
  | _ => true

def functionItem (support : Support) (artifact : Artifact) : Except RenderFault Item := do
  match artifact.function? with
  | none => throw .noBody
  | some ⟨params, _, body⟩ =>
    let name ← Ident.ofName artifact.name.identifier
    match body, params with
    | .buildRecord .., [] => throw .noInputParameter
    | .buildRecord record fields, param :: _ =>
      let input ← Ident.ofField param.name
      let record ← ItemPath.ofName record
      let error ← ItemPath.ofName support.error
      let malformed ← ItemPath.ofName support.malformed
      return .parser name input record error malformed (← fields.mapM support.fieldTree)
    | .buildConnection .., [] => throw .noPageParameter
    | .buildConnection node edge connection pageInfo, param :: _ =>
      let page ← Ident.ofField param.name
      let pageType ← support.typeTree param.type
      let nodeType ← support.typeTree node
      let edge ← ItemPath.ofName edge
      let connection ← ItemPath.ofName connection
      let pageInfo ← ItemPath.ofName pageInfo
      if fitsReference node then
        return .builder name page pageType nodeType edge connection pageInfo
      else throw .unreadable

def item (support : Support) (artifact : Artifact) : Except RenderFault Documented := do
  let item ←
    match artifact.kind with
    | .enum => support.enumItem artifact
    | .record => support.recordItem artifact
    | .interface => support.contractItem artifact
    | .function => support.functionItem artifact
  return ⟨artifact.origin, item⟩

end Support

end Typewright.Source
