import Typewright.Proofs.Printing

/-! What the files of artifacts name. Types, chains and members are rendered by one traversal and
referred to by another: what the first one prints is what the second one lists, and the items that
all files lean on. -/
namespace Typewright

namespace Base

mutual
def texts : Base → List String
  | builtin text | external text => [text]
  | applied _ arguments => textsAll arguments
  | generated _ | unknown | param _ => []

def textsAll : List (Wrapped Base) → List String
  | [] => []
  | argument :: rest => textsWrapped argument ++ textsAll rest

def textsWrapped : Wrapped Base → List String
  | ⟨base, _, _⟩ => base.texts
end

end Base

def Wrapped.texts (type : TargetType) : List String := type.base.texts

def Step.texts : Step → List String
  | .cast target .. | .parseEnum _ target .. => target.texts
  | .buildInput .. | .nonNull | .mapList .. => []

def Chain.texts (chain : Chain) : List String := chain.steps.flatMap Step.texts

def Body.texts : Body → List String
  | .buildRecord _ fields => fields.flatMap (·.chain.texts)
  | .buildConnection node .. => Wrapped.texts node

def paramTexts (params : List Param) : List String :=
  params.flatMap fun param => Wrapped.texts param.type

def Member.texts : Member → List String
  | .variant _ | .typeParam _ => []
  | .field _ type => Wrapped.texts type
  | .method _ params returns => paramTexts params ++ Wrapped.texts returns
  | .function ⟨params, _, body⟩ => paramTexts params ++ body.texts

def Artifact.texts (artifact : Artifact) : List String := artifact.members.flatMap Member.texts

theorem Artifact.field_mem {artifact : Artifact} {field : String × TargetType}
    (listed : field ∈ artifact.fields) : .field field.1 field.2 ∈ artifact.members := by
  obtain ⟨member, among, same⟩ := List.mem_filterMap.mp listed
  cases member with
  | field name type =>
    obtain rfl := Option.some.inj same
    exact among
  | variant _ | typeParam _ | method _ _ _ | function _ => contradiction

theorem Artifact.method_mem {artifact : Artifact} {method : String × List Param × TargetType}
    (listed : method ∈ artifact.methods) :
    .method method.1 method.2.1 method.2.2 ∈ artifact.members := by
  obtain ⟨member, among, same⟩ := List.mem_filterMap.mp listed
  cases member with
  | method name params returns =>
    obtain rfl := Option.some.inj same
    exact among
  | variant _ | field _ _ | typeParam _ | function _ => contradiction

namespace Source

namespace Support

variable {support : Support} {names : Set QualifiedName} {texts : Set String}
  {artifact : Artifact} {type : TargetType} {tree : TypeTree} {step : Step} {chain : Chain}

def Within (names : Set QualifiedName) (texts : Set String) (named : List QualifiedName)
    (written : List String) : Prop :=
  (∀ name ∈ named, name ∈ names) ∧ ∀ text ∈ written, text ∈ texts

theorem Within.mono {named others : List QualifiedName} {written more : List String}
    (within : Within names texts named written) (fewer : others ⊆ named) (less : more ⊆ written) :
    Within names texts others more :=
  ⟨fun name listed => within.1 name (fewer listed), fun text listed => within.2 text (less listed)⟩

theorem Within.of_flatMap {items : List α} {item : α} {named : α → List QualifiedName}
    {written : α → List String}
    (within : Within names texts (items.flatMap named) (items.flatMap written))
    (listed : item ∈ items) : Within names texts (named item) (written item) :=
  within.mono (fun _ inside => List.mem_flatMap.mpr ⟨item, listed, inside⟩)
    (fun _ inside => List.mem_flatMap.mpr ⟨item, listed, inside⟩)

theorem spelled_optionIf (nullable : Bool) (held : Spelled names texts tree.tokens) :
    Spelled names texts (optionIf nullable tree).tokens := by
  cases nullable with
  | true => exact .token rfl (.angles held)
  | false => exact held

theorem spelled_wrapAll (box : support.valueBox ∈ names) {inner : TypeTree}
    (held : Spelled names texts inner.tokens) {wrapping : List Wrapper}
    (made : support.wrapAll inner wrapping = .ok tree) : Spelled names texts tree.tokens := by
  induction wrapping generalizing tree with
  | nil =>
    obtain rfl := Except.ok.inj made
    exact held
  | cons wrapper rest ih =>
    obtain ⟨inside, built, made⟩ := bind_eq_ok_iff.mp made
    have spelled := ih built
    obtain ⟨kind, nullable⟩ := wrapper
    cases kind with
    | list =>
      obtain rfl := Except.ok.inj made
      exact spelled_optionIf nullable (.token rfl (.angles spelled))
    | box =>
      obtain ⟨path, spelt, made⟩ := bind_eq_ok_iff.mp made
      obtain rfl := Except.ok.inj made
      exact spelled_optionIf nullable
        (.append (.ofPath box spelt) (.angles (.item spelled .nil)))

theorem spelled_external {text : String} (made : baseTree.external text = .ok tree)
    (given : text ∈ texts) : Spelled names texts tree.tokens := by
  rw [baseTree.external] at made
  split at made
  next read =>
    obtain rfl := Except.ok.inj made
    exact .ofText given read
  next => contradiction

mutual
theorem spelled_baseTree (box : support.valueBox ∈ names) : (base : Base) → (tree : TypeTree) →
    support.baseTree base = .ok tree → Within names texts base.names base.texts →
    Spelled names texts tree.tokens
  | .builtin text, tree, made, within | .external text, tree, made, within => by
    rw [baseTree] at made
    exact spelled_external made (within.2 text (List.mem_singleton.mpr rfl))
  | .generated name, tree, made, within => by
    obtain ⟨path, spelt, made⟩ := bind_eq_ok_iff.mp made
    obtain rfl := Except.ok.inj made
    exact .append (.ofPath (within.1 name (List.mem_singleton.mpr rfl)) spelt) .nil
  | .unknown, tree, made, within => by
    obtain rfl := Except.ok.inj made
    exact .free rfl
  | .param name, tree, made, within => by
    obtain ⟨ident, spelt, made⟩ := bind_eq_ok_iff.mp made
    obtain rfl := Except.ok.inj made
    exact .token (Ident.isFree_token spelt) .nil
  | .applied name arguments, tree, made, within => by
    rw [baseTree] at made
    obtain ⟨path, spelt, made⟩ := bind_eq_ok_iff.mp made
    obtain ⟨trees, built, made⟩ := bind_eq_ok_iff.mp made
    obtain rfl := Except.ok.inj made
    have each := spelled_argumentTrees box arguments trees built
      (within.mono (List.subset_cons_self _ _) (List.Subset.refl _))
    rw [TypeTree.tokens]
    refine .append (.ofPath (within.1 name (.head _)) spelt) ?_
    split
    · exact .nil
    · exact .angles (.commas each)

theorem spelled_argumentTrees (box : support.valueBox ∈ names) :
    (arguments : List (Wrapped Base)) → (trees : List TypeTree) →
    support.argumentTrees arguments = .ok trees →
    Within names texts (Base.namesAll arguments) (Base.textsAll arguments) →
    ∀ tokens ∈ TypeTree.tokensAll trees, Spelled names texts tokens
  | [], trees, made, within => by
    obtain rfl := Except.ok.inj made
    exact fun _ listed => nomatch listed
  | argument :: rest, trees, made, within => by
    rw [argumentTrees] at made
    obtain ⟨first, built, made⟩ := bind_eq_ok_iff.mp made
    obtain ⟨later, following, made⟩ := bind_eq_ok_iff.mp made
    obtain rfl := Except.ok.inj made
    rw [TypeTree.tokensAll]
    refine List.forall_mem_cons.mpr ⟨?_, ?_⟩
    · exact spelled_wrappedTree box argument first built
        (within.mono (List.subset_append_left _ _) (List.subset_append_left _ _))
    · exact spelled_argumentTrees box rest later following
        (within.mono (List.subset_append_right _ _) (List.subset_append_right _ _))

theorem spelled_wrappedTree (box : support.valueBox ∈ names) : (type : Wrapped Base) →
    (tree : TypeTree) → support.wrappedTree type = .ok tree →
    Within names texts (Base.namesWrapped type) (Base.textsWrapped type) →
    Spelled names texts tree.tokens
  | ⟨base, nullable, wrapping⟩, tree, made, within => by
    rw [wrappedTree] at made
    obtain ⟨inner, built, made⟩ := bind_eq_ok_iff.mp made
    exact spelled_wrapAll box
      (spelled_optionIf nullable (spelled_baseTree box base inner built within)) made
end

theorem spelled_typeTree (box : support.valueBox ∈ names) (made : support.typeTree type = .ok tree)
    (within : Within names texts type.names type.texts) : Spelled names texts tree.tokens := by
  obtain ⟨base, nullable, wrapping⟩ := type
  exact spelled_wrappedTree box _ tree made within

theorem spelled_stepTree (box : support.valueBox ∈ names) {index : Nat} {step : Step}
    {tree : StepTree} (made : support.stepTree index step = .ok tree)
    (within : Within names texts step.names step.texts) : tree.IsSpelled names texts := by
  cases step with
  | nonNull | mapList _ _ =>
    rw [stepTree] at made
    split at made
    · contradiction
    · obtain rfl := Except.ok.inj made
      trivial
  | cast target _ _ | parseEnum _ target _ _ =>
    obtain ⟨type, built, made⟩ := bind_eq_ok_iff.mp made
    obtain rfl := Except.ok.inj made
    exact spelled_baseTree box target type built within
  | buildInput _ builder _ =>
    obtain ⟨path, spelt, made⟩ := bind_eq_ok_iff.mp made
    obtain rfl := Except.ok.inj made
    exact .ofPath (within.1 builder (.head _)) spelt

theorem spelled_stepTrees (box : support.valueBox ∈ names) {index : Nat} {steps : List Step}
    {trees : List StepTree} (made : support.stepTrees index steps = .ok trees)
    (within : Within names texts (steps.flatMap Step.names) (steps.flatMap Step.texts)) :
    ∀ tree ∈ trees, tree.IsSpelled names texts := by
  induction steps generalizing index trees with
  | nil =>
    obtain rfl := Except.ok.inj made
    exact fun _ listed => nomatch listed
  | cons step rest ih =>
    obtain ⟨first, built, made⟩ := bind_eq_ok_iff.mp made
    obtain ⟨later, following, made⟩ := bind_eq_ok_iff.mp made
    obtain rfl := Except.ok.inj made
    refine List.forall_mem_cons.mpr ⟨?_, ?_⟩
    · exact spelled_stepTree box built (within.of_flatMap (.head _))
    · exact ih following (within.mono (List.subset_append_right _ _) (List.subset_append_right _ _))

/-- The closures of a chain are those of its steps, of which the last is applied; the value box
stands around its result where the chain is boxed. -/
theorem chainTree_ok {key : String} {tree : ChainTree}
    (made : support.chainTree key chain = .ok tree) :
    support.stepTrees 0 chain.steps = .ok tree.steps ∧ tree.last = tree.steps.length - 1 ∧
      ((chain.presence = .plain ∧ tree.box = none) ∨
        (chain.presence = .boxed ∧
          ∃ path, ItemPath.ofName support.valueBox = .ok path ∧ tree.box = some path)) := by
  obtain ⟨steps, built, made⟩ := bind_eq_ok_iff.mp made
  cases empty : steps.isEmpty with
  | true =>
    simp only [empty, if_true] at made
    split at made <;> contradiction
  | false =>
    simp only [empty, Bool.false_eq_true, if_false] at made
    split at made
    next plain =>
      obtain rfl := Except.ok.inj made
      exact ⟨built, rfl, .inl ⟨plain, rfl⟩⟩
    next boxed =>
      obtain ⟨box, given, made⟩ := bind_eq_ok_iff.mp made
      obtain ⟨path, spelt, rfl⟩ := map_eq_ok_iff.mp given
      obtain rfl := Except.ok.inj made
      exact ⟨built, rfl, .inr ⟨boxed, path, spelt, rfl⟩⟩

theorem spelled_fieldTree (box : support.valueBox ∈ names) {error malformed : ItemPath}
    (ofError : Spelled names texts error.tokens) (known : Spelled names texts malformed.tokens)
    {field : FieldCoercion} {tree : FieldTree} (made : support.fieldTree field = .ok tree)
    (within : Within names texts field.chain.names field.chain.texts) :
    Spelled names texts (tree.tokens error malformed) := by
  obtain ⟨name, spelt, made⟩ := bind_eq_ok_iff.mp made
  obtain ⟨chain, built, made⟩ := bind_eq_ok_iff.mp made
  obtain rfl := Except.ok.inj made
  obtain ⟨steps, _, boxed⟩ := chainTree_ok built
  refine spelled_fieldTokens (Ident.isFree_token spelt) ofError known ?_ fun path held => ?_
  · exact spelled_stepTrees box steps
      (within.mono (List.subset_append_right _ _) (List.Subset.refl _))
  · obtain ⟨_, none⟩ | ⟨_, other, spelt, some⟩ := boxed
    · simp [none] at held
    · obtain rfl : other = path := Option.some.inj (some.symm.trans held)
      exact .ofPath box spelt

theorem spelled_memberTree (box : support.valueBox ∈ names) {member : String × TargetType}
    {tree : Ident × TypeTree} (made : support.memberTree member = .ok tree)
    (within : Within names texts member.2.names member.2.texts) :
    Spelled names texts (typed tree) := by
  obtain ⟨name, spelt, made⟩ := bind_eq_ok_iff.mp made
  obtain ⟨type, built, made⟩ := bind_eq_ok_iff.mp made
  obtain rfl := Except.ok.inj made
  exact spelled_typed (Ident.isFree_token spelt) (spelled_typeTree box built within)

theorem spelled_methodTree (box : support.valueBox ∈ names) {name : String} {params : List Param}
    {returns : TargetType} {tree : MethodTree}
    (made : support.methodTree name params returns = .ok tree)
    (within : Within names texts (Member.method name params returns).names
      (Member.method name params returns).texts) :
    Spelled names texts tree.tokens := by
  obtain ⟨ident, spelt, made⟩ := bind_eq_ok_iff.mp made
  obtain ⟨trees, each, made⟩ := bind_eq_ok_iff.mp made
  obtain ⟨type, built, made⟩ := bind_eq_ok_iff.mp made
  obtain rfl := Except.ok.inj made
  refine spelled_methodTokens (Ident.isFree_token spelt) (fun member listed => ?_) ?_
  · obtain ⟨param, among, made⟩ := (mapM_eq_ok_iff.mp each).exists_of_mem_right listed
    exact spelled_memberTree box made ((within.mono (List.subset_append_left _ _)
      (List.subset_append_left _ _)).of_flatMap among)
  · exact spelled_typeTree box built
      (within.mono (List.subset_append_right _ _) (List.subset_append_right _ _))

theorem Within.of_member (within : Within names texts artifact.references artifact.texts)
    {member : Member} (listed : member ∈ artifact.members) :
    Within names texts member.names member.texts :=
  within.mono (fun _ inside => mem_references.mpr ⟨member, listed, inside⟩)
    (fun _ inside => List.mem_flatMap.mpr ⟨member, listed, inside⟩)

variable {item : Item}

theorem spelled_enumItem (error : support.error ∈ names)
    (made : support.enumItem artifact = .ok item) : Spelled names texts item.tokens := by
  obtain ⟨name, spelt, made⟩ := bind_eq_ok_iff.mp made
  obtain ⟨path, found, made⟩ := bind_eq_ok_iff.mp made
  obtain ⟨variants, arms, made⟩ := bind_eq_ok_iff.mp made
  obtain rfl := Except.ok.inj made
  obtain ⟨_, each, _⟩ := variantTrees_ok arms
  exact spelled_enumTokens (Ident.isFree_token spelt)
    (fun variant listed => Ident.isFree_token (each variant listed)) (.ofPath error found)

theorem spelled_recordItem (box : support.valueBox ∈ names)
    (within : Within names texts artifact.references artifact.texts)
    (made : support.recordItem artifact = .ok item) : Spelled names texts item.tokens := by
  obtain ⟨name, spelt, made⟩ := bind_eq_ok_iff.mp made
  obtain ⟨generics, params, made⟩ := bind_eq_ok_iff.mp made
  obtain ⟨fields, each, made⟩ := bind_eq_ok_iff.mp made
  obtain rfl := Except.ok.inj made
  refine spelled_recordTokens (Ident.isFree_token spelt) (fun ident listed => ?_)
    (fun member listed => ?_)
  · obtain ⟨param, _, same⟩ := (mapM_eq_ok_iff.mp params).exists_of_mem_right listed
    exact Ident.isFree_token same
  · obtain ⟨field, among, same⟩ := (mapM_eq_ok_iff.mp each).exists_of_mem_right listed
    exact spelled_memberTree box same (within.of_member (Artifact.field_mem among))

theorem spelled_contractItem (box : support.valueBox ∈ names)
    (within : Within names texts artifact.references artifact.texts)
    (made : support.contractItem artifact = .ok item) : Spelled names texts item.tokens := by
  obtain ⟨name, spelt, made⟩ := bind_eq_ok_iff.mp made
  obtain ⟨methods, each, made⟩ := bind_eq_ok_iff.mp made
  obtain rfl := Except.ok.inj made
  refine spelled_contractTokens (Ident.isFree_token spelt) (fun tree listed => ?_)
  obtain ⟨method, among, same⟩ := (mapM_eq_ok_iff.mp each).exists_of_mem_right listed
  exact spelled_methodTree box same (within.of_member (Artifact.method_mem among))

/-- The item of a function, by what its body builds. The first parameter is the one that is read. -/
inductive FunctionItem (support : Support) (artifact : Artifact) : Item → Prop
  | parser {param : Param} {record : QualifiedName}
      (found : artifact.function? = some ⟨param :: rest, returns, .buildRecord record fields⟩)
      (spelt : Ident.ofName artifact.name.identifier = .ok name)
      (taken : Ident.ofField param.name = .ok input)
      (ofRecord : ItemPath.ofName record = .ok recordPath)
      (ofError : ItemPath.ofName support.error = .ok errorPath)
      (ofMalformed : ItemPath.ofName support.malformed = .ok malformedPath)
      (each : fields.mapM support.fieldTree = .ok trees) :
    FunctionItem support artifact (.parser name input recordPath errorPath malformedPath trees)
  | builder {param : Param} {edge connection pageInfo : QualifiedName}
      (found : artifact.function? =
        some ⟨param :: rest, returns, .buildConnection node edge connection pageInfo⟩)
      (spelt : Ident.ofName artifact.name.identifier = .ok name)
      (taken : Ident.ofField param.name = .ok page)
      (ofPage : support.typeTree param.type = .ok pageType)
      (ofNode : support.typeTree node = .ok nodeType)
      (ofEdge : ItemPath.ofName edge = .ok edgePath)
      (ofConnection : ItemPath.ofName connection = .ok connectionPath)
      (ofPageInfo : ItemPath.ofName pageInfo = .ok pageInfoPath) :
    FunctionItem support artifact
      (.builder name page pageType nodeType edgePath connectionPath pageInfoPath)

theorem functionItem_origin (made : support.functionItem artifact = .ok item) :
    FunctionItem support artifact item := by
  rw [functionItem] at made
  split at made
  next => contradiction
  next params returns body found =>
    obtain ⟨name, spelt, made⟩ := bind_eq_ok_iff.mp made
    cases params with
    | nil => cases body <;> exact nomatch made
    | cons param rest =>
      cases body with
      | buildRecord record fields =>
        obtain ⟨input, taken, made⟩ := bind_eq_ok_iff.mp made
        obtain ⟨path, ofRecord, made⟩ := bind_eq_ok_iff.mp made
        obtain ⟨error, ofError, made⟩ := bind_eq_ok_iff.mp made
        obtain ⟨malformed, ofMalformed, made⟩ := bind_eq_ok_iff.mp made
        obtain ⟨trees, each, made⟩ := bind_eq_ok_iff.mp made
        obtain rfl := Except.ok.inj made
        exact .parser found spelt taken ofRecord ofError ofMalformed each
      | buildConnection node edge connection pageInfo =>
        obtain ⟨page, taken, made⟩ := bind_eq_ok_iff.mp made
        obtain ⟨pageType, ofPage, made⟩ := bind_eq_ok_iff.mp made
        obtain ⟨nodeType, ofNode, made⟩ := bind_eq_ok_iff.mp made
        obtain ⟨edgePath, ofEdge, made⟩ := bind_eq_ok_iff.mp made
        obtain ⟨connectionPath, ofConnection, made⟩ := bind_eq_ok_iff.mp made
        obtain ⟨pageInfoPath, ofPageInfo, made⟩ := bind_eq_ok_iff.mp made
        by_cases fits : fitsReference node = true
        · rw [if_pos fits] at made
          obtain rfl := Except.ok.inj made
          exact .builder found spelt taken ofPage ofNode ofEdge ofConnection ofPageInfo
        · rw [if_neg fits] at made
          exact nomatch made

theorem spelled_functionItem (box : support.valueBox ∈ names) (error : support.error ∈ names)
    (malformed : support.malformed ∈ names)
    (within : Within names texts artifact.references artifact.texts)
    (made : FunctionItem support artifact item) : Spelled names texts item.tokens := by
  cases made with
  | @parser rest returns fields _ _ _ _ _ _ param record found spelt taken ofRecord ofError
      ofMalformed each =>
    have ofBody : Within names texts (Body.buildRecord record fields).names
        (Body.buildRecord record fields).texts :=
      (within.of_member (Artifact.function_mem found)).mono (List.subset_append_right _ _)
        (List.subset_append_right _ _)
    refine spelled_parserTokens (Ident.isFree_token spelt) (Ident.isFree_token taken)
      (.ofPath (ofBody.1 record (.head _)) ofRecord) (.ofPath error ofError)
      (.ofPath malformed ofMalformed) (fun tree listed => ?_)
    obtain ⟨field, among, made⟩ := (mapM_eq_ok_iff.mp each).exists_of_mem_right listed
    exact spelled_fieldTree box (.ofPath error ofError) (.ofPath malformed ofMalformed) made
      ((ofBody.mono (List.subset_cons_self _ _) (List.Subset.refl _)).of_flatMap among)
  | @builder rest returns node _ _ _ _ _ _ _ param edge connection pageInfo found spelt taken
      ofPage ofNode ofEdge ofConnection ofPageInfo =>
    have inside := within.of_member (Artifact.function_mem found)
    have ofParams : Within names texts (paramNames (param :: rest)) (paramTexts (param :: rest)) :=
      inside.mono (List.subset_append_of_subset_left _ (List.subset_append_left _ _))
        (List.subset_append_left _ _)
    have ofBody : Within names texts (node.names ++ [edge, connection, pageInfo]) node.texts :=
      inside.mono (List.subset_append_right _ _) (List.subset_append_right _ _)
    have part {name : QualifiedName} (listed : name ∈ [edge, connection, pageInfo]) :
        name ∈ names := ofBody.1 name (List.mem_append_right _ listed)
    refine spelled_builderTokens (Ident.isFree_token spelt) (Ident.isFree_token taken)
      (spelled_typeTree box ofPage (ofParams.of_flatMap (.head _)))
      (spelled_typeTree box ofNode (ofBody.mono (List.subset_append_left _ _) (List.Subset.refl _)))
      (.ofPath (part (by simp)) ofEdge) (.ofPath (part (by simp)) ofConnection)
      (.ofPath (part (by simp)) ofPageInfo)

/-- What the file of an artifact may name: what the artifact refers to, and the items of the runtime
namespace that files lean on. -/
def known (support : Support) (artifact : Artifact) : Set QualifiedName :=
  {name | name ∈ artifact.references} ∪ {support.valueBox, support.error, support.malformed}

/-- A file that is rendered names nothing but what it may name. -/
theorem spelled_render {file : File} (rendered : support.render artifact = .ok file) :
    Spelled (support.known artifact) {text | text ∈ artifact.texts} file.tokens := by
  have box : support.valueBox ∈ support.known artifact := .inr (.inl rfl)
  have error : support.error ∈ support.known artifact := .inr (.inr (.inl rfl))
  have malformed : support.malformed ∈ support.known artifact := .inr (.inr (.inr rfl))
  have within : Within (support.known artifact) {text | text ∈ artifact.texts}
      artifact.references artifact.texts :=
    ⟨fun _ listed => .inl listed, fun _ listed => listed⟩
  obtain ⟨documented, made, rfl⟩ := render_ok rendered
  obtain ⟨item, rfl, shaped⟩ := item_ok made
  refine spelled_documented ?_
  cases kind : artifact.kind with
  | enum =>
    rw [kind] at shaped
    exact spelled_enumItem error shaped
  | record =>
    rw [kind] at shaped
    exact spelled_recordItem box within shaped
  | interface =>
    rw [kind] at shaped
    exact spelled_contractItem box within shaped
  | function =>
    rw [kind] at shaped
    exact spelled_functionItem box error malformed within (functionItem_origin shaped)

end Support

end Source

end Typewright
