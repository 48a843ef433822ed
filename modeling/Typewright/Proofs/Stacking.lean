import Mathlib.Data.List.Chain
import Typewright.Proofs.Rendering
import Typewright.Proofs.Terminal

/-! The steps of a chain stand on one another as the markers of its reference do, and build up the
type that the chain declares. So do the closures of the generated source. -/
namespace Typewright

/-- Whether the step takes null at its own position. A refusal of null has no position of its
own. -/
def Step.takesNull? : Step → Option Bool
  | .cast _ _ nullable | .parseEnum _ _ _ nullable | .buildInput _ _ nullable => some nullable
  | .mapList nullable _ => some nullable
  | .nonNull => none

/-- What may stand right on a step: a refusal of null, where the step takes none itself, or a list
that says of its elements whether such a refusal stands below. -/
inductive Step.Carries : Step → Step → Prop
  | nonNull (closed : below.takesNull? = some false) : Carries below .nonNull
  | mapList (elements : elementsNullable = (below != .nonNull)) :
    Carries below (.mapList nullable elementsNullable)

def Step.around (type : Wrapped β) : Step → Wrapped β
  | .cast _ _ nullable | .parseEnum _ _ _ nullable | .buildInput _ _ nullable =>
    ⟨type.base, nullable, []⟩
  | .mapList nullable _ => type.listOf nullable
  | .nonNull => type

def Presence.around (type : Wrapped β) : Presence → Wrapped β
  | .plain => type
  | .boxed => { type with wrapping := ⟨.box, true⟩ :: type.wrapping }

/-- The type that the steps build up around a base, from the terminal one outward. -/
def Chain.buildUp (chain : Chain) (base : β) : Wrapped β :=
  chain.presence.around (chain.steps.foldl Step.around (.required base))

namespace Source

/-- The type of what a closure yields, given the types of the closures before it and of what parse
functions build. A closure that calls none before it has no type. -/
def StepTree.type? (parsed : ItemPath → TypeTree) (before : List TypeTree) :
    StepTree → Option TypeTree
  | .nonNull inner => before[inner]?
  | .mapList inner nullable =>
    before[inner]?.map fun element => Support.optionIf nullable (.list element)
  | .cast target _ nullable | .parseEnum target nullable =>
    some (Support.optionIf nullable target)
  | .buildInput builder nullable => some (Support.optionIf nullable (parsed builder))

def closureTypes? (parsed : ItemPath → TypeTree) (before : List TypeTree) :
    List StepTree → Option (List TypeTree)
  | [] => some before
  | step :: rest => do closureTypes? parsed (before ++ [← step.type? parsed before]) rest

def ChainTree.type? (parsed : ItemPath → TypeTree) (tree : ChainTree) : Option TypeTree := do
  let last ← (← closureTypes? parsed [] tree.steps)[tree.last]?
  match tree.box with
  | none => return last
  | some box => return .option (.item box [last])

namespace Support

variable {support : Support} {parsed : ItemPath → TypeTree}

theorem typeTree_eq_ok_iff {type : TargetType} {tree : TypeTree} :
    support.typeTree type = .ok tree ↔ ∃ core, support.baseTree type.base = .ok core ∧
      support.wrapAll (optionIf type.nullable core) type.wrapping = .ok tree := by
  obtain ⟨base, nullable, wrapping⟩ := type
  rw [typeTree, wrappedTree, bind_eq_ok_iff]

/-- The closures of steps that wrap have the types that the steps build up, each from the type of
the closure before it. -/
theorem closureTypes_of_stepTrees {steps : List Step} {index : Nat} {trees : List StepTree}
    {before : List TypeTree} {core top : TypeTree} {type : TargetType}
    (wrap : ∀ step ∈ steps, step.isTerminal = false)
    (made : support.stepTrees index steps = .ok trees) (length : before.length = index)
    (last : before.getLast? = some top)
    (known : support.wrapAll (optionIf type.nullable core) type.wrapping = .ok top) :
    ∃ types top, closureTypes? parsed before trees = some types ∧
      types.length = index + trees.length ∧ types.getLast? = some top ∧
      support.wrapAll (optionIf (steps.foldl Step.around type).nullable core)
        (steps.foldl Step.around type).wrapping = .ok top := by
  induction steps generalizing index trees before top type with
  | nil =>
    obtain rfl := Except.ok.inj made
    exact ⟨before, top, rfl, length, last, known⟩
  | cons step rest ih =>
    obtain ⟨tree, first, made⟩ := bind_eq_ok_iff.mp made
    obtain ⟨others, later, made⟩ := bind_eq_ok_iff.mp made
    obtain rfl := Except.ok.inj made
    rw [List.forall_mem_cons] at wrap
    have called : before[index - 1]? = some top := by
      rw [← length, ← List.getLast?_eq_getElem?, last]
    obtain ⟨held, typed, known⟩ : ∃ held, tree.type? parsed before = some held ∧
        support.wrapAll (optionIf (Step.around type step).nullable core)
          (Step.around type step).wrapping = .ok held := by
      cases step with
      | nonNull =>
        rw [stepTree] at first
        split at first
        · contradiction
        · obtain rfl := Except.ok.inj first
          exact ⟨top, called, known⟩
      | mapList nullable elements =>
        rw [stepTree] at first
        split at first
        · contradiction
        · obtain rfl := Except.ok.inj first
          refine ⟨optionIf nullable (.list top), by simp [StepTree.type?, called], ?_⟩
          exact bind_eq_ok_iff.mpr ⟨top, known, rfl⟩
      | cast _ _ _ | parseEnum _ _ _ _ | buildInput _ _ _ => simp [Step.isTerminal] at wrap
    obtain ⟨types, top, all, count, last, known⟩ :=
      ih wrap.2 later (by simp [length]) (List.getLast?_concat (l := before) (a := held)) known
    refine ⟨types, top, ?_, ?_, last, known⟩
    · simpa [closureTypes?, typed] using all
    · rw [count, List.length_cons]
      omega

end Support

end Source

namespace Job

variable {job : Job} {granted : Set Key} {node : String} {policy : Option Policy} {type : TypeRef}

structure Stacked (type : TypeRef) (nullable : Bool) (steps : List Step) : Prop where
  length : steps.length = type.layers.length
  carried : steps.IsChain Step.Carries
  head : ∃ first rest, steps = first :: rest ∧ first.isTerminal = true ∧
    ∀ step ∈ rest, step.isTerminal = false
  /-- The outermost step is a refusal where the reference starts with one, and stands at the
  position otherwise. -/
  last : ∃ step, steps.getLast? = some step ∧
    if type.layers.head? = some .nonNull then step = .nonNull else step.takesNull? = some nullable
  builds : ∀ base : Base, steps.foldl Step.around (.required base) =
    if nullable then type.target base else (type.target base).demanded

theorem Stacked.single {name : String} {nullable : Bool} {step : Step}
    (made : (job.terminal node name nullable policy).Yields granted step) :
    Stacked (.named name) nullable [step] := by
  have terminal : step.isTerminal = true ∧ step.takesNull? = some nullable ∧
      ∀ base : Base, Step.around (.required base) step = ⟨base, nullable, []⟩ := by
    obtain ⟨_, _, ⟨_, _, rfl⟩ | ⟨_, _, rfl⟩ | ⟨_, rfl, _⟩⟩ := terminal_cases made
    all_goals exact ⟨rfl, rfl, fun _ => rfl⟩
  obtain ⟨converts, takes, around⟩ := terminal
  refine ⟨rfl, .singleton _, ⟨step, [], rfl, converts, by simp⟩, ⟨step, rfl, ?_⟩, fun base => ?_⟩
  · simpa [TypeRef.layers] using takes
  · rw [List.foldl_cons, List.foldl_nil, around]
    cases nullable <;> rfl

theorem Stacked.push {inner outer : TypeRef} {below : List Step} {step : Step} {layer : Layer}
    {within nullable : Bool} (stacked : Stacked inner within below)
    (layers : outer.layers = layer :: inner.layers) (wraps : step.isTerminal = false)
    (carries : ∀ top, below.getLast? = some top → top.Carries step)
    (stands : if layer = .nonNull then step = .nonNull else step.takesNull? = some nullable)
    (around : ∀ base : Base,
      Step.around (if within then inner.target base else (inner.target base).demanded) step =
        if nullable then outer.target base else (outer.target base).demanded) :
    Stacked outer nullable (below ++ [step]) := by
  obtain ⟨length, carried, ⟨first, rest, rfl, terminal, others⟩, _, builds⟩ := stacked
  refine ⟨?_, ?_, ⟨first, _, List.cons_append, terminal, ?_⟩,
    ⟨step, List.getLast?_concat, ?_⟩, fun base => ?_⟩
  · simp [layers, ← length]
  · refine List.isChain_append.mpr ⟨carried, .singleton _, fun top under other added => ?_⟩
    obtain rfl : step = other := Option.some.inj added
    exact carries top under
  · simpa [or_imp, forall_and, wraps] using others
  · simpa [layers] using stands
  · rw [List.foldl_append, builds, ← around]
    rfl

/-- The steps of the layers of a reference are stacked. Where markers collapse, the inner reference
has the same layers and the same target. -/
theorem stacked_of_stepsOf {nullable : Bool} {steps : List Step}
    (made : (stepsOf (fun name nullable => job.terminal node name nullable policy) nullable
      type.layers).Yields granted steps) : Stacked type nullable steps := by
  induction type generalizing nullable steps with
  | named name =>
    obtain ⟨below, none, step, rfl, terminal⟩ := yields_stepsOf_cons.mp made
    obtain rfl := Draft.yields_pure.mp none
    exact .single terminal
  | list element ih =>
    obtain ⟨below, inside, step, rfl, rfl⟩ := yields_stepsOf_cons.mp made
    refine (ih inside).push rfl rfl (fun top under => .mapList ?_) rfl fun base => ?_
    · obtain ⟨step, last, stands⟩ := (ih inside).last
      obtain rfl : step = top := Option.some.inj (last.symm.trans under)
      by_cases refused : element.layers.head? = some .nonNull
      · obtain rfl : step = .nonNull := by simpa [refused] using stands
        simp [refused]
      · have apart : step ≠ .nonNull := by
          rintro rfl
          simp [refused, Step.takesNull?] at stands
        exact (bne_iff_ne.mpr refused).trans (bne_iff_ne.mpr apart).symm
    · cases nullable <;> rfl
  | nonNull inner ih =>
    rcases TypeRef.layers_nonNull_cases inner with ⟨rest, found, same⟩ | ⟨apart, same⟩
    · obtain ⟨deeper, rfl⟩ := TypeRef.exists_of_layers_nonNull found
      rw [same, ← found] at made
      obtain ⟨length, carried, head, last, builds⟩ := ih made
      rw [found, ← same] at length last
      exact ⟨length, carried, head, last, by simpa [TypeRef.target] using builds⟩
    · rw [same] at made
      obtain ⟨below, inside, step, rfl, rfl⟩ := yields_stepsOf_cons.mp made
      refine (ih inside).push same rfl (fun top under => .nonNull ?_) rfl fun base => ?_
      · obtain ⟨step, last, stands⟩ := (ih inside).last
        obtain rfl : step = top := Option.some.inj (last.symm.trans under)
        rwa [if_neg apart] at stands
      · cases nullable <;> simp [Step.around, TypeRef.target]

section Closures

open Source Support

variable {support : Support} {parsed : ItemPath → TypeTree} {core : TypeTree} {base : Base}

/-- The closure of a step that converts the base yields the base, where parse functions do. -/
theorem Converts.closure_type {step : Step} {tree : StepTree} (converts : job.Converts base step)
    (made : support.stepTree 0 step = .ok tree) (known : support.baseTree base = .ok core)
    (parsers : ∀ input builder nullable path, step = .buildInput input builder nullable →
      ItemPath.ofName builder = .ok path → support.baseTree base = .ok (parsed path)) :
    tree.type? parsed [] = some (optionIf (Step.around (.required base) step).nullable core) := by
  cases converts with
  | cast | parse =>
    obtain ⟨target, same, made⟩ := bind_eq_ok_iff.mp made
    obtain rfl := Except.ok.inj made
    obtain rfl : core = target := Except.ok.inj (known.symm.trans same)
    rfl
  | build _ _ _ =>
    obtain ⟨path, spelt, made⟩ := bind_eq_ok_iff.mp made
    obtain rfl := Except.ok.inj made
    obtain rfl : core = parsed path :=
      Except.ok.inj (known.symm.trans (parsers _ _ _ _ rfl spelt))
    rfl

theorem chainTree_type {chain : Chain} {first : Step} {rest : List Step}
    (steps : chain.steps = first :: rest) (converts : job.Converts chain.target.base first)
    (wrap : ∀ step ∈ rest, step.isTerminal = false)
    (built : chain.buildUp chain.target.base = chain.target) {key : String} {tree : ChainTree}
    {declared : TypeTree} (rendered : support.chainTree key chain = .ok tree)
    (typed : support.typeTree chain.target = .ok declared)
    (parsers : ∀ input builder nullable path, first = .buildInput input builder nullable →
      ItemPath.ofName builder = .ok path → support.baseTree chain.target.base = .ok (parsed path)) :
    tree.type? parsed = some declared := by
  obtain ⟨made, last, boxed⟩ := chainTree_ok rendered
  obtain ⟨trees, index, box⟩ := tree
  simp only [steps] at made last boxed
  obtain ⟨head, front, made⟩ := bind_eq_ok_iff.mp made
  obtain ⟨others, later, made⟩ := bind_eq_ok_iff.mp made
  obtain rfl := Except.ok.inj made
  obtain ⟨core, ofBase, wrapped⟩ := typeTree_eq_ok_iff.mp typed
  have start := converts.closure_type front ofBase parsers
  have unwrapped : support.wrapAll
      (optionIf (Step.around (.required chain.target.base) first).nullable core)
      (Step.around (.required chain.target.base) first).wrapping =
        .ok (optionIf (Step.around (.required chain.target.base) first).nullable core) := by
    cases converts <;> rfl
  obtain ⟨types, top, all, count, outer, known⟩ :=
    closureTypes_of_stepTrees wrap later rfl (List.getLast?_singleton ..) unwrapped
  have closures : closureTypes? parsed [] (head :: others) = some types := by
    simpa [closureTypes?, start] using all
  have applied : types[index]? = some top := by
    rw [last, ← outer, List.getLast?_eq_getElem?, count, List.length_cons, Nat.add_comm]
  rw [← built, Chain.buildUp, steps, List.foldl_cons] at wrapped
  obtain ⟨plain, rfl⟩ | ⟨boxed, path, spelt, rfl⟩ := boxed
  · rw [plain, Presence.around, known] at wrapped
    obtain rfl := Except.ok.inj wrapped
    simp [ChainTree.type?, closures, applied]
  · rw [boxed, Presence.around] at wrapped
    obtain ⟨held, inside, wrapped⟩ := bind_eq_ok_iff.mp wrapped
    obtain ⟨other, same, wrapped⟩ := bind_eq_ok_iff.mp wrapped
    obtain rfl : top = held := Except.ok.inj (known.symm.trans inside)
    obtain rfl : path = other := Except.ok.inj (spelt.symm.trans same)
    obtain rfl := Except.ok.inj wrapped
    simp [ChainTree.type?, closures, applied, optionIf]

end Closures

/-- A synthesized chain is stacked on a step for the declared base, and builds up its target. -/
theorem synthesize_stacked {chain : Chain}
    (made : (job.synthesize node type policy).Yields granted chain) :
    Stacked type true chain.steps ∧ chain.buildUp chain.target.base = chain.target ∧
      ∃ first rest, chain.steps = first :: rest ∧ job.Converts chain.target.base first := by
  obtain ⟨target, resolved, steps, built, rfl⟩ := yields_synthesize.mp made
  obtain ⟨base, named, rfl⟩ := yields_resolve.mp resolved
  have stacked := stacked_of_stepsOf built
  refine ⟨stacked, ?_, ?_⟩
  · rw [Chain.buildUp, stacked.builds, if_pos rfl, base_boxFor, TypeRef.base_target]
    by_cases boxed : (policy.any (·.doubleNull) && (type.target base).isNullable) = true
    · simp only [boxFor, boxed, if_true]
      rfl
    · simp only [boxFor, if_neg boxed, TypeRef.isBoxed_target]
      rfl
  · obtain ⟨_, first, rest, rfl, terminal⟩ := head_of_stepsOf built
    refine ⟨first, rest, rfl, ?_⟩
    simpa using terminal_converts terminal named

/-- The steps of a synthesized chain go with the layers of its reference: one for each, a terminal
one first and no other, each on a step that carries it. Built up from the terminal step they give
the declared type, and so do the closures that are rendered for them, where the parse function that
the chain calls builds the declared base. -/
theorem synthesize_builds_target {ledger : Ledger} {chain : Chain}
    (synthesized : ((job.synthesize node type policy).settle job.settings ledger).1 = .ok chain) :
    chain.steps.length = type.layers.length ∧
    (∃ first rest, chain.steps = first :: rest ∧ first.isTerminal = true ∧
      ∀ step ∈ rest, step.isTerminal = false) ∧
    chain.steps.IsChain Step.Carries ∧
    chain.buildUp chain.target.base = chain.target ∧
    ∀ (support : Source.Support) (key : String) (tree : Source.ChainTree)
      (declared : Source.TypeTree) (parsed : Source.ItemPath → Source.TypeTree),
      support.chainTree key chain = .ok tree → support.typeTree chain.target = .ok declared →
      (∀ input builder nullable path, .buildInput input builder nullable ∈ chain.steps →
        Source.ItemPath.ofName builder = .ok path →
        support.baseTree chain.target.base = .ok (parsed path)) →
      tree.type? parsed = some declared := by
  obtain ⟨stacked, built, first, rest, steps, converts⟩ :=
    synthesize_stacked (Draft.yields_of_settle synthesized)
  obtain ⟨other, others, same, terminal, wrap⟩ := stacked.head
  obtain ⟨rfl, rfl⟩ : first = other ∧ rest = others := by simpa [steps] using same
  refine ⟨stacked.length, ⟨first, rest, steps, terminal, wrap⟩, stacked.carried, built, ?_⟩
  intro support key tree declared parsed rendered typed parsers
  refine chainTree_type steps converts wrap built rendered typed fun input builder nullable path => ?_
  rintro rfl
  exact parsers input builder nullable path (steps ▸ .head _)

/-- Filters that may be left out, in lists that may not hold null. -/
def optionalFilters : Chain where
  steps := [.buildInput "Filter" ⟨"generated.inputs", "parse_filter"⟩ false, .nonNull,
    .mapList true false]
  presence := .boxed
  target := ⟨.generated ⟨"generated.inputs", "Filter"⟩, false, [⟨.box, true⟩, ⟨.list, true⟩]⟩

theorem synthesize_builds_target_shop :
    ((shop.synthesize "Query.find(filters)" (.list (.nonNull (.nonNull (.named "Filter"))))
      (some { doubleNull := true })).settle shop.settings {}).1 = .ok optionalFilters ∧
    optionalFilters.steps.IsChain Step.Carries ∧
    optionalFilters.buildUp (.generated ⟨"generated.inputs", "Filter"⟩) =
      optionalFilters.target ∧
    ∃ tree record declared,
      (Source.Support.ofSettings shop.settings).chainTree "filters" optionalFilters = .ok tree ∧
      (Source.Support.ofSettings shop.settings).baseTree optionalFilters.target.base = .ok record ∧
      (Source.Support.ofSettings shop.settings).typeTree optionalFilters.target = .ok declared ∧
      tree.type? (fun _ => record) = some declared := by
  have made : ((shop.synthesize "Query.find(filters)" (.list (.nonNull (.nonNull (.named "Filter"))))
      (some { doubleNull := true })).settle shop.settings {}).1 = .ok optionalFilters := by
    decide +kernel
  obtain ⟨_, _, carried, built, closures⟩ := synthesize_builds_target made
  obtain ⟨tree, rendered⟩ := exists_ok_of_isOk (x :=
    (Source.Support.ofSettings shop.settings).chainTree "filters" optionalFilters)
    (by decide +kernel)
  obtain ⟨record, known⟩ := exists_ok_of_isOk (x :=
    (Source.Support.ofSettings shop.settings).baseTree optionalFilters.target.base)
    (by decide +kernel)
  obtain ⟨declared, typed⟩ := exists_ok_of_isOk (x :=
    (Source.Support.ofSettings shop.settings).typeTree optionalFilters.target) (by decide +kernel)
  exact ⟨made, carried, built, tree, record, declared, rendered, known, typed,
    closures _ _ _ _ _ rendered typed fun _ _ _ _ _ _ => known⟩

end Job

end Typewright
