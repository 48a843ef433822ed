import Typewright.Artifact.Emission
import Typewright.Proofs.ReferenceConversion

/-! Where resolved bases come from. A base is read off the definition of its name, through unions if
need be, and a chain names nothing but its base and the parse function of an input record. -/
namespace Typewright

/-- A base that is shared was shared before, or a member has it. -/
theorem sharedBase_origin {granted : Set Key} {resolve : String → Draft Base} {shared : Option Base}
    {members : List String} {base : Base}
    (made : (sharedBase resolve shared members).Yields granted (some base)) :
    shared = some base ∨ ∃ member ∈ members, (resolve member).Yields granted base := by
  induction members generalizing shared with
  | nil =>
    rw [sharedBase, Draft.yields_pure] at made
    exact .inl made.symm
  | cons member rest ih =>
    rw [sharedBase] at made
    obtain ⟨first, resolved, made⟩ := Draft.yields_bind.mp made
    cases shared with
    | none =>
      rcases ih made with same | ⟨other, later, found⟩
      · exact .inr ⟨member, .head _, Option.some.inj same ▸ resolved⟩
      · exact .inr ⟨other, .tail _ later, found⟩
    | some common =>
      simp only at made
      split at made
      · rcases ih made with same | ⟨other, later, found⟩
        · exact .inl same
        · exact .inr ⟨other, .tail _ later, found⟩
      · simp at made

namespace Job

/-- The bases that a definition can stand for. -/
inductive Resolves (job : Job) (granted : Set Key) : Definition → Base → Prop
  | external (represented : Policy.representationOf definition.name definition.directives =
      .ok (some text)) : Resolves job granted definition (.external text)
  | unknown (apart : isOnDemand definition = false) : Resolves job granted definition .unknown
  | enum {name : String} (own : Policy.representationOf name directives = .ok none)
      (claimed : Key.typeName .enum name ∈ granted) :
    Resolves job granted (.enum name values directives)
      (.generated (job.settings.compose (.typeName .enum name)))
  | input (own : Policy.representationOf record.name record.directives = .ok none)
      (claimed : Key.typeName .input record.name ∈ granted) :
    Resolves job granted (.input record)
      (.generated (job.settings.compose (.typeName .input record.name)))
  | output (selected : Policy.shouldGenerate record.name record.directives
      job.settings.generateAll = .ok true) :
    Resolves job granted (.output record)
      (.generated (job.settings.compose (.typeName .output record.name)))
  | union {name : String} (listed : member ∈ members) (found : job.schema.get? member = some definition)
      (resolved : Resolves job granted definition base) :
    Resolves job granted (.union name members directives) base

variable {job : Job} {granted : Set Key} {node name : String} {policy : Option Policy} {base : Base}

theorem yields_generated {kind : Kind} :
    (job.generated kind name).Yields granted base ↔
      base = .generated (job.settings.compose (.typeName kind name)) ∧
        Key.typeName kind name ∈ granted := by
  simp only [generated, Job.name, Draft.yields_bind, Draft.yields_name, Draft.yields_pure]
  constructor
  · rintro ⟨_, ⟨rfl, claimed⟩, rfl⟩
    exact ⟨rfl, claimed⟩
  · rintro ⟨rfl, claimed⟩
    exact ⟨_, ⟨rfl, claimed⟩, rfl⟩

theorem yields_lookup {definition : Definition} :
    (liftM (job.schema.lookup node name) : Draft Definition).Yields granted definition ↔
      job.schema.get? name = some definition := by
  rw [Draft.yields_lift, Schema.lookup]
  split <;> simp [*]

theorem resolves_of_yields {nested : Nat} {definition : Definition}
    (made : (job.baseOfDefinition nested definition).Yields granted base) :
    Resolves job granted definition base := by
  induction nested using Nat.strongRecOn generalizing definition base with
  | _ nested ih =>
    rw [baseOfDefinition.eq_def] at made
    obtain ⟨representation, represented, made⟩ := Draft.yields_bind.mp made
    rw [Draft.yields_lift] at represented
    cases representation with
    | some text =>
      obtain rfl := Draft.yields_pure.mp made
      exact .external represented
    | none =>
      cases definition with
      | scalar _ _ | interface _ =>
        obtain rfl := Draft.yields_pure.mp made
        exact .unknown rfl
      | enum name values _ =>
        obtain ⟨rfl, claimed⟩ := yields_generated.mp made
        exact .enum represented claimed
      | input record =>
        obtain ⟨rfl, claimed⟩ := yields_generated.mp made
        exact .input represented claimed
      | output record =>
        obtain ⟨selected, decided, made⟩ := Draft.yields_bind.mp made
        rw [Draft.yields_lift] at decided
        cases selected with
        | true =>
          obtain ⟨rfl, _⟩ := yields_generated.mp made
          exact .output decided
        | false =>
          obtain rfl := Draft.yields_pure.mp made
          exact .unknown rfl
      | union name members _ =>
        cases nested with
        | zero =>
          obtain rfl := Draft.yields_pure.mp made
          exact .unknown rfl
        | succ nested =>
          obtain ⟨shared, agreed, made⟩ := Draft.yields_bind.mp made
          obtain rfl := Draft.yields_pure.mp made
          cases shared with
          | none => exact .unknown rfl
          | some base =>
            rcases sharedBase_origin agreed with same | ⟨member, listed, resolved⟩
            · contradiction
            · obtain ⟨opened, found, resolved⟩ := Draft.yields_bind.mp resolved
              exact .union listed (yields_lookup.mp found) (ih nested (by omega) resolved)

def scalarTarget? (job : Job) (name : String) : Option String :=
  (job.settings.scalars.get? name).or (builtinScalar? name)

/-- A scalar target goes before the definition of the name. -/
theorem yields_resolveBase :
    (job.resolveBase node name).Yields granted base ↔
      match job.scalarTarget? name with
      | some text => base = .builtin text
      | none => ∃ definition, job.schema.get? name = some definition ∧
          (job.resolveDefinition definition).Yields granted base := by
  rw [resolveBase, scalarTarget?]
  cases job.settings.scalars.get? name with
  | some text => simp
  | none =>
    cases builtinScalar? name with
    | some text => simp
    | none => simp only [Option.or_none, Draft.yields_bind, yields_lookup]

/-- A resolved base is a configured or built-in scalar, or the definition of the name stands
for it. -/
theorem resolveBase_cases (made : (job.resolveBase node name).Yields granted base) :
    (∃ text, job.scalarTarget? name = some text ∧ base = .builtin text) ∨
      ∃ definition, job.schema.get? name = some definition ∧
        Resolves job granted definition base := by
  rw [yields_resolveBase] at made
  cases known : job.scalarTarget? name with
  | some text =>
    rw [known] at made
    exact .inl ⟨text, rfl, made⟩
  | none =>
    rw [known] at made
    obtain ⟨definition, found, resolved⟩ := made
    exact .inr ⟨definition, found, resolves_of_yields resolved⟩

def ownKeys : Definition → List Key
  | .enum name .. => [.typeName .enum name]
  | .input record => [.typeName .input record.name, .ofType .inputParser record.name]
  | _ => []

theorem ownNames_eq (job : Job) (definition : Definition) :
    job.ownNames definition = (ownKeys definition).map job.settings.compose := by
  cases definition <;> rfl

/-- The names under which generated types are referred to from elsewhere. A represented type has
none. -/
inductive Referable (job : Job) (granted : Set Key) : QualifiedName → Prop
  | onDemand {key : Key} (member : definition ∈ job.onDemand) (own : key ∈ ownKeys definition)
      (plain : Policy.representationOf definition.name definition.directives = .ok none)
      (claimed : key ∈ granted) : Referable job granted (job.settings.compose key)
  | output (member : .output record ∈ job.schema.types)
      (selected : Policy.shouldGenerate record.name record.directives
        job.settings.generateAll = .ok true) :
    Referable job granted (job.settings.compose (.typeName .output record.name))

theorem Resolves.referable {definition : Definition}
    (resolved : Resolves job granted definition base) (member : definition ∈ job.schema.types) :
    ∀ name ∈ base.names, Referable job granted name := by
  induction resolved with
  | external _ | unknown _ => simp [Base.names]
  | enum own claimed =>
    simpa [Base.names] using Referable.onDemand (mem_onDemand.mpr ⟨member, rfl⟩)
      (List.mem_singleton.mpr rfl) own claimed
  | input own claimed =>
    simpa [Base.names] using
      Referable.onDemand (mem_onDemand.mpr ⟨member, rfl⟩) (List.Mem.head _) own claimed
  | output selected => simpa [Base.names] using Referable.output member selected
  | union _ found _ ih => exact ih (Schema.get?_eq_some_iff.mp found).1

theorem baseUnder_referable (made : (job.baseUnder node name policy).Yields granted base) :
    ∀ other ∈ base.names, Referable job granted other := by
  rw [baseUnder] at made
  split at made
  · obtain rfl := Draft.yields_pure.mp made
    simp [Base.names]
  · rcases resolveBase_cases made with ⟨text, _, rfl⟩ | ⟨definition, found, resolved⟩
    · simp [Base.names]
    · exact resolved.referable (Schema.get?_eq_some_iff.mp found).1

@[simp] theorem base_boxFor (type : TargetType) : (boxFor policy type).base = type.base := by
  rw [boxFor]
  split <;> rfl

theorem resolve_referable {type : TypeRef} {target : TargetType}
    (made : (job.resolve node type policy).Yields granted target) :
    ∀ name ∈ target.names, Referable job granted name := by
  obtain ⟨base, resolved, rfl⟩ := yields_resolve.mp made
  simpa [Wrapped.names] using baseUnder_referable resolved

/-- One step of a chain converts the named type, and no other step names anything. -/
theorem stepsOf_origin {type : TypeRef} {nullable : Bool} {steps : List Step}
    (made : (stepsOf (fun name nullable => job.terminal node name nullable policy) nullable
      type.layers).Yields granted steps) :
    ∃ takesNull terminal,
      (job.terminal node type.baseName takesNull policy).Yields granted terminal ∧
      ∀ step ∈ steps, step = terminal ∨ step.names = [] := by
  induction type generalizing nullable steps with
  | named name =>
    obtain ⟨below, none, step, rfl, terminal⟩ := yields_stepsOf_cons.mp made
    obtain rfl := Draft.yields_pure.mp none
    exact ⟨nullable, step, terminal, by simp⟩
  | list element ih =>
    obtain ⟨below, inside, step, rfl, rfl⟩ := yields_stepsOf_cons.mp made
    obtain ⟨takesNull, terminal, converts, others⟩ := ih inside
    exact ⟨takesNull, terminal, converts, by simpa [or_imp, forall_and, Step.names] using others⟩
  | nonNull inner ih =>
    rcases TypeRef.layers_nonNull_cases inner with ⟨rest, found, same⟩ | ⟨_, same⟩
    · rw [same, ← found] at made
      exact ih made
    · rw [same] at made
      obtain ⟨below, inside, step, rfl, rfl⟩ := yields_stepsOf_cons.mp made
      obtain ⟨takesNull, terminal, converts, others⟩ := ih inside
      exact ⟨takesNull, terminal, converts, by simpa [or_imp, forall_and, Step.names] using others⟩

theorem terminal_referable {nullable : Bool} {step : Step}
    (made : (job.terminal node name nullable policy).Yields granted step) :
    ∀ other ∈ step.names, Referable job granted other := by
  obtain ⟨target, resolved, ⟨_, _, rfl⟩ | ⟨_, _, rfl⟩ | ⟨_, rfl, claimed, record, found, own⟩⟩ :=
    terminal_cases made
  · exact baseUnder_referable resolved
  · exact baseUnder_referable resolved
  · obtain ⟨member, rfl⟩ := Schema.get?_eq_some_iff.mp found
    simpa [Step.names, Definition.name] using Referable.onDemand (mem_onDemand.mpr ⟨member, rfl⟩)
      (List.mem_cons_of_mem _ (List.mem_singleton.mpr rfl)) own claimed

theorem synthesize_referable {type : TypeRef} {chain : Chain}
    (made : (job.synthesize node type policy).Yields granted chain) :
    ∀ name ∈ chain.names, Referable job granted name := by
  obtain ⟨target, resolved, steps, built, rfl⟩ := yields_synthesize.mp made
  obtain ⟨_, terminal, converts, others⟩ := stepsOf_origin built
  intro name member
  rcases List.mem_append.mp member with ofTarget | ofSteps
  · exact resolve_referable resolved name ofTarget
  · obtain ⟨step, among, named⟩ := List.mem_flatMap.mp ofSteps
    rcases others step among with rfl | none
    · exact terminal_referable converts name named
    · simp [none] at named

end Job

end Typewright
