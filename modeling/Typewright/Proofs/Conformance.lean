import Typewright.Proofs.NamedArtifacts

/-! When a coerced value has a target type, and how the conversion of a named type goes with the
base to which the name resolves. -/
namespace Typewright.Job

/-- A base that stands for a definition and is not generated for it: the target of a scalar that
has its name, or its representation. -/
inductive Foreign (job : Job) (definition : Definition) : Base → Prop
  | scalar (target : job.scalarTarget? definition.name = some text) :
    Foreign job definition (.builtin text)
  | represented (representation : Policy.representationOf definition.name definition.directives =
      .ok (some text)) : Foreign job definition (.external text)

def IsPlain (job : Job) (base : Base) : Prop :=
  ∀ definition ∈ job.onDemand, ∀ name ∈ job.ownNames definition, base ≠ .generated name

mutual

/-- The value has the type, as the artifacts have it. -/
inductive Conforms (job : Job) (artifacts : List Artifact) : TargetType → Coerced → Prop
  | null (unboxed : type.isBoxed = false) (nullable : type.isNullable = true) :
    Conforms job artifacts type .null
  | absent (boxed : type.isBoxed = true) : Conforms job artifacts type .absent
  | present (boxed : type.isBoxed = true) (inside : Conforms job artifacts type.unboxed value) :
    Conforms job artifacts type (.present value)
  | list (wrapped : type.element? = some element)
      (each : ∀ item ∈ items, Conforms job artifacts element item) :
    Conforms job artifacts type (.list items)
  /-- The variant is one of the artifact for the enum. -/
  | enum {name : String} (emitted : artifact ∈ artifacts) (kind : artifact.kind = .enum)
      (own : artifact.name = job.settings.compose (.typeName .enum name))
      (listed : variant ∈ artifact.variants) :
    Conforms job artifacts ⟨.generated artifact.name, nullable, []⟩ (.enum name variant)
  /-- The fields are those of the artifact for the input record. -/
  | record {name : String} (emitted : artifact ∈ artifacts) (kind : artifact.kind = .record)
      (own : artifact.name = job.settings.compose (.typeName .input name))
      (fills : Fills job artifacts artifact.fields fields) :
    Conforms job artifacts ⟨.generated artifact.name, nullable, []⟩ (.record artifact.name fields)
  | scalar (plain : job.IsPlain base) (present : value.isNull = false) :
    Conforms job artifacts ⟨base, nullable, []⟩ (.scalar value)
  /-- The enum is checked under a base that is not its own. -/
  | foreignEnum {name : String} (defined : .enum name values directives ∈ job.schema.types)
      (foreign : job.Foreign (.enum name values directives) base) (listed : variant ∈ values) :
    Conforms job artifacts ⟨base, nullable, []⟩ (.enum name variant)
  /-- The input record is built under a base that is not its own. -/
  | foreignRecord (defined : .input record ∈ job.schema.types)
      (foreign : job.Foreign (.input record) base)
      (emitted : artifact ∈ artifacts) (kind : artifact.kind = .record)
      (own : artifact.name = job.settings.compose (.typeName .input record.name))
      (fills : Fills job artifacts artifact.fields fields) :
    Conforms job artifacts ⟨base, nullable, []⟩ (.record artifact.name fields)

inductive Fills (job : Job) (artifacts : List Artifact) :
    List (String × TargetType) → List (String × Coerced) → Prop
  | nil : Fills job artifacts [] []
  | cons {name : String} (first : Conforms job artifacts type value)
      (rest : Fills job artifacts members fields) :
    Fills job artifacts ((name, type) :: members) ((name, value) :: fields)

end

/-- Unions list output records and nothing else. -/
def PlainUnions (job : Job) : Prop :=
  ∀ name members directives, .union name members directives ∈ job.schema.types →
    ∀ member ∈ members, ∃ record, job.schema.get? member = some (.output record)

inductive Fitting (job : Job) (granted : Set Key) (name : String) : BaseRule → Base → Prop
  | cast (plain : job.IsPlain base) : Fitting job granted name (.cast shape) base
  | enum (defined : .enum name values directives ∈ job.schema.types)
      (claimed : Key.typeName .enum name ∈ granted) :
    Fitting job granted name (.parse name values)
      (.generated (job.settings.compose (.typeName .enum name)))
  | foreignEnum (defined : .enum name values directives ∈ job.schema.types)
      (foreign : job.Foreign (.enum name values directives) base) :
    Fitting job granted name (.parse name values) base
  | input : Fitting job granted name (.build (job.settings.compose (.ofType .inputParser name)))
      (.generated (job.settings.compose (.typeName .input name)))
  | foreignInput (defined : .input record ∈ job.schema.types) (called : record.name = name)
      (foreign : job.Foreign (.input record) base) :
    Fitting job granted name (.build (job.settings.compose (.ofType .inputParser name))) base

variable {job : Job} {granted : Set Key} {node name : String} {policy : Option Policy} {base : Base}

theorem isPlain_of_names (none : base.names = []) : job.IsPlain base := by
  rintro _ _ own _ rfl
  simp [Base.names] at none

/-- Enums and input records live apart from output records. -/
theorem isPlain_output : job.IsPlain (.generated (job.settings.compose (.typeName .output name))) := by
  intro definition member own mine same
  have named : job.settings.compose (.typeName .output name) = own := by simpa using same
  have apart {key : Key} (equal : own = job.settings.compose key) :
      (Key.typeName .output name).role.segment = key.role.segment :=
    Settings.segment_eq_of_compose (named.trans equal)
  cases definition with
  | enum _ _ _ =>
    have together := apart (List.mem_singleton.mp mine)
    simp [Role.segment] at together
  | input record =>
    simp only [ownNames, List.mem_cons, List.not_mem_nil, or_false] at mine
    rcases mine with equal | equal
    · have together := apart equal
      simp [Role.segment] at together
    · have together := apart equal
      simp [Role.segment] at together
  | scalar _ _ | output _ | interface _ | union _ _ _ => simp [ownNames] at mine

theorem Resolves.isPlain {definition : Definition} (unions : job.PlainUnions)
    (member : definition ∈ job.schema.types) (apart : isOnDemand definition = false)
    (resolved : Resolves job granted definition base) : job.IsPlain base := by
  cases resolved with
  | external _ | unknown _ => exact isPlain_of_names rfl
  | enum _ _ | input _ _ => simp [isOnDemand] at apart
  | output _ => exact isPlain_output
  | union listed found resolved =>
    obtain ⟨record, same⟩ := unions _ _ _ member _ listed
    obtain rfl := Option.some.inj (found.symm.trans same)
    cases resolved with
    | external _ | unknown _ => exact isPlain_of_names rfl
    | output _ => exact isPlain_output

theorem fitting_of_yields (unions : job.PlainUnions)
    (resolved : (job.baseUnder node name policy).Yields granted base) :
    Fitting job granted name (job.baseRule policy name) base := by
  cases given : policy.bind (·.representation) with
  | some external =>
    simp only [baseUnder, given, Draft.yields_pure] at resolved
    subst resolved
    simp only [baseRule, given, Option.isSome_some, if_true]
    exact .cast (isPlain_of_names rfl)
  | none =>
    simp only [baseUnder, given] at resolved
    have origin := resolveBase_cases resolved
    simp only [baseRule, given, Option.isSome_none, Bool.false_eq_true, if_false]
    cases found : job.schema.get? name with
    | none =>
      rcases origin with ⟨text, _, rfl⟩ | ⟨definition, defined, _⟩
      · exact .cast (isPlain_of_names rfl)
      · simp [found] at defined
    | some definition =>
      obtain ⟨member, rfl⟩ := Schema.get?_eq_some_iff.mp found
      simp only [found, Option.some.injEq, exists_eq_left'] at origin
      have plain (apart : isOnDemand definition = false) : job.IsPlain base := by
        rcases origin with ⟨text, _, rfl⟩ | resolves
        · exact isPlain_of_names rfl
        · exact resolves.isPlain unions member apart
      cases definition with
      | scalar _ _ | output _ | interface _ | union _ _ _ => exact .cast (plain rfl)
      | enum called values directives =>
        rcases origin with ⟨text, target, rfl⟩ | resolves
        · exact .foreignEnum member (.scalar target)
        · cases resolves with
          | external represented => exact .foreignEnum member (.represented represented)
          | enum _ claimed => exact .enum member claimed
          | unknown apart => simp [isOnDemand] at apart
      | input record =>
        simp only
        split
        next represented =>
          rcases origin with ⟨text, _, rfl⟩ | resolves
          · exact .cast (isPlain_of_names rfl)
          · cases resolves with
            | external _ => exact .cast (isPlain_of_names rfl)
            | unknown apart => simp [isOnDemand] at apart
            | input own _ =>
              simpa [represented] using Policy.isSome_representationOf own
        next unrepresented =>
          rcases origin with ⟨text, target, rfl⟩ | resolves
          · exact .foreignInput member rfl (.scalar target)
          · cases resolves with
            | external represented =>
              exact absurd (Policy.isSome_representationOf represented).symm unrepresented
            | unknown apart => simp [isOnDemand] at apart
            | input _ _ => exact .input

section Values

variable {artifacts : List Artifact} {type : TargetType} {value : Coerced}

/-- A value other than null stays in its type as the outermost position closes to null. -/
theorem Conforms.demanded (conforms : Conforms job artifacts type value) (present : value ≠ .null)
    (unboxed : type.isBoxed = false) : Conforms job artifacts type.demanded value := by
  cases conforms with
  | null _ _ => exact absurd rfl present
  | absent boxed | present boxed _ => simp [boxed] at unboxed
  | list wrapped each => exact .list (by simpa using wrapped) each
  | enum emitted kind own listed => exact .enum emitted kind own listed
  | record emitted kind own fills => exact .record emitted kind own fills
  | scalar plain some => exact .scalar plain some
  | foreignEnum defined foreign listed => exact .foreignEnum defined foreign listed
  | foreignRecord defined foreign emitted kind own fills =>
    exact .foreignRecord defined foreign emitted kind own fills

end Values

end Typewright.Job
