import Typewright.Proofs.Artifacts

/-! Why the parts of a run fail. A rule for each way of making a draft says with what it may fail, and
the generators follow: names apart, nothing but a representation that cannot be read and a type
that the schema lacks stands in their way. -/
namespace Typewright

namespace Draft

def FailsOnly (allowed : Fault → Prop) (draft : Draft α) : Prop :=
  ∀ fault, draft.outcome = .error fault → allowed fault

variable {allowed : Fault → Prop}

theorem failsOnly_pure (value : α) : (pure value : Draft α).FailsOnly allowed := by
  intro fault failed
  contradiction

theorem failsOnly_name (settings : Settings) (key : Key) :
    (Draft.name settings key).FailsOnly allowed := by
  intro fault failed
  contradiction

theorem failsOnly_lift {outcome : Except Fault α} :
    (liftM outcome : Draft α).FailsOnly allowed ↔
      ∀ fault, outcome = .error fault → allowed fault := Iff.rfl

/-- What follows a draft matters where the draft comes to a value. -/
theorem FailsOnly.bind {x : Draft α} {next : α → Draft β} (first : x.FailsOnly allowed)
    (later : ∀ value, x.outcome = .ok value → (next value).FailsOnly allowed) :
    (x >>= next).FailsOnly allowed := by
  intro fault failed
  rw [outcome_bind, bind_eq_error_iff] at failed
  rcases failed with failed | ⟨value, reached, failed⟩
  · exact first fault failed
  · exact later value reached fault failed

theorem FailsOnly.map {x : Draft α} (f : α → β) (only : x.FailsOnly allowed) :
    (f <$> x).FailsOnly allowed := by
  rw [map_eq_pure_bind]
  exact only.bind fun value _ => failsOnly_pure _

theorem failsOnly_mapM {f : α → Draft β} {xs : List α}
    (each : ∀ x ∈ xs, (f x).FailsOnly allowed) : (xs.mapM f).FailsOnly allowed := by
  induction xs with
  | nil => exact failsOnly_pure []
  | cons x rest ih =>
    rw [List.forall_mem_cons] at each
    rw [List.mapM_cons]
    exact each.1.bind fun _ _ => (ih each.2).bind fun _ _ => failsOnly_pure _

theorem FailsOnly.when {x : Draft α} (only : x.FailsOnly allowed) (wanted : Bool) :
    (x.when wanted).FailsOnly allowed := by
  cases wanted with
  | true => exact only.bind fun _ _ => failsOnly_pure _
  | false => exact failsOnly_pure _

/-- A draft that is not settled fails of itself, or two keys have one name. -/
theorem FailsOnly.settle {draft : Draft α} {settings : Settings} {ledger : Ledger} {fault : Fault}
    (only : draft.FailsOnly allowed) (failed : (draft.settle settings ledger).1 = .error fault) :
    allowed fault ∨ ∃ name first second, fault = .nameCollision name first second := by
  rw [Draft.settle] at failed
  split at failed
  · exact .inl (only fault failed)
  next other _ refused =>
    obtain rfl : other = fault := Except.error.inj failed
    exact .inr (Ledger.collision_of_claimAll (congrArg Prod.fst refused))

end Draft

open Draft

theorem sharedBase_failsOnly {allowed : Fault → Prop} {resolve : String → Draft Base}
    {members : List String} (each : ∀ member ∈ members, (resolve member).FailsOnly allowed)
    (shared : Option Base) : (sharedBase resolve shared members).FailsOnly allowed := by
  induction members generalizing shared with
  | nil => exact failsOnly_pure _
  | cons member rest ih =>
    rw [List.forall_mem_cons] at each
    refine each.1.bind fun base _ => ?_
    split
    · exact ih each.2 _
    · split
      · exact ih each.2 _
      · exact failsOnly_pure _

/-- Why a part of a run fails: a representation that cannot be read, or a type that is not there. -/
inductive Job.Refuses (job : Job) : Fault → Prop
  | representation : Refuses job (.badDirectiveArgument node "representation" "type" reason)
  | undefined {name : String} (missing : job.schema.get? name = none) :
    Refuses job (.unknownType node name)

/-- No other directive is refused for its arguments. -/
theorem Job.Refuses.directive {job : Job} {node directive argument reason : String}
    (refused : job.Refuses (.badDirectiveArgument node directive argument reason)) :
    directive = "representation" := by
  cases refused
  rfl

namespace Policy

variable {job : Job} {node container : String} {directives : Directives} {generateAll : Bool}
  {fault : Fault}

theorem representationOf_refuses (failed : representationOf node directives = .error fault) :
    job.Refuses fault := by
  rw [representationOf] at failed
  split at failed
  · contradiction
  · split at failed
    · split at failed
      · exact Except.error.inj failed ▸ .representation
      · contradiction
    · exact Except.error.inj failed ▸ .representation
    · exact Except.error.inj failed ▸ .representation

theorem shouldGenerate_refuses (failed : shouldGenerate node directives generateAll = .error fault) :
    job.Refuses fault := by
  rw [shouldGenerate] at failed
  rcases bind_eq_error_iff.mp failed with unread | ⟨representation, _, failed⟩
  · exact representationOf_refuses unread
  · cases representation <;> contradiction

/-- A node is asked whether it is selected, and then what represents it. -/
theorem refuses_of_read {make : Bool → Option String → Policy}
    (failed : (do
      let generate ← shouldGenerate node directives generateAll
      let representation ← representationOf node directives
      return make generate representation) = .error fault) : job.Refuses fault := by
  rcases bind_eq_error_iff.mp failed with undecided | ⟨_, _, failed⟩
  · exact shouldGenerate_refuses undecided
  · rcases bind_eq_error_iff.mp failed with unread | ⟨_, _, failed⟩
    · exact representationOf_refuses unread
    · contradiction

theorem ofDefinition_refuses {definition : Definition}
    (failed : ofDefinition definition generateAll = .error fault) : job.Refuses fault :=
  refuses_of_read failed

theorem ofField_refuses {field : Field} (failed : ofField container field generateAll = .error fault) :
    job.Refuses fault :=
  refuses_of_read failed

theorem ofArgument_refuses {field : String} {argument : Argument}
    (failed : ofArgument container field argument = .error fault) : job.Refuses fault := by
  rcases bind_eq_error_iff.mp failed with unread | ⟨_, _, failed⟩
  · exact representationOf_refuses unread
  · contradiction

end Policy

namespace Job

variable {job : Job} {node name container : String} {policy : Option Policy} {type : TypeRef}

theorem lookup_failsOnly :
    (liftM (job.schema.lookup node name) : Draft Definition).FailsOnly job.Refuses := by
  refine failsOnly_lift.mpr fun fault failed => ?_
  rw [Schema.lookup] at failed
  split at failed
  · contradiction
  next missing => exact Except.error.inj failed ▸ .undefined missing

theorem generated_failsOnly {kind : Kind} : (job.generated kind name).FailsOnly job.Refuses :=
  (failsOnly_name _ _).bind fun _ _ => failsOnly_pure _

theorem baseOfDefinition_failsOnly {nested : Nat} {definition : Definition} :
    (job.baseOfDefinition nested definition).FailsOnly job.Refuses := by
  induction nested using Nat.strongRecOn generalizing definition with
  | _ nested ih =>
    rw [baseOfDefinition.eq_def]
    refine FailsOnly.bind (failsOnly_lift.mpr fun _ => Policy.representationOf_refuses) ?_
    intro representation _
    cases representation with
    | some text => exact failsOnly_pure _
    | none =>
      cases definition with
      | scalar _ _ | interface _ => exact failsOnly_pure _
      | enum _ _ _ | input _ => exact generated_failsOnly
      | output record =>
        refine FailsOnly.bind (failsOnly_lift.mpr fun _ => Policy.shouldGenerate_refuses) ?_
        intro selected _
        cases selected with
        | true => exact generated_failsOnly
        | false => exact failsOnly_pure _
      | union name members _ =>
        cases nested with
        | zero => exact failsOnly_pure _
        | succ nested =>
          refine FailsOnly.bind (sharedBase_failsOnly ?_ none) fun _ _ => failsOnly_pure _
          intro member _
          exact lookup_failsOnly.bind fun _ _ => ih nested (Nat.lt_succ_self nested)

theorem resolveBase_failsOnly : (job.resolveBase node name).FailsOnly job.Refuses := by
  rw [resolveBase]
  split
  · exact failsOnly_pure _
  · split
    · exact failsOnly_pure _
    · exact lookup_failsOnly.bind fun _ _ => baseOfDefinition_failsOnly

theorem baseUnder_failsOnly : (job.baseUnder node name policy).FailsOnly job.Refuses := by
  rw [baseUnder]
  split
  · exact failsOnly_pure _
  · exact resolveBase_failsOnly

/-- A reference always ends in a name, so that resolution fails only over its base. -/
theorem resolve_failsOnly : (job.resolve node type policy).FailsOnly job.Refuses := by
  rw [resolve_eq]
  exact baseUnder_failsOnly.map _

theorem terminal_failsOnly {nullable : Bool} :
    (job.terminal node name nullable policy).FailsOnly job.Refuses := by
  rw [terminal]
  split
  · exact failsOnly_pure _
  · refine resolveBase_failsOnly.bind fun target _ => ?_
    split
    · exact failsOnly_pure _
    · exact failsOnly_pure _
    · exact failsOnly_pure _
    · refine FailsOnly.bind (failsOnly_lift.mpr fun _ => Policy.representationOf_refuses) ?_
      intro representation _
      cases representation with
      | some _ => exact failsOnly_pure _
      | none => exact (failsOnly_name _ _).bind fun _ _ => failsOnly_pure _
    · exact failsOnly_pure _
    · exact failsOnly_pure _
    · exact failsOnly_pure _

theorem stepsOf_failsOnly {allowed : Fault → Prop} {terminal : String → Bool → Draft Step}
    (only : ∀ name nullable, (terminal name nullable).FailsOnly allowed) (nullable : Bool)
    (layers : List Layer) : (stepsOf terminal nullable layers).FailsOnly allowed := by
  induction layers generalizing nullable with
  | nil => exact failsOnly_pure _
  | cons layer inner ih =>
    refine (ih _).bind fun below _ => ?_
    cases layer with
    | named name => exact (only name nullable).bind fun _ _ => failsOnly_pure _
    | nonNull | list => exact failsOnly_pure _

theorem synthesize_failsOnly : (job.synthesize node type policy).FailsOnly job.Refuses :=
  resolve_failsOnly.bind fun _ _ =>
    (stepsOf_failsOnly (fun _ _ => terminal_failsOnly) _ _).bind fun _ _ => failsOnly_pure _

theorem arguments_failsOnly {field : Field} :
    (job.arguments container field).FailsOnly job.Refuses := by
  rw [arguments]
  split
  · exact failsOnly_pure _
  · refine (failsOnly_name _ _).bind fun _ _ => (failsOnly_name _ _).bind fun _ _ => ?_
    refine (failsOnly_mapM fun argument _ => ?_).bind fun _ _ => failsOnly_pure _
    refine FailsOnly.bind (failsOnly_lift.mpr fun _ => Policy.ofArgument_refuses) fun _ _ => ?_
    exact synthesize_failsOnly.bind fun _ _ => failsOnly_pure _

theorem contract_failsOnly {field : Field} {arguments returns : TargetType} :
    (job.contract container field arguments returns).FailsOnly job.Refuses :=
  (failsOnly_name _ _).bind fun _ _ => (failsOnly_name _ _).bind fun _ _ =>
    resolveBase_failsOnly.bind fun _ _ => failsOnly_pure _

end Job

end Typewright
