import Typewright.Proofs.MarkerResolution
import Typewright.Proofs.Refusals

/-! Fields served in pages. A field is a list in three places: as a reference, for its policy to ask
for pages, in its layers, that resolution walks over, and in what it is resolved to, that its parts
are made over. -/
namespace Typewright

namespace TypeRef

/-- The type under the outermost list and the non-null markers around it. -/
def element? : TypeRef → Option TypeRef
  | named _ => none
  | list element => some element
  | nonNull inner => inner.element?

theorem isSome_element? (type : TypeRef) : type.element?.isSome = type.isList := by
  induction type with
  | named _ | list _ => rfl
  | nonNull inner ih => exact ih

theorem baseName_of_element? {type element : TypeRef} (holds : type.element? = some element) :
    element.baseName = type.baseName := by
  induction type with
  | named _ => contradiction
  | list inner =>
    obtain rfl : inner = element := Option.some.inj holds
    rfl
  | nonNull inner ih => exact ih holds

theorem element?_target (base : Base) (type : TypeRef) :
    (type.target base).element? = type.element?.map (target base) := by
  induction type with
  | named _ | list _ => rfl
  | nonNull inner ih => rw [target, Wrapped.element?_demanded, ih, element?]

end TypeRef

namespace Job

variable {job : Job} {container : String} {field other : Field} {ledger : Ledger}
  {artifacts : List Artifact}

/-- The parts of a paginated field are made over what the element of its type is resolved to without
a policy. -/
theorem connectionArtifacts_eq {element : TypeRef} (holds : field.type.element? = some element) :
    job.connectionArtifacts container field =
      job.resolve (fieldPath container field.name) element none >>=
        job.pagesOf container field := by
  rw [connectionArtifacts, resolve_single rfl, resolve_single rfl,
    TypeRef.baseName_of_element? holds, bind_map_left, bind_map_left]
  refine bind_congr fun base => ?_
  rw [TypeRef.element?_target, holds]
  rfl

/-- Apart from the element, the type of a field is nothing to its pages, and no more are its
directives. -/
theorem pagesOf_congr (name : other.name = field.name)
    (arguments : other.arguments = field.arguments) :
    job.pagesOf container other = job.pagesOf container field := by
  funext element
  simp only [pagesOf, Job.arguments, contract, name, arguments]

theorem pagesOf_failsOnly {element : TargetType} :
    (job.pagesOf container field element).FailsOnly job.Refuses := by
  refine (Draft.failsOnly_name _ _).bind fun _ _ => (Draft.failsOnly_name _ _).bind fun _ _ => ?_
  refine (Draft.failsOnly_name _ _).bind fun _ _ => (Draft.failsOnly_name _ _).bind fun _ _ => ?_
  refine (Draft.failsOnly_name _ _).bind fun _ _ => arguments_failsOnly.bind fun _ _ => ?_
  exact contract_failsOnly.bind fun _ _ => Draft.failsOnly_pure _

/-- A page of items, its edge and connection, the function from the page to the connection and the
contract that returns the page, as they refer to one another and to the page info of the run. -/
structure Fits (job : Job) (container : String) (field : Field) (item : TargetType)
    (info page edge connection builder contract : Artifact) : Prop where
  shared : job.pageInfoArtifact.outcome = .ok info
  named : [page, edge, connection, builder, contract].map Artifact.name =
    [.page, .edge, .connection, .connectionBuilder, .fieldResolver].map fun role =>
      job.settings.compose (.ofField role container field.name)
  data : page.members = [.field "data" (item.listOf false), .field "hasPreviousPage" boolean,
    .field "hasNextPage" boolean]
  node : edge.members = [.field "node" item, .field "cursor" (.required (.builtin "String"))]
  edges : connection.members = [
    .field "edges" ((Wrapped.required (.generated edge.name)).listOf false),
    .field "pageInfo" (.required (.generated info.name))]
  builds : builder.members = [.function ⟨[⟨"page", .required (.generated page.name)⟩],
    .required (.generated connection.name),
    .buildConnection item edge.name connection.name info.name⟩]
  returns : ∃ params,
    contract.members = [.method "resolve" params (.required (.generated page.name))]

theorem pagesOf_fits {granted : Set Key} {item : TargetType}
    (made : (job.pagesOf container field item).Yields granted artifacts) :
    ∃ info page edge connection builder parsed contract,
      artifacts = [page, edge, connection, builder] ++ parsed ++ [contract] ∧
      job.Fits container field item info page edge connection builder contract := by
  obtain ⟨_, parsed, arguments, contract, _, stated, rfl⟩ := pagesOf_origin made
  obtain ⟨_, source, _, rfl⟩ := contract_origin stated
  exact ⟨_, _, _, _, _, parsed, _, rfl, rfl, rfl, rfl, rfl, rfl, rfl, _, rfl⟩

/-- Once the parts of a field settle, so does the element of its type, from the same ledger, and they
fit together over it. -/
theorem fits_of_settle {element : TypeRef} (holds : field.type.element? = some element)
    (settled : ((job.connectionArtifacts container field).settle job.settings ledger).1 =
      .ok artifacts) :
    ∃ item, ((job.resolve (fieldPath container field.name) element none).settle
        job.settings ledger).1 = .ok item ∧
      ∃ info page edge connection builder parsed contract,
        artifacts = [page, edge, connection, builder] ++ parsed ++ [contract] ∧
        job.Fits container field item info page edge connection builder contract := by
  rw [connectionArtifacts_eq holds, Draft.settle_bind] at settled
  split at settled
  next item later resolved =>
    exact ⟨item, by rw [resolved], pagesOf_fits (Draft.yields_of_settle settled)⟩
  · contradiction

/-- A field that is to be served in pages is never refused for not being a list. Its parts fit
together over what the element of its type is resolved to without a policy, and neither the
nullability of its list nor its directives have a part in them. -/
theorem connection_fits (pages : Policy.wantsPages field = true) :
    ∃ element, field.type.element? = some element ∧
      (∀ ledger node argument reason,
        ((job.connectionArtifacts container field).settle job.settings ledger).1 ≠
          .error (.badDirectiveArgument node "pagination" argument reason)) ∧
      (∀ ledger artifacts,
        ((job.connectionArtifacts container field).settle job.settings ledger).1 = .ok artifacts →
        ∃ item, ((job.resolve (fieldPath container field.name) element none).settle
            job.settings ledger).1 = .ok item ∧
          ∃ info page edge connection builder parsed contract,
            artifacts = [page, edge, connection, builder] ++ parsed ++ [contract] ∧
            job.Fits container field item info page edge connection builder contract) ∧
      ∀ other : Field, other.name = field.name → other.arguments = field.arguments →
        other.type.element? = some element →
        job.connectionArtifacts container other = job.connectionArtifacts container field := by
  rw [Policy.wantsPages, Bool.and_eq_true, ← TypeRef.isSome_element?, Option.isSome_iff_exists]
    at pages
  obtain ⟨_, element, holds⟩ := pages
  refine ⟨element, holds, fun ledger node argument reason failed => ?_,
    fun ledger artifacts => fits_of_settle holds, fun other name arguments same => ?_⟩
  · have only : (job.connectionArtifacts container field).FailsOnly job.Refuses := by
      rw [connectionArtifacts_eq holds]
      exact resolve_failsOnly.bind fun _ _ => pagesOf_failsOnly
    rcases only.settle failed with refused | ⟨_, _, _, collides⟩
    · exact absurd refused.directive (by decide)
    · contradiction
  · rw [connectionArtifacts_eq same, connectionArtifacts_eq holds, name, pagesOf_congr name arguments]

def friends : Field where
  name := "friends"
  type := .nonNull (.nonNull (.list (.named "User")))
  arguments := []
  directives := .ofList [⟨"resolver", []⟩, ⟨"pagination", []⟩, ⟨"doubleNull", []⟩]

def circle : Job := ⟨.ofList [.output ⟨"User", [friends], .ofList [⟨"generate", []⟩]⟩], {}⟩

def userTarget : TargetType := ⟨.generated ⟨"generated.objects", "User"⟩, true, []⟩

/-- The pages hold users that may be absent, though no page may be. -/
theorem connection_fits_circle :
    Policy.wantsPages friends = true ∧
    ∃ artifacts,
      ((circle.connectionArtifacts "User" friends).settle circle.settings {}).1 = .ok artifacts ∧
      ∃ info page edge connection builder parsed contract,
        artifacts = [page, edge, connection, builder] ++ parsed ++ [contract] ∧
        circle.Fits "User" friends userTarget info page edge connection builder contract := by
  have pages : Policy.wantsPages friends = true := by decide
  have settles :
      ((circle.connectionArtifacts "User" friends).settle circle.settings {}).1.isOk = true := by
    decide +kernel
  have user : ((circle.resolve "User.friends" (.named "User") none).settle
      circle.settings {}).1 = .ok userTarget := by
    decide +kernel
  obtain ⟨element, holds, _, fits, _⟩ := @connection_fits circle "User" friends pages
  obtain rfl : .named "User" = element := Option.some.inj holds
  obtain ⟨artifacts, settled⟩ := exists_ok_of_isOk settles
  obtain ⟨item, resolved, parts⟩ := fits {} artifacts settled
  obtain rfl : userTarget = item := Except.ok.inj (user.symm.trans resolved)
  exact ⟨pages, artifacts, settled, parts⟩

end Job

end Typewright
