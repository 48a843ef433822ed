import Typewright.Proofs.Exactness

/-! The flag that asks for every artifact. A run with it emits all that a run without it emits. The
members of an artifact may differ, as more types have artifacts to refer to; its name, its kind and
the node that it stands for do not. -/
namespace Typewright.Job

def underAll (job : Job) (flag : Bool) : Job :=
  ⟨job.schema, { job.settings with generateAll := flag }⟩

variable {job : Job} {chosen wider : Set Definition} {artifact : Artifact} {key : Key}
  {artifacts others part more : List Artifact} {definition : Definition} {container : String}
  {field : Field}

/-- An artifact that is emitted on some condition tells that the condition holds. -/
theorem Part.wanted {wanted : Prop} {draft : Draft (List Artifact)} (made : Part wanted draft part)
    (among : artifact ∈ part) : wanted := by
  by_contra apart
  rw [made.none apart] at among
  exact List.not_mem_nil among

theorem alone_outlined {granted : Set Key} {draft : Draft Artifact}
    (outlined : ∀ {artifact}, draft.Yields granted artifact → Outlined job granted [key] [artifact])
    (made : (alone draft).Yields granted part) : Outlined job granted [key] part := by
  obtain ⟨artifact, single, made⟩ := Draft.yields_bind.mp made
  obtain rfl := Draft.yields_pure.mp made
  exact outlined single

theorem FieldPart.bears (made : FieldPart job container field part) {policy : Policy}
    (read : Policy.ofField container field job.settings.generateAll = .ok policy)
    (selected : policy.generate = true) :
    List.Forall₂ job.Bears
      (if Policy.wantsPages field then connectionKeys container field
        else resolverKeys container field) part := by
  have pages (serves : job.ServesPages container field) : Policy.wantsPages field = true :=
    Policy.pagination_ofField read ▸ ((servesPages_iff read).mp serves).2
  cases made with
  | unselected also apart _ =>
    obtain rfl := Except.ok.inj (read.symm.trans also)
    simp [selected] at apart
  | paged serves made =>
    rw [if_pos (pages serves)]
    exact (connectionArtifacts_outlined (Draft.yields_univ.mpr made)).bears
  | plain also _ apart made =>
    obtain rfl := Except.ok.inj (read.symm.trans also)
    have single : Policy.wantsPages field ≠ true := fun pages =>
      apart ((servesPages_iff read).mpr ⟨selected, (Policy.pagination_ofField read).trans pages⟩)
    rw [if_neg single]
    exact (resolverArtifacts_outlined (Draft.yields_univ.mpr made)).bears

theorem FieldPart.selected (made : FieldPart job container field part) (among : artifact ∈ part) :
    ∃ policy, Policy.ofField container field job.settings.generateAll = .ok policy ∧
      policy.generate = true := by
  cases made with
  | unselected _ _ none => simp [none] at among
  | paged serves _ =>
    obtain ⟨policy, read, selected, _⟩ := serves
    exact ⟨policy, read, selected⟩
  | plain read selected _ _ => exact ⟨_, read, selected⟩

/-- A type that no representation replaces is selected with the flag. -/
theorem selects_underAll (plain : Plain definition) : (job.underAll true).Selects definition :=
  Policy.exists_ofDefinition plain

theorem Selects.underAll (selects : (job.underAll false).Selects definition) :
    (job.underAll true).Selects definition := by
  obtain ⟨policy, read, selected⟩ := selects
  exact selects_underAll (Policy.representationOf_of_generate read selected)

theorem Paginates.underAll (paginates : (job.underAll false).Paginates) :
    (job.underAll true).Paginates := by
  obtain ⟨record, member, field, listed, policy, read, selected, pages⟩ := paginates
  exact ⟨record, member, field, listed, policy, Policy.ofField_widened read selected, selected, pages⟩

/-- The artifacts share their name, their kind and the node that they stand for. -/
def Alike (artifact other : Artifact) : Prop :=
  other.name = artifact.name ∧ other.kind = artifact.kind ∧ other.origin = artifact.origin

/-- The flag enters into no name, so artifacts of the same keys are alike. -/
theorem exists_alike {keys : List Key}
    (narrow : List.Forall₂ (job.underAll false).Bears keys part)
    (wide : List.Forall₂ (job.underAll true).Bears keys more) (among : artifact ∈ part) :
    ∃ other ∈ more, Alike artifact other := by
  obtain ⟨key, member, bears⟩ := narrow.exists_of_mem_right among
  obtain ⟨other, inside, bearsToo⟩ := wide.exists_of_mem_left member
  exact ⟨other, inside, bearsToo.named.trans bears.named.symm, bearsToo.kind.trans bears.kind.symm,
    bearsToo.origin.trans bears.origin.symm⟩

/-- A part that is still wanted with the flag has its like there, if both are made under the same
keys. -/
theorem Part.widened {keys : List Key} {wanted still : Prop} {draft redraft : Draft (List Artifact)}
    (narrow : Part wanted draft part) (wide : Part still redraft more) (keeps : wanted → still)
    (outlined : ∀ {part}, draft.Yields Set.univ part →
      Outlined (job.underAll false) Set.univ keys part)
    (reoutlined : ∀ {part}, redraft.Yields Set.univ part →
      Outlined (job.underAll true) Set.univ keys part)
    (among : artifact ∈ part) : ∃ other ∈ more, Alike artifact other := by
  have holds := narrow.wanted among
  have made := Draft.yields_univ.mpr (narrow.made holds)
  have remade := Draft.yields_univ.mpr (wide.made (keeps holds))
  exact exists_alike (outlined made).bears (reoutlined remade).bears among

theorem OutputPart.widened (narrow : OutputPart (job.underAll false) definition part)
    (wide : OutputPart (job.underAll true) definition more) (among : artifact ∈ part) :
    ∃ other ∈ more, Alike artifact other := by
  cases narrow with
  | other _ => simp at among
  | record own fields =>
    cases wide with
    | other apart => exact absurd rfl (apart _)
    | record ownToo fieldsToo =>
      rcases List.mem_append.mp among with first | served
      · obtain ⟨other, inside, alike⟩ := own.widened ownToo Selects.underAll
          (alone_outlined outputArtifact_outlined) (alone_outlined outputArtifact_outlined) first
        exact ⟨other, List.mem_append_left _ inside, alike⟩
      · obtain ⟨narrow, listed, inside⟩ := List.mem_flatten.mp served
        obtain ⟨field, member, made⟩ := fields.exists_of_mem_right listed
        obtain ⟨wide, listedToo, madeToo⟩ := fieldsToo.exists_of_mem_left member
        obtain ⟨policy, read, selected⟩ := made.selected inside
        obtain ⟨other, insideToo, alike⟩ := exists_alike (made.bears read selected)
          (madeToo.bears (Policy.ofField_widened read selected) selected) inside
        exact ⟨other, List.mem_append_right _ (List.mem_flatten.mpr ⟨wide, listedToo, insideToo⟩),
          alike⟩

/-- Whatever is emitted on account of some types without the flag has its like with the flag, on
account of as many types at least. -/
theorem Emitted.widened (emitted : Emitted (job.underAll false) chosen artifact)
    (covered : chosen ⊆ wider) (layout : Layout (job.underAll true) wider) :
    ∃ other ∈ layout.artifacts, Alike artifact other := by
  have listed {other : Artifact} (emitted : Emitted (job.underAll true) wider other) :
      other ∈ layout.artifacts := layout.mem_artifacts.mpr emitted
  cases emitted with
  | @enum definition part member made among =>
    obtain ⟨more, _, remade⟩ := layout.enumsEach.exists_of_mem_left member
    cases definition with
    | enum name values directives =>
      obtain ⟨other, inside, alike⟩ := Part.widened made remade (@covered _)
        (alone_outlined enumArtifact_outlined) (alone_outlined enumArtifact_outlined) among
      exact ⟨other, listed (.enum member remade inside), alike⟩
    | scalar _ _ | input _ | output _ | interface _ | union _ _ _ =>
      obtain rfl : part = [] := made
      simp at among
  | @input definition part member made among =>
    obtain ⟨more, _, remade⟩ := layout.inputsEach.exists_of_mem_left member
    cases definition with
    | input record =>
      obtain ⟨other, inside, alike⟩ := Part.widened made remade (@covered _)
        inputArtifacts_outlined inputArtifacts_outlined among
      exact ⟨other, listed (.input member remade inside), alike⟩
    | scalar _ _ | enum _ _ _ | output _ | interface _ | union _ _ _ =>
      obtain rfl : part = [] := made
      simp at among
  | output member made among =>
    obtain ⟨more, _, remade⟩ := layout.outputsEach.exists_of_mem_left member
    obtain ⟨other, inside, alike⟩ := made.widened remade among
    exact ⟨other, listed (.output member remade inside), alike⟩
  | @interface definition part member made among =>
    obtain ⟨more, _, remade⟩ := layout.interfacesEach.exists_of_mem_left member
    cases definition with
    | interface record =>
      obtain ⟨other, inside, alike⟩ := Part.widened made remade Selects.underAll
        (alone_outlined interfaceArtifact_outlined) (alone_outlined interfaceArtifact_outlined) among
      exact ⟨other, listed (.interface member remade inside), alike⟩
    | scalar _ _ | enum _ _ _ | input _ | output _ | union _ _ _ =>
      obtain rfl : part = [] := made
      simp at among
  | pageInfo made among =>
    obtain ⟨other, inside, alike⟩ := made.widened layout.pageInfoMade Paginates.underAll
      (alone_outlined fun made => (pageInfoArtifact_origin made).outlined)
      (alone_outlined fun made => (pageInfoArtifact_origin made).outlined) among
    exact ⟨other, listed (.pageInfo layout.pageInfoMade inside), alike⟩
  | valueBox made =>
    obtain ⟨other, inside, alike⟩ := exists_alike
      (valueBoxArtifact_origin (Draft.yields_univ.mpr made)).outlined.bears
      (valueBoxArtifact_origin (Draft.yields_univ.mpr layout.valueBoxMade)).outlined.bears (.head _)
    exact ⟨other, listed (List.mem_singleton.mp inside ▸ .valueBox layout.valueBoxMade), alike⟩
  | environment made =>
    obtain ⟨other, inside, alike⟩ := exists_alike
      (environmentArtifact_origin (Draft.yields_univ.mpr made)).outlined.bears
      (environmentArtifact_origin (Draft.yields_univ.mpr layout.environmentMade)).outlined.bears
      (.head _)
    exact ⟨other, listed (List.mem_singleton.mp inside ▸ .environment layout.environmentMade), alike⟩

/-- A type that a run reaches without the flag is selected with it. -/
theorem reachedTypes_widened {phases : Phases (job.underAll false)
      {key | key ∈ (job.underAll false).emission.claims}}
    {later : Phases (job.underAll true) {key | key ∈ (job.underAll true).emission.claims}}
    (narrow : (job.underAll false).generate = .ok artifacts)
    (wide : (job.underAll true).generate = .ok others) :
    phases.reachedTypes ⊆ later.reachedTypes := fun definition reached =>
  (closed_reachedTypes wide).selected definition reached.1
    (selects_underAll (plain_of_reached narrow definition reached))

/-- Whatever is emitted without the flag is emitted with it as well, under the same name, as the same
kind of artifact and for the same node of the schema. -/
theorem generate_widened (narrow : (job.underAll false).generate = .ok artifacts)
    (wide : (job.underAll true).generate = .ok others) :
    ∀ artifact ∈ artifacts, ∃ other ∈ others, other.name = artifact.name ∧
      other.kind = artifact.kind ∧ other.origin = artifact.origin := by
  obtain ⟨phases, rfl⟩ := emission_phases (Draft.yields_of_settle narrow)
  obtain ⟨later, rfl⟩ := emission_phases (Draft.yields_of_settle wide)
  intro artifact among
  rw [← phases.layout_artifacts] at among
  rw [← later.layout_artifacts]
  exact (phases.layout.mem_artifacts.mp among).widened (reachedTypes_widened narrow wide) later.layout

/-- The shop has more to offer with the flag. -/
theorem generate_widened_shop :
    ∃ artifacts others, (shop.underAll false).generate = .ok artifacts ∧
      (shop.underAll true).generate = .ok others ∧ artifacts.length < others.length ∧
      ∀ artifact ∈ artifacts, ∃ other ∈ others, other.name = artifact.name ∧
        other.kind = artifact.kind ∧ other.origin = artifact.origin := by
  have runs : ((shop.underAll false).generate.toOption.any fun artifacts =>
      (shop.underAll true).generate.toOption.any fun others =>
        decide (artifacts.length < others.length)) = true := by
    decide +kernel
  obtain ⟨artifacts, narrow, reruns⟩ := exists_ok_of_any runs
  obtain ⟨others, wide, more⟩ := exists_ok_of_any reruns
  exact ⟨artifacts, others, narrow, wide, of_decide_eq_true more, generate_widened narrow wide⟩

end Typewright.Job
