import Typewright.Proofs.DistinctKeys

/-! The artifacts of a run have distinct names, though nobody looks at the list of them. Each is made
under a key of its own, and two keys of one name end the run. -/
namespace Typewright.Job

variable {job : Job}

def Collides (job : Job) : Prop :=
  ∃ first ∈ job.emission.claims, ∃ second ∈ job.emission.claims, first ≠ second ∧
    job.settings.compose first = job.settings.compose second ∧
    job.generate = .error (.nameCollision (job.settings.compose second) first second)

/-- A run comes to what its emission comes to with every name granted, unless it is refused. -/
theorem generate_cases (job : Job) :
    (Set.InjOn job.settings.compose {key | key ∈ job.emission.claims} ∧
      job.generate = job.emission.outcome) ∨ job.Collides :=
  Draft.settle_cases job.settings job.emission

/-- If no output record has two fields of one name, the artifacts of a run have distinct names. What
a run would emit with every name granted has a key to each artifact, none of them twice, and the run
is refused if two of these keys compose one name. -/
theorem generate_unique (distinct : job.DistinctFields) :
    (∀ artifacts, job.generate = .ok artifacts → (artifacts.map Artifact.name).Nodup) ∧
    ∀ artifacts, job.emission.outcome = .ok artifacts →
      (job.generate = .ok artifacts ∨ job.Collides) ∧
      ∃ keys : List Key, keys.Nodup ∧ List.Forall₂ job.Bears keys artifacts ∧
        ∀ one ∈ keys, ∀ other ∈ keys, one ≠ other →
          job.settings.compose one = job.settings.compose other → job.Collides := by
  constructor
  · intro artifacts generated
    obtain ⟨granted, injective, made⟩ := Draft.settle_ok generated
    obtain ⟨phases, rfl⟩ := emission_phases made
    exact phases.names_nodup distinct injective
  · intro artifacts reached
    refine ⟨(generate_cases job).imp_left fun run => run.2.trans reached, ?_⟩
    obtain ⟨phases, rfl⟩ := emission_phases (Draft.yields_claims.mpr reached)
    obtain ⟨keys, outlined, _, nodup⟩ := phases.labelled
    refine ⟨keys, nodup distinct, outlined.bears, fun one member other among apart same => ?_⟩
    rcases generate_cases job with ⟨injective, _⟩ | collides
    · exact absurd (injective (outlined.claimed one member) (outlined.claimed other among) same) apart
    · exact collides

def rivals : Job where
  schema := .ofList [
    .enum "fooBar" ["A"] (.ofList [⟨"generate", []⟩]),
    .enum "foo_bar" ["B"] (.ofList [⟨"generate", []⟩])]
  settings := {}

/-- The rivals would be emitted under one name, and are not. -/
theorem generate_unique_rivals :
    rivals.DistinctFields ∧
    (∃ artifacts, rivals.emission.outcome = .ok artifacts ∧
      ¬ (artifacts.map Artifact.name).Nodup) ∧
    rivals.Collides := by
  have distinct : rivals.DistinctFields := by
    intro record member
    simp [rivals, Schema.ofList, Schema.add, Schema.put, Schema.empty, Definition.name] at member
  have runs : (rivals.emission.outcome.toOption.any fun artifacts =>
      decide (¬ (artifacts.map Artifact.name).Nodup)) = true := by
    decide +kernel
  obtain ⟨artifacts, reached, holds⟩ := exists_ok_of_any runs
  have clash := of_decide_eq_true holds
  refine ⟨distinct, ⟨artifacts, reached, clash⟩, ?_⟩
  obtain ⟨unique, refused⟩ := generate_unique distinct
  rcases (refused artifacts reached).1 with generated | collides
  · exact absurd (unique artifacts generated) clash
  · exact collides

end Typewright.Job
