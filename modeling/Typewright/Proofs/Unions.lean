import Typewright.Proofs.Nesting

/-! The base of a union in every order of its members. The members are resolved one after another,
and the first that differs ends the walk. So orders that come to a base come to the same one, but a
member that cannot be resolved is met in some orders and missed in others. -/
namespace Typewright

/-- A draft settles with a ledger of its own if it yields under keys of distinct names. -/
theorem Draft.settle_ok_iff {settings : Settings} {draft : Draft α} {value : α} :
    (draft.settle settings {}).1 = .ok value ↔
      ∃ granted : Set Key, Set.InjOn settings.compose granted ∧ draft.Yields granted value :=
  ⟨settle_ok, fun ⟨_, injective, made⟩ => settle_of_yields injective made⟩

section Shared

variable {granted : Set Key} {resolve : String → Draft Base} {members rest : List String}
  {first second : String} {shared result : Option Base} {common base other : Base}

def Parted (granted : Set Key) (resolve : String → Draft Base) (members : List String) : Prop :=
  ∃ first ∈ members, ∃ second ∈ members, ∃ base other, (resolve first).Yields granted base ∧
    (resolve second).Yields granted other ∧ base ≠ other

theorem Parted.mono {others : List String} (parted : Parted granted resolve members)
    (subset : ∀ member ∈ members, member ∈ others) : Parted granted resolve others := by
  obtain ⟨first, among, second, amongToo, different⟩ := parted
  exact ⟨first, subset first among, second, subset second amongToo, different⟩

theorem sharedBase_after (made : (sharedBase resolve (some common) members).Yields granted result) :
    (result = some common ∧ ∀ member ∈ members, (resolve member).Yields granted common) ∨
      (result = none ∧
        ∃ member ∈ members, ∃ base, (resolve member).Yields granted base ∧ common ≠ base) := by
  induction members with
  | nil => exact .inl ⟨Draft.yields_pure.mp made, by simp⟩
  | cons member rest ih =>
    rw [sharedBase] at made
    obtain ⟨base, resolved, made⟩ := Draft.yields_bind.mp made
    simp only at made
    split at made
    next same =>
      subst same
      rcases ih made with ⟨kept, each⟩ | ⟨none, other, later, different⟩
      · exact .inl ⟨kept, List.forall_mem_cons.mpr ⟨resolved, each⟩⟩
      · exact .inr ⟨none, other, .tail _ later, different⟩
    next different =>
      exact .inr ⟨Draft.yields_pure.mp made, member, .head _, base, resolved, different⟩

/-- Members share a base, or there are none of them, or two of them have different bases. -/
theorem sharedBase_cases (made : (sharedBase resolve none members).Yields granted result) :
    (members ≠ [] ∧ ∃ base, result = some base ∧
        ∀ member ∈ members, (resolve member).Yields granted base) ∨
      (result = none ∧ (members = [] ∨ Parted granted resolve members)) := by
  cases members with
  | nil => exact .inr ⟨Draft.yields_pure.mp made, .inl rfl⟩
  | cons member rest =>
    rw [sharedBase] at made
    obtain ⟨base, resolved, made⟩ := Draft.yields_bind.mp made
    rcases sharedBase_after made with ⟨rfl, each⟩ | ⟨none, other, later, another, found, different⟩
    · exact .inl ⟨by simp, base, rfl, List.forall_mem_cons.mpr ⟨resolved, each⟩⟩
    · exact .inr ⟨none, .inr ⟨member, .head _, other, .tail _ later, base, another, resolved, found,
        different⟩⟩

theorem sharedBase_of_each (shared : Option Base)
    (each : ∀ member ∈ members, ∃ base, (resolve member).Yields granted base) :
    ∃ result, (sharedBase resolve shared members).Yields granted result := by
  induction members generalizing shared with
  | nil => exact ⟨shared, Draft.yields_pure.mpr rfl⟩
  | cons member rest ih =>
    obtain ⟨⟨base, resolved⟩, each⟩ := List.forall_mem_cons.mp each
    simp only [sharedBase, Draft.yields_bind]
    cases shared with
    | none =>
      obtain ⟨result, made⟩ := ih (some base) each
      exact ⟨result, base, resolved, made⟩
    | some common =>
      by_cases same : common = base
      · obtain ⟨result, made⟩ := ih (some common) each
        exact ⟨result, base, resolved, by simpa [same] using made⟩
      · exact ⟨none, base, resolved, by simp [same]⟩

/-- Nothing after two members that differ is looked at. -/
theorem sharedBase_parted (resolved : (resolve first).Yields granted base)
    (also : (resolve second).Yields granted other) (different : base ≠ other) :
    (sharedBase resolve none (first :: second :: rest)).Yields granted none := by
  simp only [sharedBase, Draft.yields_bind]
  exact ⟨base, resolved, other, also, by simp [different]⟩

theorem sharedBase_head (made : (sharedBase resolve none (first :: rest)).Yields granted result) :
    ∃ base, (resolve first).Yields granted base := by
  rw [sharedBase] at made
  obtain ⟨base, resolved, _⟩ := Draft.yields_bind.mp made
  exact ⟨base, resolved⟩

/-- The second member is resolved whatever the first one comes to. -/
theorem sharedBase_next
    (made : (sharedBase resolve none (first :: second :: rest)).Yields granted result) :
    ∃ base, (resolve second).Yields granted base := by
  rw [sharedBase] at made
  obtain ⟨_, _, made⟩ := Draft.yields_bind.mp made
  rw [sharedBase] at made
  obtain ⟨base, resolved, _⟩ := Draft.yields_bind.mp made
  exact ⟨base, resolved⟩

end Shared

namespace Job

variable {job : Job} {name : String} {members reordered : List String} {directives : Directives}

def ofMember (job : Job) (union member : String) : Draft Base := do
  job.resolveDefinition (← job.schema.lookup union member)

def baseAlone (job : Job) (definition : Definition) : Except Fault Base :=
  ((job.resolveDefinition definition).settle job.settings {}).1

def memberAlone (job : Job) (union member : String) : Except Fault Base :=
  ((job.ofMember union member).settle job.settings {}).1

/-- All members can be resolved, one after another. -/
def Together (job : Job) (union : String) (members : List String) : Prop :=
  ∃ bases, ((members.mapM (job.ofMember union)).settle job.settings {}).1 = .ok bases

/-- Two members can be resolved, one after the other, and have different bases. -/
def Disagree (job : Job) (union : String) (members : List String) : Prop :=
  ∃ first ∈ members, ∃ second ∈ members, ∃ base other,
    (([first, second].mapM (job.ofMember union)).settle job.settings {}).1 = .ok [base, other] ∧
      base ≠ other

def Lost (job : Job) (member : String) : Prop :=
  job.schema.get? member = none ∨ ∃ definition fault, job.schema.get? member = some definition ∧
    Policy.representationOf definition.name definition.directives = .error fault

theorem Lost.unresolved {member : String} {base : Base} (lost : job.Lost member) :
    job.memberAlone name member ≠ .ok base := by
  intro settled
  obtain ⟨_, _, made⟩ := Draft.settle_ok_iff.mp settled
  obtain ⟨definition, found, made⟩ := Draft.yields_bind.mp made
  rw [yields_lookup] at found
  rcases lost with missing | ⟨other, fault, foundToo, refused⟩
  · exact nomatch missing.symm.trans found
  · obtain rfl := Option.some.inj (foundToo.symm.trans found)
    rw [resolveDefinition, baseOfDefinition.eq_def] at made
    obtain ⟨_, represented, _⟩ := Draft.yields_bind.mp made
    rw [Draft.yields_lift, refused] at represented
    contradiction

/-- Where no union contains itself, the members are resolved as they are on their own. -/
theorem resolveDefinition_union (grounded : job.schema.Grounded)
    (own : Policy.representationOf name directives = .ok none) :
    job.resolveDefinition (.union name members directives) =
      (·.getD .unknown) <$> sharedBase (job.ofMember name) none members := by
  have each : ∀ member ∈ members,
      job.ofMember name member = job.memberBase job.schema.size name member := by
    intro member listed
    refine Draft.bind_congr_of_outcome fun inner found => baseOfDefinition_succ grounded ?_
    have found := yields_lookup.mp (Draft.yields_univ.mpr found)
    obtain ⟨declared, rfl⟩ := Schema.get?_eq_some_iff.mp found
    exact Nat.lt_of_lt_of_le (grounded.ncard_lt ⟨name, members, directives, rfl, declared, listed⟩)
      (job.schema.ncard_inside_le _)
  have plain : (liftM (Policy.representationOf name directives) : Draft (Option String)) =
      pure none := by
    rw [own]
    rfl
  rw [sharedBase_congr each none, resolveDefinition, baseOfDefinition.eq_def]
  simp only [Definition.name, Definition.directives, plain, pure_bind]
  exact (map_eq_pure_bind _ _).symm

theorem baseAlone_union_ok_iff (grounded : job.schema.Grounded)
    (own : Policy.representationOf name directives = .ok none) {base : Base} :
    job.baseAlone (.union name members directives) = .ok base ↔
      ∃ granted : Set Key, Set.InjOn job.settings.compose granted ∧
        ∃ shared, (sharedBase (job.ofMember name) none members).Yields granted shared ∧
          base = shared.getD .unknown := by
  rw [baseAlone, resolveDefinition_union grounded own, Draft.settle_ok_iff]
  simp only [Draft.yields_map]

theorem memberAlone_ok_iff {member : String} {base : Base} :
    job.memberAlone name member = .ok base ↔
      ∃ granted : Set Key, Set.InjOn job.settings.compose granted ∧
        (job.ofMember name member).Yields granted base :=
  Draft.settle_ok_iff

theorem together_iff :
    job.Together name members ↔ ∃ granted : Set Key, Set.InjOn job.settings.compose granted ∧
      ∀ member ∈ members, ∃ base, (job.ofMember name member).Yields granted base := by
  simp only [Together, Draft.settle_ok_iff, Draft.yields_mapM]
  constructor
  · rintro ⟨bases, granted, injective, related⟩
    refine ⟨granted, injective, fun member listed => ?_⟩
    obtain ⟨base, _, resolved⟩ := related.exists_of_mem_left listed
    exact ⟨base, resolved⟩
  · rintro ⟨granted, injective, each⟩
    obtain ⟨bases, related⟩ := exists_forall₂ each
    exact ⟨bases, granted, injective, related⟩

theorem disagree_iff :
    job.Disagree name members ↔ ∃ granted : Set Key, Set.InjOn job.settings.compose granted ∧
      Parted granted (job.ofMember name) members := by
  simp only [Disagree, Draft.settle_ok_iff, Draft.yields_mapM, List.forall₂_cons,
    List.forall₂_nil_left_iff]
  constructor
  · rintro ⟨first, among, second, amongToo, base, other, ⟨granted, injective, made, also, _⟩,
      different⟩
    exact ⟨granted, injective, first, among, second, amongToo, base, other, made, also, different⟩
  · rintro ⟨granted, injective, first, among, second, amongToo, base, other, made, also, different⟩
    exact ⟨first, among, second, amongToo, base, other,
      ⟨granted, injective, made, also, by trivial⟩, different⟩

theorem Together.perm (together : job.Together name members) (same : reordered.Perm members) :
    job.Together name reordered := by
  obtain ⟨granted, injective, each⟩ := together_iff.mp together
  exact together_iff.mpr
    ⟨granted, injective, fun member listed => each member (same.mem_iff.mp listed)⟩

theorem Disagree.perm (disagree : job.Disagree name members) (same : members.Perm reordered) :
    job.Disagree name reordered := by
  obtain ⟨granted, injective, parted⟩ := disagree_iff.mp disagree
  exact disagree_iff.mpr ⟨granted, injective, parted.mono fun member => same.mem_iff.mp⟩

/-- Names that are distinct for any two members are distinct for all of them. -/
theorem together_of_pairs
    (pairs : ∀ first ∈ members, ∀ second ∈ members, job.Together name [first, second]) :
    job.Together name members := by
  refine together_iff.mpr
    ⟨{key | ∃ member ∈ members, key ∈ (job.ofMember name member).claims}, ?_, ?_⟩
  · rintro key ⟨first, among, claimed⟩ other ⟨second, amongToo, claimedToo⟩ same
    obtain ⟨granted, injective, each⟩ := together_iff.mp (pairs first among second amongToo)
    obtain ⟨_, made⟩ := each first (.head _)
    obtain ⟨_, also⟩ := each second (.tail _ (.head _))
    exact injective (made.claims key claimed) (also.claims other claimedToo) same
  · intro member listed
    obtain ⟨granted, _, each⟩ := together_iff.mp (pairs member listed member listed)
    obtain ⟨base, made⟩ := each member (.head _)
    exact ⟨base, made.outcome, fun key claimed => ⟨member, listed, claimed⟩⟩

theorem perm_of_pair {first second : String} (among : first ∈ members) (amongToo : second ∈ members)
    (apart : second ≠ first) :
    (first :: second :: (members.erase first).erase second).Perm members := by
  have inner := List.perm_cons_erase ((List.mem_erase_of_ne apart).mpr amongToo)
  exact (inner.symm.cons first).trans (List.perm_cons_erase among).symm

section Order

variable (grounded : job.schema.Grounded) (own : Policy.representationOf name directives = .ok none)
include grounded own

theorem exists_base_of_together (together : job.Together name members) :
    ∃ base, job.baseAlone (.union name members directives) = .ok base := by
  obtain ⟨granted, injective, each⟩ := together_iff.mp together
  obtain ⟨shared, made⟩ := sharedBase_of_each none each
  exact ⟨_, (baseAlone_union_ok_iff grounded own).mpr ⟨granted, injective, shared, made, rfl⟩⟩

theorem exists_order_of_disagree (disagree : job.Disagree name members) :
    ∃ ordered, ordered.Perm members ∧
      job.baseAlone (.union name ordered directives) = .ok .unknown := by
  obtain ⟨granted, injective, first, among, second, amongToo, base, other, made, also, different⟩ :=
    disagree_iff.mp disagree
  have apart : second ≠ first := by
    rintro rfl
    exact different (made.unique also)
  exact ⟨_, perm_of_pair among amongToo apart, (baseAlone_union_ok_iff grounded own).mpr
    ⟨granted, injective, none, sharedBase_parted made also different, rfl⟩⟩

theorem together_or_disagree {base : Base}
    (settled : job.baseAlone (.union name members directives) = .ok base) :
    job.Together name members ∨ job.Disagree name members := by
  obtain ⟨granted, injective, shared, made, _⟩ := (baseAlone_union_ok_iff grounded own).mp settled
  rcases sharedBase_cases made with ⟨_, base, _, each⟩ | ⟨_, rfl | parted⟩
  · exact .inl (together_iff.mpr
      ⟨granted, injective, fun member listed => ⟨base, each member listed⟩⟩)
  · exact .inl (together_iff.mpr ⟨granted, injective, by simp⟩)
  · exact .inr (disagree_iff.mpr ⟨granted, injective, parted⟩)

/-- A union that comes to a base comes to the one that all its members have. -/
theorem base_eq_iff_each {base shared : Base}
    (settled : job.baseAlone (.union name members directives) = .ok base)
    (known : shared ≠ .unknown) :
    base = shared ↔
      members ≠ [] ∧ ∀ member ∈ members, job.memberAlone name member = .ok shared := by
  obtain ⟨granted, injective, result, made, rfl⟩ := (baseAlone_union_ok_iff grounded own).mp settled
  constructor
  · rintro rfl
    rcases sharedBase_cases made with ⟨some, base, rfl, each⟩ | ⟨rfl, _⟩
    · exact ⟨some, fun member listed =>
        memberAlone_ok_iff.mpr ⟨granted, injective, each member listed⟩⟩
    · exact absurd rfl known
  · rintro ⟨some, each⟩
    have found {member : String} {base : Base} (listed : member ∈ members)
        (resolved : (job.ofMember name member).Yields granted base) : base = shared := by
      obtain ⟨_, _, alone⟩ := memberAlone_ok_iff.mp (each member listed)
      exact resolved.unique alone
    rcases sharedBase_cases made with ⟨_, base, rfl, eachToo⟩ | ⟨_, none | parted⟩
    · obtain ⟨member, listed⟩ := List.exists_mem_of_ne_nil members some
      exact found listed (eachToo member listed)
    · exact absurd none some
    · obtain ⟨first, among, second, amongToo, base, other, resolved, also, different⟩ := parted
      exact absurd ((found among resolved).trans (found amongToo also).symm) different

/-- Orders that come to a base come to the same one. -/
theorem base_eq_of_perm {base other : Base} (same : reordered.Perm members)
    (settled : job.baseAlone (.union name members directives) = .ok base)
    (also : job.baseAlone (.union name reordered directives) = .ok other) : other = base := by
  have each {shared : Base} : (reordered ≠ [] ∧
      ∀ member ∈ reordered, job.memberAlone name member = .ok shared) ↔
      members ≠ [] ∧ ∀ member ∈ members, job.memberAlone name member = .ok shared := by
    have empty : reordered = [] ↔ members = [] := by
      rw [← List.length_eq_zero_iff, same.length_eq, List.length_eq_zero_iff]
    simp only [same.mem_iff, ne_eq, empty]
  by_cases known : base = .unknown
  · by_contra apart
    have shared := (base_eq_iff_each grounded own also (known ▸ apart)).mp rfl
    exact apart ((base_eq_iff_each grounded own settled (known ▸ apart)).mpr (each.mp shared)).symm
  · have shared := (base_eq_iff_each grounded own settled known).mp rfl
    exact (base_eq_iff_each grounded own also known).mpr (each.mpr shared)

/-- Two orders have the same outcome if both come to a base or neither does. -/
theorem toOption_eq_of_perm (same : reordered.Perm members)
    (both : (∃ base, job.baseAlone (.union name members directives) = .ok base) ↔
      ∃ base, job.baseAlone (.union name reordered directives) = .ok base) :
    (job.baseAlone (.union name reordered directives)).toOption =
      (job.baseAlone (.union name members directives)).toOption := by
  cases settled : job.baseAlone (.union name members directives) with
  | error _ =>
    cases also : job.baseAlone (.union name reordered directives) with
    | error _ => rfl
    | ok base => simp [settled, also] at both
  | ok base =>
    obtain ⟨other, also⟩ := both.mp ⟨base, settled⟩
    rw [also, base_eq_of_perm grounded own same settled also]

/-- Any two members may come first, so members that come to a base in every order can be resolved
one after another. -/
theorem together_of_every_order (every : ∀ reordered : List String, reordered.Perm members →
    ∃ base, job.baseAlone (.union name reordered directives) = .ok base) :
    job.Together name members := by
  refine together_of_pairs fun first among second amongToo => together_iff.mpr ?_
  by_cases apart : second = first
  · obtain ⟨base, settled⟩ := every _ (List.perm_cons_erase among).symm
    obtain ⟨granted, injective, _, made, _⟩ := (baseAlone_union_ok_iff grounded own).mp settled
    exact ⟨granted, injective, by simpa [apart] using sharedBase_head made⟩
  · obtain ⟨base, settled⟩ := every _ (perm_of_pair among amongToo apart)
    obtain ⟨granted, injective, _, made, _⟩ := (baseAlone_union_ok_iff grounded own).mp settled
    exact ⟨granted, injective, by simpa using ⟨sharedBase_head made, sharedBase_next made⟩⟩

/-- The order counts where two members differ and not all of them can be resolved. -/
theorem same_in_every_order_iff :
    (∀ reordered : List String, reordered.Perm members →
      (job.baseAlone (.union name reordered directives)).toOption =
        (job.baseAlone (.union name members directives)).toOption) ↔
      job.Together name members ∨ ¬ job.Disagree name members := by
  constructor
  · intro every
    by_contra neither
    obtain ⟨apart, disagree⟩ := not_or.mp neither
    obtain ⟨ordered, same, settled⟩ := exists_order_of_disagree grounded own (not_not.mp disagree)
    refine apart (together_of_every_order grounded own fun reordered sameToo => ⟨.unknown, ?_⟩)
    rw [← toOption_eq_some_iff, every reordered sameToo, ← every ordered same, settled]
    rfl
  · rintro (together | agree) reordered same
    · refine toOption_eq_of_perm grounded own same ⟨fun _ => ?_, fun _ => ?_⟩
      · exact exists_base_of_together grounded own (together.perm same)
      · exact exists_base_of_together grounded own together
    · refine toOption_eq_of_perm grounded own same ⟨fun ⟨_, settled⟩ => ?_, fun ⟨_, settled⟩ => ?_⟩
      · have together := (together_or_disagree grounded own settled).resolve_right agree
        exact exists_base_of_together grounded own (together.perm same)
      · have together := (together_or_disagree grounded own settled).resolve_right
          fun disagree => agree (disagree.perm same)
        exact exists_base_of_together grounded own (together.perm same.symm)

/-- With a member that cannot be resolved a union fails in every order, unless two others differ. -/
theorem fails_in_every_order_iff {member : String} (listed : member ∈ members)
    (lost : job.Lost member) :
    (∀ reordered : List String, reordered.Perm members →
      ∀ base, job.baseAlone (.union name reordered directives) ≠ .ok base) ↔
      ¬ job.Disagree name members := by
  constructor
  · intro fails disagree
    obtain ⟨ordered, same, settled⟩ := exists_order_of_disagree grounded own disagree
    exact fails ordered same .unknown settled
  · intro agree reordered same base settled
    rcases together_or_disagree grounded own settled with together | disagree
    · obtain ⟨granted, injective, each⟩ := together_iff.mp together
      obtain ⟨base, made⟩ := each member (same.mem_iff.mpr listed)
      exact lost.unresolved (memberAlone_ok_iff.mpr ⟨granted, injective, made⟩)
    · exact agree (disagree.perm same)

end Order

/-- The orders of the members of a union that come to a base come to the same one: that of all
members where they share one, and an unknown one otherwise. All orders have one outcome just where
all members can be resolved one after another, or no two of them differ. With a member that is lost
every order fails just where no two others differ. -/
theorem base_in_every_order (grounded : job.schema.Grounded)
    (own : Policy.representationOf name directives = .ok none) (members : List String) :
    (∀ reordered base other, reordered.Perm members →
      job.baseAlone (.union name members directives) = .ok base →
      job.baseAlone (.union name reordered directives) = .ok other → other = base) ∧
    (∀ base shared, job.baseAlone (.union name members directives) = .ok base → shared ≠ .unknown →
      (base = shared ↔
        members ≠ [] ∧ ∀ member ∈ members, job.memberAlone name member = .ok shared)) ∧
    ((∀ reordered : List String, reordered.Perm members →
      (job.baseAlone (.union name reordered directives)).toOption =
        (job.baseAlone (.union name members directives)).toOption) ↔
      job.Together name members ∨ ¬ job.Disagree name members) ∧
    (∀ member ∈ members, job.Lost member →
      ((∀ reordered : List String, reordered.Perm members →
        ∀ base, job.baseAlone (.union name reordered directives) ≠ .ok base) ↔
        ¬ job.Disagree name members)) :=
  ⟨fun _ _ _ same settled also => base_eq_of_perm grounded own same settled also,
    fun _ _ settled known => base_eq_iff_each grounded own settled known,
    same_in_every_order_iff grounded own,
    fun _ listed lost => fails_in_every_order_iff grounded own listed lost⟩

/-- Two types that stand for others, and one whose representation is no text. -/
def pets : Job where
  schema := .ofList [
    .output ⟨"Cat", [], .ofList [⟨"representation", [("type", .string "pets::Cat")]⟩]⟩,
    .output ⟨"Dog", [], .ofList [⟨"representation", [("type", .string "pets::Dog")]⟩]⟩,
    .scalar "Bird" (.ofList [⟨"representation", [("type", .int 3)]⟩])]
  settings := {}

theorem pets_grounded : pets.schema.Grounded := by
  intro definition loop
  have member := pets.schema.inside_subset definition loop
  obtain ⟨_, ⟨_, _, _, rfl, _⟩, _⟩ := Relation.TransGen.head'_iff.mp loop
  simp [pets, Schema.ofList, Schema.add, Schema.put, Schema.empty, Definition.name] at member

theorem base_in_every_order_pets :
    pets.schema.Grounded ∧ Policy.representationOf "Pet" .empty = .ok none ∧
      pets.memberAlone "Pet" "Cat" = .ok (.external "pets::Cat") ∧
      pets.baseAlone (.union "Pet" ["Cat"] .empty) = .ok (.external "pets::Cat") ∧
      pets.Lost "Bird" ∧ pets.Disagree "Pet" ["Bird", "Cat", "Dog"] ∧
      ¬ ∀ reordered : List String, reordered.Perm ["Bird", "Cat", "Dog"] →
        ∀ base, pets.baseAlone (.union "Pet" reordered .empty) ≠ .ok base := by
  have own : Policy.representationOf "Pet" .empty = .ok none := rfl
  have cat : pets.memberAlone "Pet" "Cat" = .ok (.external "pets::Cat") := by decide +kernel
  have lost : pets.Lost "Bird" := .inr ⟨_, _, rfl, rfl⟩
  have disagree : pets.Disagree "Pet" ["Bird", "Cat", "Dog"] :=
    ⟨"Cat", by simp, "Dog", by simp, .external "pets::Cat", .external "pets::Dog",
      by decide +kernel, by decide⟩
  refine ⟨pets_grounded, own, cat, ?_, lost, disagree, fun fails => ?_⟩
  · have settled : ∃ base, pets.baseAlone (.union "Pet" ["Cat"] .empty) = .ok base :=
      exists_ok_of_isOk (by decide +kernel)
    obtain ⟨base, settled⟩ := settled
    have shared := ((base_in_every_order pets_grounded own ["Cat"]).2.1 base (.external "pets::Cat")
      settled (by decide)).mpr ⟨by simp, by simpa using cat⟩
    rw [settled, shared]
  · exact ((base_in_every_order pets_grounded own ["Bird", "Cat", "Dog"]).2.2.2 "Bird" (.head _)
      lost).mp fails disagree

/-- A member that is lost counts where it comes before the two that differ, and not after them. -/
theorem base_of_lost_pets :
    pets.schema.Grounded ∧ Policy.representationOf "Pet" .empty = .ok none ∧
      ["Cat", "Dog", "Bird"].Perm ["Bird", "Cat", "Dog"] ∧
      pets.baseAlone (.union "Pet" ["Bird", "Cat", "Dog"] .empty) = .error (.badDirectiveArgument
        "Bird" "representation" "type" "expected a string, found int") ∧
      pets.baseAlone (.union "Pet" ["Cat", "Dog", "Bird"] .empty) = .ok .unknown ∧
      pets.schema.get? "Fish" = none ∧
      pets.baseAlone (.union "Pet" ["Cat", "Dog", "Fish"] .empty) = .ok .unknown :=
  ⟨pets_grounded, rfl, by decide, by decide +kernel, by decide +kernel, rfl, by decide +kernel⟩

end Job

end Typewright
