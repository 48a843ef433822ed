import Mathlib.Data.List.Basic
import Typewright.Name.Ledger

/-! Claims made one after the other, refused ones among them. The two tables of the ledger invert
one another in every state that a history of claims can reach, and what a history grants hangs on
the keys in it alone. -/
namespace Typewright.Ledger

variable {settings : Settings} {ledger : Ledger} {key other : Key} {name : QualifiedName}

/-- The tables invert one another, and a name in them is the composed name of its key. -/
structure Invariant (settings : Settings) (ledger : Ledger) : Prop where
  inverse : ∀ key name, ledger.nameOf? key = some name ↔ ledger.ownerOf? name = some key
  composed : ∀ key name, ledger.nameOf? key = some name → name = settings.compose key

theorem empty_invariant : Invariant settings {} := by
  constructor <;> simp [nameOf?, ownerOf?]

/-- All that one claim can do: find the name held, enter it, or be refused by another holder. -/
theorem claim_cases (valid : Invariant settings ledger) (key : Key) :
    (ledger.nameOf? key = some (settings.compose key) ∧
      ledger.claim settings key = (.ok (settings.compose key), ledger)) ∨
    (ledger.nameOf? key = none ∧ ledger.ownerOf? (settings.compose key) = none ∧
      ledger.claim settings key =
        (.ok (settings.compose key), ledger.enter key (settings.compose key))) ∨
    (∃ owner, owner ≠ key ∧ ledger.ownerOf? (settings.compose key) = some owner ∧
      ledger.claim settings key =
        (.error (.nameCollision (settings.compose key) owner key), ledger)) := by
  cases held : ledger.nameOf? key with
  | some name =>
    have := valid.composed key name held
    subst this
    exact .inl ⟨rfl, by simp [claim, held]⟩
  | none =>
    cases owned : ledger.ownerOf? (settings.compose key) with
    | none => exact .inr (.inl ⟨rfl, rfl, by simp [claim, held, owned]⟩)
    | some owner =>
      have apart : owner ≠ key := by
        rintro rfl
        simp [(valid.inverse _ _).mpr owned] at held
      exact .inr (.inr ⟨owner, apart, rfl, by simp [claim, held, owned, apart]⟩)

theorem enter_invariant (valid : Invariant settings ledger) (fresh : ledger.nameOf? key = none)
    (free : ledger.ownerOf? (settings.compose key) = none) :
    Invariant settings (ledger.enter key (settings.compose key)) := by
  constructor
  · intro other name
    rw [nameOf?_enter, ownerOf?_enter]
    by_cases sameKey : key = other
    · subst sameKey
      by_cases sameName : settings.compose key = name
      · simp [sameName]
      · simp [sameName, ← valid.inverse, fresh]
    · by_cases sameName : settings.compose key = name
      · subst sameName
        simp [sameKey, valid.inverse, free]
      · simp [sameKey, sameName, valid.inverse]
  · intro other name holds
    rw [nameOf?_enter] at holds
    split at holds
    next same => exact same ▸ (Option.some.inj holds).symm
    next => exact valid.composed other name holds

theorem claim_invariant (valid : Invariant settings ledger) (key : Key) :
    Invariant settings (ledger.claim settings key).2 := by
  rcases claim_cases valid key with ⟨_, step⟩ | ⟨fresh, free, step⟩ | ⟨_, _, _, step⟩
  · simpa [step] using valid
  · simpa [step] using enter_invariant valid fresh free
  · simpa [step] using valid

theorem claim_ok_iff (valid : Invariant settings ledger) :
    (ledger.claim settings key).1 = .ok name ↔
      name = settings.compose key ∧
        ∀ owner, ledger.ownerOf? (settings.compose key) = some owner → owner = key := by
  rcases claim_cases valid key with ⟨held, step⟩ | ⟨_, free, step⟩ | ⟨owner, apart, owned, step⟩
  · have owned := (valid.inverse _ _).mp held
    simp [step, owned, eq_comm]
  · simp [step, free, eq_comm]
  · simp [step, owned, apart]

theorem nameOf?_claim (valid : Invariant settings ledger) :
    (ledger.claim settings key).2.nameOf? other = some name ↔
      ledger.nameOf? other = some name ∨
        (other = key ∧ (ledger.claim settings key).1 = .ok name) := by
  rcases claim_cases valid key with ⟨held, step⟩ | ⟨fresh, _, step⟩ | ⟨_, _, _, step⟩
  · rw [step]
    refine ⟨.inl, ?_⟩
    rintro (holds | ⟨rfl, granted⟩)
    · exact holds
    · exact held.trans (congrArg some (Except.ok.inj granted))
  · rw [step, nameOf?_enter]
    by_cases same : key = other
    · subst same
      simp [fresh]
    · simp [same, Ne.symm same]
  · simp [step]

/-- The outcomes of claims made in order. A refused claim does not end them. -/
def outcomes (settings : Settings) : List Key → Ledger → List (Except Fault QualifiedName)
  | [], _ => []
  | key :: rest, ledger =>
    (ledger.claim settings key).1 :: outcomes settings rest (ledger.claim settings key).2

def after (settings : Settings) : List Key → Ledger → Ledger
  | [], ledger => ledger
  | key :: rest, ledger => after settings rest (ledger.claim settings key).2

theorem after_append (history later : List Key) (ledger : Ledger) :
    after settings (history ++ later) ledger =
      after settings later (after settings history ledger) := by
  induction history generalizing ledger with
  | nil => rfl
  | cons key rest ih => exact ih _

theorem after_invariant (valid : Invariant settings ledger) (history : List Key) :
    Invariant settings (after settings history ledger) := by
  induction history generalizing ledger with
  | nil => exact valid
  | cons key rest ih => exact ih (claim_invariant valid key)

/-- The key claimed its name somewhere in the history and got it. -/
def Granted (settings : Settings) (history : List Key) (ledger : Ledger) (key : Key) : Prop :=
  (key, .ok (settings.compose key)) ∈ history.zip (outcomes settings history ledger)

/-- A ledger holds what it held at first and what the history granted, and no more. -/
theorem nameOf?_after (valid : Invariant settings ledger) (history : List Key) :
    (after settings history ledger).nameOf? key = some name ↔
      ledger.nameOf? key = some name ∨
        (Granted settings history ledger key ∧ name = settings.compose key) := by
  induction history generalizing ledger with
  | nil => simp [after, Granted]
  | cons claimed rest ih =>
    rw [after, ih (claim_invariant valid claimed), nameOf?_claim valid, or_assoc]
    refine or_congr_right ?_
    simp only [Granted, outcomes, List.zip_cons_cons, List.mem_cons, Prod.mk.injEq, or_and_right,
      and_assoc]
    refine or_congr_left (and_congr_right ?_)
    rintro rfl
    constructor
    · intro granted
      have composed := ((claim_ok_iff valid).mp granted).1
      exact ⟨composed ▸ granted.symm, composed⟩
    · rintro ⟨granted, rfl⟩
      exact granted.symm

theorem ownerOf?_after_empty (history : List Key) :
    (after settings history {}).ownerOf? name = some key ↔
      Granted settings history {} key ∧ name = settings.compose key := by
  rw [← (after_invariant empty_invariant history).inverse, nameOf?_after empty_invariant]
  simp [nameOf?]

theorem ownerOf?_claim (valid : Invariant settings ledger)
    (granted : (ledger.claim settings key).1 = .ok (settings.compose key)) :
    (ledger.claim settings key).2.ownerOf? name = some other ↔
      ledger.ownerOf? name = some other ∨ (other = key ∧ name = settings.compose key) := by
  rw [← (claim_invariant valid key).inverse, ← valid.inverse, nameOf?_claim valid, granted,
    Except.ok.injEq, eq_comm (a := settings.compose key)]

/-- No two of the keys clash, and none of them with a holder. -/
def Compatible (settings : Settings) (keys : List Key) (ledger : Ledger) : Prop :=
  ∀ key ∈ keys, (∀ other ∈ keys, settings.compose other = settings.compose key → other = key) ∧
    ∀ owner, ledger.ownerOf? (settings.compose key) = some owner → owner = key

/-- The order of the claims does not enter into it. -/
theorem Compatible.perm {keys reordered : List Key} (perm : keys.Perm reordered) :
    Compatible settings keys ledger ↔ Compatible settings reordered ledger := by
  simp only [Compatible, perm.mem_iff]

theorem compatible_cons (valid : Invariant settings ledger) (rest : List Key)
    (granted : (ledger.claim settings key).1 = .ok (settings.compose key)) :
    Compatible settings (key :: rest) ledger ↔
      Compatible settings rest (ledger.claim settings key).2 := by
  have owners (name : QualifiedName) (other : Key) :
      (ledger.claim settings key).2.ownerOf? name = some other ↔
        ledger.ownerOf? name = some other ∨ (other = key ∧ name = settings.compose key) :=
    ownerOf?_claim valid granted
  constructor
  · intro compatible later member
    refine ⟨fun other among => (compatible later (.tail _ member)).1 other (.tail _ among), ?_⟩
    intro owner owned
    rcases (owners _ _).mp owned with before | ⟨rfl, same⟩
    · exact (compatible later (.tail _ member)).2 owner before
    · exact (compatible later (.tail _ member)).1 owner (.head _) same.symm
  · intro compatible
    have free := ((claim_ok_iff valid).mp granted).2
    have first : ∀ later ∈ rest, settings.compose later = settings.compose key → key = later :=
      fun later member same => (compatible later member).2 key ((owners _ _).mpr (.inr ⟨rfl, same⟩))
    rw [Compatible, List.forall_mem_cons, List.forall_mem_cons]
    refine ⟨⟨⟨fun _ => rfl, fun other among same => (first other among same).symm⟩, free⟩, ?_⟩
    intro later member
    rw [List.forall_mem_cons]
    exact ⟨⟨fun same => first later member same.symm, (compatible later member).1⟩,
      fun owner owned => (compatible later member).2 owner ((owners _ _).mpr (.inl owned))⟩

/-- Claims in order are all granted exactly when their keys are compatible. -/
theorem outcomes_granted_iff (valid : Invariant settings ledger) (keys : List Key) :
    outcomes settings keys ledger = keys.map (fun key => .ok (settings.compose key)) ↔
      Compatible settings keys ledger := by
  induction keys generalizing ledger with
  | nil => simp [outcomes, Compatible]
  | cons key rest ih =>
    rw [outcomes, List.map_cons, List.cons.injEq, ih (claim_invariant valid key)]
    constructor
    · rintro ⟨granted, compatible⟩
      exact (compatible_cons valid rest granted).mpr compatible
    · intro compatible
      have granted : (ledger.claim settings key).1 = .ok (settings.compose key) :=
        (claim_ok_iff valid).mpr ⟨rfl, (compatible key (by simp)).2⟩
      exact ⟨granted, (compatible_cons valid rest granted).mp compatible⟩

theorem claimAll_ok_iff (valid : Invariant settings ledger) (keys : List Key) :
    (ledger.claimAll settings keys).1 = .ok () ↔ Compatible settings keys ledger := by
  induction keys generalizing ledger with
  | nil => simp [claimAll, Compatible]
  | cons key rest ih =>
    have later := ih (claim_invariant valid key)
    rcases claim_cases valid key with ⟨_, step⟩ | ⟨_, _, step⟩ | ⟨owner, apart, owned, step⟩
    · rw [compatible_cons valid rest (by rw [step]), ← later, claimAll, step]
    · rw [compatible_cons valid rest (by rw [step]), ← later, claimAll, step]
    · rw [claimAll, step]
      refine iff_of_false (by simp) fun compatible => ?_
      exact apart ((compatible key (.head _)).2 owner owned)

/-- The first refusal reports a key and the one that holds its name, by an earlier claim or from the
start. -/
theorem claimAll_error (valid : Invariant settings ledger) {keys : List Key} {fault : Fault}
    (refused : (ledger.claimAll settings keys).1 = .error fault) :
    ∃ first second, second ∈ keys ∧
      (first ∈ keys ∨ ledger.ownerOf? (settings.compose second) = some first) ∧
      first ≠ second ∧ settings.compose first = settings.compose second ∧
      fault = .nameCollision (settings.compose second) first second := by
  induction keys generalizing ledger with
  | nil => simp [claimAll] at refused
  | cons key rest ih =>
    have later := ih (claim_invariant valid key)
    rcases claim_cases valid key with ⟨_, step⟩ | ⟨_, _, step⟩ | ⟨owner, apart, owned, step⟩
    · rw [claimAll, step] at refused
      rw [step] at later
      obtain ⟨first, second, member, holder, found⟩ := later refused
      exact ⟨first, second, .tail _ member, holder.imp_left (.tail _), found⟩
    · rw [claimAll, step] at refused
      rw [step] at later
      obtain ⟨first, second, member, holder, found⟩ := later refused
      refine ⟨first, second, .tail _ member, ?_, found⟩
      rcases holder with among | owned
      · exact .inl (.tail _ among)
      · rw [ownerOf?_enter] at owned
        split at owned
        · exact .inl (Option.some.inj owned ▸ .head _)
        · exact .inr owned
    · rw [claimAll, step] at refused
      have composed := valid.composed owner _ ((valid.inverse _ _).mpr owned)
      exact ⟨owner, key, .head _, .inr owned, apart, composed.symm, (Except.error.inj refused).symm⟩

/-- Claims none of which is refused leave the ledger of their whole history. -/
theorem claimAll_after {keys : List Key} (granted : (ledger.claimAll settings keys).1 = .ok ()) :
    (ledger.claimAll settings keys).2 = after settings keys ledger := by
  induction keys generalizing ledger with
  | nil => rfl
  | cons key rest ih =>
    cases claimed : ledger.claim settings key with
    | mk outcome next =>
      cases outcome with
      | ok name =>
        simp only [claimAll, claimed] at granted ⊢
        rw [ih granted, after, claimed]
      | error fault => simp [claimAll, claimed] at granted

theorem claimAll_append (keys later : List Key) (ledger : Ledger) :
    ledger.claimAll settings (keys ++ later) =
      match ledger.claimAll settings keys with
      | (.ok _, ledger) => ledger.claimAll settings later
      | (.error fault, ledger) => (.error fault, ledger) := by
  induction keys generalizing ledger with
  | nil => rfl
  | cons key rest ih =>
    rw [List.cons_append, claimAll, claimAll]
    split
    · exact ih _
    · rfl

theorem collision_of_claimAll {keys : List Key} {fault : Fault}
    (refused : (ledger.claimAll settings keys).1 = .error fault) :
    ∃ name first second, fault = .nameCollision name first second := by
  induction keys generalizing ledger with
  | nil => contradiction
  | cons key rest ih =>
    rw [claimAll] at refused
    split at refused
    · exact ih refused
    next other _ failed =>
      obtain rfl := Except.error.inj refused
      simp only [claim] at failed
      split at failed
      · simp at failed
      · split at failed
        · split at failed
          · simp at failed
          · obtain ⟨same, _⟩ := Prod.mk.inj failed
            exact ⟨_, _, _, (Except.error.inj same).symm⟩
        · simp at failed

theorem granted_iff_mem {keys : List Key} (compatible : Compatible settings keys {}) :
    Granted settings keys {} key ↔ key ∈ keys := by
  rw [Granted, (outcomes_granted_iff empty_invariant keys).mpr compatible,
    ← List.map_prod_left_eq_zip]
  simp

/-- A claim that succeeds yields the composed name, so claims that all succeed yield those. -/
theorem outcomes_eq_of_ok (valid : Invariant settings ledger) (keys : List Key)
    (succeed : ∀ outcome ∈ outcomes settings keys ledger, ∃ name, outcome = .ok name) :
    outcomes settings keys ledger = keys.map (fun key => .ok (settings.compose key)) := by
  induction keys generalizing ledger with
  | nil => rfl
  | cons key rest ih =>
    rw [outcomes, List.forall_mem_cons] at succeed
    obtain ⟨⟨name, granted⟩, later⟩ := succeed
    obtain ⟨rfl, _⟩ := (claim_ok_iff valid).mp granted
    rw [outcomes, List.map_cons, granted, ih (claim_invariant valid key) later]

def AllSucceed (settings : Settings) (history : List Key) : Prop :=
  ∀ outcome ∈ outcomes settings history {}, ∃ name, outcome = .ok name

theorem allSucceed_iff (history : List Key) :
    AllSucceed settings history ↔ Compatible settings history {} := by
  rw [← outcomes_granted_iff empty_invariant]
  constructor
  · exact outcomes_eq_of_ok empty_invariant history
  · intro granted outcome member
    rw [granted] at member
    obtain ⟨key, _, rfl⟩ := List.mem_map.mp member
    exact ⟨_, rfl⟩

/-- A history leaves two tables that invert one another and hold composed names only. The next
claim is granted unless another key was granted the same name before, and then it is refused in
favour of that key with both tables as they were. No two keys are granted one name, a granted key
keeps its name whatever comes later, and the order of claims decides neither whether all of them
succeed nor what they yield. -/
theorem history_sound (settings : Settings) (history : List Key) :
    Invariant settings (after settings history {}) ∧
    (∀ key, ((after settings history {}).claim settings key).1 = .ok (settings.compose key) ↔
      ∀ other, Granted settings history {} other →
        settings.compose other = settings.compose key → other = key) ∧
    (∀ key other, Granted settings history {} other →
      settings.compose other = settings.compose key → other ≠ key →
      (after settings history {}).ownerOf? (settings.compose key) = some other ∧
      (after settings history {}).claim settings key =
        (.error (.nameCollision (settings.compose key) other key), after settings history {})) ∧
    (∀ key other, Granted settings history {} key → Granted settings history {} other →
      settings.compose key = settings.compose other → key = other) ∧
    (∀ key later, Granted settings history {} key →
      (after settings (history ++ later) {}).claim settings key =
        (.ok (settings.compose key), after settings (history ++ later) {})) ∧
    (∀ reordered, history.Perm reordered →
      (AllSucceed settings history ↔ AllSucceed settings reordered) ∧
      (AllSucceed settings history →
        outcomes settings history {} = history.map (fun key => .ok (settings.compose key)) ∧
        outcomes settings reordered {} = reordered.map fun key => .ok (settings.compose key))) := by
  have valid : Invariant settings (after settings history {}) :=
    after_invariant empty_invariant history
  have owners (key other : Key) :
      (after settings history {}).ownerOf? (settings.compose key) = some other ↔
        Granted settings history {} other ∧ settings.compose key = settings.compose other :=
    ownerOf?_after_empty history
  refine ⟨valid, ?granted, ?refused, ?apart, ?kept, ?reordered⟩
  case granted =>
    intro key
    rw [claim_ok_iff valid]
    simp only [owners, true_and, and_imp]
    exact forall_congr' fun other => imp_congr_right fun _ => by rw [eq_comm]
  case refused =>
    intro key other granted same apart
    have owned := (owners key other).mpr ⟨granted, same.symm⟩
    refine ⟨owned, ?_⟩
    rcases claim_cases valid key with ⟨held, _⟩ | ⟨_, free, _⟩ | ⟨owner, _, found, step⟩
    · exact absurd (Option.some.inj (owned.symm.trans ((valid.inverse _ _).mp held))) apart
    · simp [owned] at free
    · rw [owned] at found
      exact Option.some.inj found ▸ step
  case apart =>
    intro key other first second same
    have owned := (owners key key).mpr ⟨first, rfl⟩
    rw [(owners key other).mpr ⟨second, same⟩] at owned
    exact (Option.some.inj owned).symm
  case kept =>
    intro key later granted
    have held : (after settings (history ++ later) {}).nameOf? key = some (settings.compose key) := by
      rw [after_append, nameOf?_after valid, nameOf?_after empty_invariant]
      exact .inl (.inr ⟨granted, rfl⟩)
    simp [claim, held]
  case reordered =>
    intro reordered perm
    have same : AllSucceed settings history ↔ AllSucceed settings reordered := by
      rw [allSucceed_iff, allSucceed_iff, Compatible.perm perm]
    refine ⟨same, fun succeed => ⟨?_, ?_⟩⟩
    · exact outcomes_eq_of_ok empty_invariant history succeed
    · exact outcomes_eq_of_ok empty_invariant reordered (same.mp succeed)

end Typewright.Ledger
