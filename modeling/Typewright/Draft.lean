import Typewright.Name.Ledger

/-! Drafts: what a computation yields if it may have the names that it claims on its way. As a
name hangs on its key alone, the outcome is known before any name is granted. -/
namespace Typewright

structure Draft (α : Type) where
  /-- The keys whose names are claimed, in order, up to the end or to the failure. -/
  claims : List Key
  outcome : Except Fault α

namespace Draft

def ofExcept (outcome : Except Fault α) : Draft α := ⟨[], outcome⟩

def fail (fault : Fault) : Draft α := ⟨[], .error fault⟩

/-- A failure ends the draft with the claims made before it. -/
def andThen (draft : Draft α) (next : α → Draft β) : Draft β :=
  match draft.outcome with
  | .error fault => ⟨draft.claims, .error fault⟩
  | .ok value => ⟨draft.claims ++ (next value).claims, (next value).outcome⟩

instance : Monad Draft where
  pure value := ⟨[], .ok value⟩
  bind := andThen

@[ext] theorem ext {x y : Draft α} (claims : x.claims = y.claims)
    (outcome : x.outcome = y.outcome) : x = y := by
  cases x; cases y; simp_all

@[simp] theorem claims_pure (value : α) : (pure value : Draft α).claims = [] := rfl

@[simp] theorem outcome_pure (value : α) : (pure value : Draft α).outcome = .ok value := rfl

@[simp] theorem outcome_bind (x : Draft α) (next : α → Draft β) :
    (x >>= next).outcome = x.outcome >>= fun value => (next value).outcome := by
  show (x.andThen next).outcome = _
  rw [andThen]
  cases x.outcome <;> rfl

theorem bind_of_error {x : Draft α} {fault : Fault} (next : α → Draft β)
    (reached : x.outcome = .error fault) : x >>= next = ⟨x.claims, .error fault⟩ := by
  show x.andThen next = _
  rw [andThen, reached]

theorem bind_of_ok {x : Draft α} {value : α} (next : α → Draft β)
    (reached : x.outcome = .ok value) :
    x >>= next = ⟨x.claims ++ (next value).claims, (next value).outcome⟩ := by
  show x.andThen next = _
  rw [andThen, reached]

instance : LawfulMonad Draft := by
  refine LawfulMonad.mk' Draft ?_ ?_ ?_
  · intro α x
    obtain ⟨claims, outcome⟩ := x
    show andThen _ _ = _
    cases outcome <;> simp [andThen]
  · intro α β value next
    show andThen _ _ = _
    simp [andThen]
  · intro α β γ x f g
    obtain ⟨claims, outcome⟩ := x
    show andThen (andThen _ _) _ = andThen _ _
    cases outcome with
    | error fault => simp [andThen]
    | ok value =>
      show andThen (andThen _ f) g = andThen _ (fun value => andThen (f value) g)
      cases second : (f value).outcome <;> simp [andThen, second]

instance : MonadLift (Except Fault) Draft where
  monadLift := ofExcept

def name (settings : Settings) (key : Key) : Draft QualifiedName :=
  ⟨[key], .ok (settings.compose key)⟩

def when (wanted : Bool) (draft : Draft α) : Draft (List α) :=
  if wanted then do return [← draft] else return []

/-- Claims the names of a draft; the first refusal goes before its outcome. -/
def settle (settings : Settings) (draft : Draft α) (ledger : Ledger) : Except Fault α × Ledger :=
  match ledger.claimAll settings draft.claims with
  | (.ok _, ledger) => (draft.outcome, ledger)
  | (.error fault, ledger) => (.error fault, ledger)

end Draft

end Typewright
