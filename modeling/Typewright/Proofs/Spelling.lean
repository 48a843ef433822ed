import Typewright.Proofs.NamedArtifacts
import Typewright.Proofs.Words

/-! Spellings of names. The spelling of a type and that of a function differ under every prefix, so a
prefix neither makes two names one nor tells one name from another. -/
namespace Typewright

namespace Role

variable {role other : Role}

theorem isFunction_of_shared (shared : role.isShared = true) : role.isFunction = false := by
  cases role <;> simp [isShared, isFunction] at shared ⊢

/-- The page info is the one shared item whose part of the namespace holds others as well. -/
theorem pagination_of_shared (shared : role.isShared = true) (own : other.isShared = false)
    (segments : role.segment = other.segment) :
    role = .pageInfo ∧
      (other = .page ∨ other = .edge ∨ other = .connection ∨ other = .connectionBuilder) := by
  cases other with
  | typeName kind => cases kind <;> cases role <;> simp [isShared, segment] at shared segments
  | _ => cases role <;> simp [isShared, segment] at shared own segments ⊢

end Role

namespace Key

theorem underscore_not_mem_scope (key : Key) : '_' ∉ key.scope.toList := by
  have part (text : Option String) :
      '_' ∉ ((text.map Text.upperCamel).getD "").toList := by
    cases text with
    | none => simp
    | some text => exact Text.underscore_not_mem_upperCamel text
  simp [scope, part]

/-- The spellings of functions have underscores, and no others do. -/
theorem underscore_mem_bareIdentifier (key : Key) :
    '_' ∈ key.bareIdentifier.toList ↔ key.role.isFunction = true := by
  have plain := key.underscore_not_mem_scope
  rw [bareIdentifier]
  cases key.role <;> simp [Role.isFunction, plain, toString]

/-- The spelling of a function starts with a verb. -/
theorem exists_verb {key : Key} (function : key.role.isFunction = true) :
    ∃ verb rest, key.bareIdentifier.toList = verb ++ '_' :: rest ∧ ('p' ∈ verb ∨ 'b' ∈ verb) := by
  rw [bareIdentifier]
  cases role : key.role with
  | argumentParser => exact ⟨"parse".toList, _, by simp [toString]; rfl, .inl (by decide)⟩
  | inputParser => exact ⟨"parse".toList, _, by simp [toString]; rfl, .inl (by decide)⟩
  | connectionBuilder => exact ⟨"build".toList, _, by simp [toString]; rfl, .inr (by decide)⟩
  | _ => simp [role, Role.isFunction] at function

end Key

namespace Settings

variable {settings : Settings} {key other : Key}

theorem exists_affix (settings : Settings) (key : Key) :
    ∃ affix, settings.identifier key = affix ++ key.bareIdentifier := by
  rw [identifier]
  split
  · exact ⟨"", by simp⟩
  next lead _ =>
    split
    · exact ⟨"", by simp⟩
    · split
      · exact ⟨Text.snakeCase lead ++ "_", by simp [toString]⟩
      · exact ⟨lead, rfl⟩

/-- Names that are spelt alike get the same affix. -/
theorem identifier_eq_iff_of_alike (shared : key.role.isShared = other.role.isShared)
    (function : key.role.isFunction = other.role.isFunction) :
    settings.identifier key = settings.identifier other ↔
      key.bareIdentifier = other.bareIdentifier := by
  rw [identifier, identifier, shared, function]
  split
  · rfl
  · split
    · rfl
    · split <;> simp [toString]

/-- A type has not the name of a function, whatever stands before either. -/
theorem identifier_ne_of_function (function : key.role.isFunction = true)
    (plain : other.role.isFunction = false) (own : other.role.isShared = false) :
    settings.identifier other ≠ settings.identifier key := by
  have keyOwn : key.role.isShared = false := by
    cases shared : key.role.isShared with
    | true => simp [Role.isFunction_of_shared shared] at function
    | false => rfl
  have bare : '_' ∉ other.bareIdentifier.toList := by
    simp [other.underscore_mem_bareIdentifier, plain]
  intro same
  rw [identifier, identifier] at same
  split at same
  · rw [same, key.underscore_mem_bareIdentifier] at bare
    exact bare function
  next lead _ =>
    simp only [keyOwn, own, function, plain, Bool.false_eq_true, if_false, if_true] at same
    obtain ⟨verb, rest, spelt, mentions⟩ := Key.exists_verb function
    have texts : lead.toList ++ other.bareIdentifier.toList =
        (Text.snakeCase lead).toList ++ '_' :: (verb ++ '_' :: rest) := by
      simpa [toString, spelt] using congrArg String.toList same
    rcases mentions with mentions | mentions
    · exact Text.lead_append_ne bare mentions
        (Text.count_le_count_snakeCase (by decide) (by decide) lead) texts
    · exact Text.lead_append_ne bare mentions
        (Text.count_le_count_snakeCase (by decide) (by decide) lead) texts

/-- What a run shares ends as nothing else in its part of the namespace does. -/
theorem identifier_ne_of_shared (shared : key.role.isShared = true)
    (own : other.role.isShared = false) (segments : key.role.segment = other.role.segment) :
    settings.identifier key ≠ settings.identifier other := by
  obtain ⟨role, otherRole⟩ := Role.pagination_of_shared shared own segments
  obtain ⟨affix, composed⟩ := settings.exists_affix key
  obtain ⟨before, composedToo⟩ := settings.exists_affix other
  rw [composed, composedToo]
  intro same
  have lasts := congrArg (·.toList.getLast?) same
  rcases otherRole with otherRole | otherRole | otherRole | otherRole <;>
    simp [role, otherRole, Key.bareIdentifier, toString, List.getLast?_cons] at lasts

theorem identifier_eq_iff (segments : key.role.segment = other.role.segment) :
    settings.identifier key = settings.identifier other ↔
      key.bareIdentifier = other.bareIdentifier := by
  have bare (key : Key) : ({} : Settings).identifier key = key.bareIdentifier := rfl
  have neither (apart : ∀ settings : Settings, settings.identifier key ≠ settings.identifier other) :
      settings.identifier key = settings.identifier other ↔
        key.bareIdentifier = other.bareIdentifier :=
    iff_of_false (apart settings) (bare key ▸ bare other ▸ apart {})
  cases shared : key.role.isShared with
  | true =>
    cases sharedToo : other.role.isShared with
    | true =>
      refine identifier_eq_iff_of_alike (shared.trans sharedToo.symm) ?_
      rw [Role.isFunction_of_shared shared, Role.isFunction_of_shared sharedToo]
    | false => exact neither fun _ => identifier_ne_of_shared shared sharedToo segments
  | false =>
    cases sharedToo : other.role.isShared with
    | true =>
      exact neither fun _ => (identifier_ne_of_shared sharedToo shared segments.symm).symm
    | false =>
      cases function : key.role.isFunction with
      | true =>
        cases functionToo : other.role.isFunction with
        | true =>
          exact identifier_eq_iff_of_alike (shared.trans sharedToo.symm)
            (function.trans functionToo.symm)
        | false =>
          exact neither fun _ => (identifier_ne_of_function function functionToo sharedToo).symm
      | false =>
        cases functionToo : other.role.isFunction with
        | true => exact neither fun _ => identifier_ne_of_function functionToo function shared
        | false =>
          exact identifier_eq_iff_of_alike (shared.trans sharedToo.symm)
            (function.trans functionToo.symm)

/-- Whether two keys collide hangs on neither the prefix nor the base namespace. -/
theorem compose_eq_iff :
    settings.compose key = settings.compose other ↔
      key.role.segment = other.role.segment ∧ key.bareIdentifier = other.bareIdentifier := by
  constructor
  · intro same
    have segments := segment_eq_of_compose same
    exact ⟨segments, (identifier_eq_iff segments).mp (congrArg QualifiedName.identifier same)⟩
  · rintro ⟨segments, bare⟩
    rw [compose, compose, segments, (identifier_eq_iff segments).mpr bare]

end Settings

end Typewright
