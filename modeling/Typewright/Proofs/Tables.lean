import Mathlib.Data.List.Nodup
import Typewright.Dict

/-! What tables find, and tables in the order of their keys. Such a table is known by what it finds, so
entries under different keys may be made in any order, and one table may be laid over another. -/
namespace Typewright.Dict

variable {α : Type} {entries table later : Dict α} {key other : String} {value another : α}

@[simp] theorem keys_map {β : Type} (f : α → β) (entries : Dict α) :
    keys (entries.map fun entry => (entry.1, f entry.2)) = keys entries := by
  simp [keys]

@[simp] theorem get?_map {β : Type} (f : α → β) (entries : Dict α) (key : String) :
    get? (entries.map fun entry => (entry.1, f entry.2)) key = (get? entries key).map f := by
  induction entries with
  | nil => rfl
  | cons entry rest ih =>
    by_cases same : key = entry.1 <;> simp [get?, same, ih]

theorem mem_of_get? (found : get? entries key = some value) : (key, value) ∈ entries := by
  induction entries with
  | nil => simp [get?] at found
  | cons entry rest ih =>
    rw [get?] at found
    split at found
    next same =>
      obtain rfl := Option.some.inj found
      exact same ▸ .head _
    next => exact .tail _ (ih found)

theorem get?_eq_none (missing : key ∉ keys entries) :
    get? entries key = none := by
  cases found : get? entries key with
  | none => rfl
  | some value => exact absurd (List.mem_map.mpr ⟨_, mem_of_get? found, rfl⟩) missing

theorem get?_of_mem_keys (listed : key ∈ keys entries) :
    ∃ value, get? entries key = some value := by
  induction entries with
  | nil => contradiction
  | cons entry rest ih =>
    rw [get?]
    by_cases same : key = entry.1
    · exact ⟨entry.2, if_pos same⟩
    · rw [if_neg same]
      exact ih ((List.mem_cons.mp listed).resolve_left same)

theorem get?_foldl_insert (distinct : (keys entries).Nodup) (key : String) :
    get? (entries.foldl (fun table entry => insert entry.1 entry.2 table) table) key =
      (get? entries key).or (get? table key) := by
  induction entries generalizing table with
  | nil => rfl
  | cons entry rest ih =>
    obtain ⟨apart, later⟩ := List.nodup_cons.mp distinct
    rw [List.foldl_cons, ih later, get?_insert, get?]
    by_cases same : key = entry.1
    · rw [if_pos same, if_pos same, get?_eq_none (same ▸ apart)]
      rfl
    · rw [if_neg same, if_neg same]

/-- Putting entries in order moves none of them, as long as no key comes twice. -/
theorem get?_ofList (distinct : (keys entries).Nodup) (key : String) :
    get? (ofList entries) key = get? entries key := by
  rw [ofList, get?_foldl_insert distinct]
  exact Option.or_none

/-- Every key is below those that follow it. -/
def Ascending (table : Dict α) : Prop := table.Pairwise fun entry next => entry.1 < next.1

theorem mem_insert {entry : String × α} (among : entry ∈ insert key value table) :
    entry = (key, value) ∨ entry ∈ table := by
  induction table with
  | nil => exact .inl (List.mem_singleton.mp among)
  | cons first rest ih =>
    rw [insert] at among
    split at among
    · exact List.mem_cons.mp among
    · split at among
      · exact (List.mem_cons.mp among).imp_right (.tail _)
      · rcases List.mem_cons.mp among with rfl | among
        · exact .inr (.head _)
        · exact (ih among).imp_right (.tail _)

theorem Ascending.insert (ascending : Ascending table) (key : String) (value : α) :
    Ascending (insert key value table) := by
  induction table with
  | nil => exact List.pairwise_singleton ..
  | cons first rest ih =>
    obtain ⟨above, below⟩ := List.pairwise_cons.mp ascending
    rw [Dict.insert]
    split
    next before =>
      refine List.pairwise_cons.mpr ⟨?_, ascending⟩
      rw [List.forall_mem_cons]
      exact ⟨before, fun entry among => String.lt_trans before (above entry among)⟩
    next notBefore =>
      split
      next same => exact List.pairwise_cons.mpr ⟨fun entry among => same ▸ above entry among, below⟩
      next apart =>
        refine List.pairwise_cons.mpr ⟨fun entry among => ?_, ih below⟩
        rcases mem_insert among with rfl | among
        · by_contra neither
          exact apart (String.le_antisymm (String.not_lt.mp neither) (String.not_lt.mp notBefore))
        · exact above entry among

theorem Ascending.nodup_keys (ascending : Ascending table) : (keys table).Nodup :=
  List.pairwise_map.mpr (ascending.imp fun below => String.ne_of_lt below)

theorem mem_keys_insert :
    other ∈ keys (insert key value table) ↔ other = key ∨ other ∈ keys table := by
  constructor
  · intro listed
    obtain ⟨entry, among, rfl⟩ := List.mem_map.mp listed
    rcases mem_insert among with rfl | among
    · exact .inl rfl
    · exact .inr (List.mem_map_of_mem among)
  · intro known
    by_contra missing
    have none := get?_eq_none missing
    rw [get?_insert] at none
    split at none
    next => contradiction
    next apart =>
      obtain ⟨value, found⟩ := get?_of_mem_keys (known.resolve_left apart)
      exact Option.some_ne_none value (found.symm.trans none)

theorem get?_of_mem (distinct : (keys table).Nodup) (among : (key, value) ∈ table) :
    get? table key = some value := by
  obtain ⟨another, found⟩ := get?_of_mem_keys (List.mem_map.mpr ⟨_, among, rfl⟩)
  have same := List.inj_on_of_nodup_map distinct (mem_of_get? found) among rfl
  rw [found, (Prod.mk.inj same).2]

theorem get?_of_below (below : ∀ entry ∈ table, key < entry.1) : get? table key = none := by
  refine get?_eq_none fun listed => ?_
  obtain ⟨entry, among, same⟩ := List.mem_map.mp listed
  exact String.lt_irrefl key (same ▸ below entry among)

theorem not_lt_of_get?_eq {rest : Dict α} {entry : String × α}
    (same : get? ((key, value) :: rest) key = get? (entry :: later) key)
    (above : ∀ other ∈ later, entry.1 < other.1) : ¬ key < entry.1 := by
  intro before
  rw [get?, if_pos rfl, get?_of_below] at same
  · contradiction
  · rw [List.forall_mem_cons]
    exact ⟨before, fun other among => String.lt_trans before (above other among)⟩

theorem Ascending.ext (ascending : Ascending table) (also : Ascending later)
    (same : ∀ key, get? table key = get? later key) : table = later := by
  induction table generalizing later with
  | nil =>
    cases later with
    | nil => rfl
    | cons entry rest => simpa [get?] using same entry.1
  | cons first rest ih =>
    cases later with
    | nil => simpa [get?] using same first.1
    | cons entry others =>
      obtain ⟨above, below⟩ := List.pairwise_cons.mp ascending
      obtain ⟨aboveToo, belowToo⟩ := List.pairwise_cons.mp also
      have keys : first.1 = entry.1 :=
        String.le_antisymm (String.not_lt.mp (not_lt_of_get?_eq (same entry.1).symm above))
          (String.not_lt.mp (not_lt_of_get?_eq (same first.1) aboveToo))
      have values : first.2 = entry.2 := by simpa [get?, keys] using same first.1
      have rests : rest = others := by
        refine ih below belowToo fun key => ?_
        by_cases first : key = entry.1
        · rw [get?_of_below fun other among => first ▸ keys ▸ above other among,
            get?_of_below fun other among => first ▸ aboveToo other among]
        · simpa [get?, keys, first] using same key
      rw [Prod.ext keys values, rests]

theorem insert_comm (ascending : Ascending table) (apart : key ≠ other) :
    insert key value (insert other another table) =
      insert other another (insert key value table) := by
  refine ((ascending.insert _ _).insert _ _).ext ((ascending.insert _ _).insert _ _)
    fun wanted => ?_
  simp only [get?_insert]
  by_cases first : wanted = key
  · simp [first, apart]
  · simp [first]

/-- The entries of both tables. Under a key of both the later one counts. -/
def override (table later : Dict α) : Dict α :=
  later.foldl (fun table entry => insert entry.1 entry.2 table) table

theorem Ascending.override (ascending : Ascending table) (later : Dict α) :
    Ascending (override table later) := by
  induction later generalizing table with
  | nil => exact ascending
  | cons entry rest ih => exact ih (ascending.insert _ _)

theorem get?_override (also : Ascending later) (key : String) :
    get? (override table later) key = (get? later key).or (get? table key) :=
  get?_foldl_insert also.nodup_keys key

theorem override_insert (ascending : Ascending table) (also : Ascending later) (key : String)
    (value : α) :
    override table (insert key value later) = insert key value (override table later) := by
  refine (ascending.override _).ext ((ascending.override _).insert _ _) fun wanted => ?_
  rw [get?_override (also.insert _ _), get?_insert, get?_insert, get?_override also]
  split <;> simp

end Typewright.Dict
