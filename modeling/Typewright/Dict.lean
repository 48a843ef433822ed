/-! Tables from names to values, kept in the order of the names. -/
namespace Typewright

/-- Entries in ascending order of their keys, each key once, as long as `insert` alone builds it. -/
abbrev Dict (α : Type) := List (String × α)

namespace Dict

/-- A later value replaces an earlier one under the same key. -/
def insert (key : String) (value : α) : Dict α → Dict α
  | [] => [(key, value)]
  | entry :: rest =>
    if key < entry.1 then (key, value) :: entry :: rest
    else if key = entry.1 then (key, value) :: rest
    else entry :: insert key value rest

def get? : Dict α → String → Option α
  | [], _ => none
  | entry :: rest, key => if key = entry.1 then some entry.2 else get? rest key

def keys (entries : Dict α) : List String := entries.map Prod.fst

def ofList (entries : List (String × α)) : Dict α :=
  entries.foldl (fun table entry => insert entry.1 entry.2 table) []

@[simp] theorem get?_insert (key : String) (value : α) (entries : Dict α) (other : String) :
    get? (insert key value entries) other =
      if other = key then some value else get? entries other := by
  induction entries with
  | nil => simp [insert, get?]
  | cons entry rest ih =>
    by_cases before : key < entry.1
    · simp [insert, get?, before]
    · by_cases same : key = entry.1
      · by_cases h : other = key <;> simp_all [insert, get?]
      · by_cases found : other = entry.1
        · simp [insert, get?, before, same, found, Ne.symm same]
        · simp [insert, get?, before, same, found, ih]

end Dict

end Typewright
