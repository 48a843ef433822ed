import Mathlib.Data.List.Basic
import Mathlib.Data.List.Induction
import Typewright.Relay.Connection

/-! Rows cut into pages in one way or another. The connection of all rows is put together from the
connections of the pages, with empty pages among them or not. -/
namespace Typewright.Relay

def filled (pages : List (Page α)) : List (Page α) := pages.filter fun page => !page.data.isEmpty

variable {cursorOf : α → String} {page whole : Page α} {pages : List (Page α)}

theorem filled_append (pages more : List (Page α)) :
    filled (pages ++ more) = filled pages ++ filled more := List.filter_append ..

theorem filled_of_empty (empty : page.data = []) : filled [page] = [] := by
  simp [filled, empty]

theorem filled_of_rows (rows : page.data ≠ []) : filled [page] = [page] := by
  simp [filled, rows]

namespace Connection

theorem startCursor_ofPage :
    (ofPage page cursorOf).pageInfo.startCursor = page.data.head?.map cursorOf := by
  rw [ofPage, PageInfo.ofEdges, List.head?_map, Option.map_map]
  rfl

theorem endCursor_ofPage :
    (ofPage page cursorOf).pageInfo.endCursor = page.data.getLast?.map cursorOf := by
  rw [ofPage, PageInfo.ofEdges, List.getLast?_map, Option.map_map]
  rfl

theorem startCursor_eq_none_iff :
    (ofPage page cursorOf).pageInfo.startCursor = none ↔ page.data = [] := by
  rw [startCursor_ofPage, Option.map_eq_none_iff, List.head?_eq_none_iff]

theorem endCursor_eq_none_iff :
    (ofPage page cursorOf).pageInfo.endCursor = none ↔ page.data = [] := by
  rw [endCursor_ofPage, Option.map_eq_none_iff, List.getLast?_eq_none_iff]

theorem edges_concat (joined : whole.data = pages.flatMap (·.data)) :
    (ofPage whole cursorOf).edges = pages.flatMap fun page => (ofPage page cursorOf).edges := by
  rw [ofPage, joined, List.map_flatMap]
  rfl

/-- An empty page in front hides no row, any other page gives the first one. -/
theorem startCursor_concat (joined : whole.data = pages.flatMap (·.data)) :
    (ofPage whole cursorOf).pageInfo.startCursor =
      (filled pages).head?.bind fun page => (ofPage page cursorOf).pageInfo.startCursor := by
  rw [startCursor_ofPage, joined]
  clear joined
  induction pages with
  | nil => rfl
  | cons page pages ih =>
    rw [← List.singleton_append, filled_append, List.flatMap_append, List.flatMap_singleton]
    by_cases empty : page.data = []
    · rw [filled_of_empty empty, empty, List.nil_append, List.nil_append, ih]
    · rw [filled_of_rows empty, List.head?_append_of_ne_nil _ empty, List.singleton_append,
        List.head?_cons, Option.bind_some, startCursor_ofPage]

/-- The same from the other end, so that the pages are taken from the last one on. -/
theorem endCursor_concat (joined : whole.data = pages.flatMap (·.data)) :
    (ofPage whole cursorOf).pageInfo.endCursor =
      (filled pages).getLast?.bind fun page => (ofPage page cursorOf).pageInfo.endCursor := by
  rw [endCursor_ofPage, joined]
  clear joined
  induction pages using List.reverseRecOn with
  | nil => rfl
  | append_singleton pages page ih =>
    rw [filled_append, List.flatMap_append, List.flatMap_singleton]
    by_cases empty : page.data = []
    · rw [filled_of_empty empty, empty, List.append_nil, List.append_nil, ih]
    · rw [filled_of_rows empty, List.getLast?_append_of_ne_nil _ empty, List.getLast?_concat,
        Option.bind_some, endCursor_ofPage]

/-- The connection of the rows of several pages has the edges of their connections in a row, one for
each row and under the cursor of its node. It starts with the first page that holds rows and ends
with the last one, and has no cursors just if none does. Whether pages come before or after is up to
each page itself. -/
theorem ofPage_concat (cursorOf : α → String) (pages : List (Page α)) (whole : Page α)
    (joined : whole.data = pages.flatMap (·.data)) :
    (ofPage whole cursorOf).edges = pages.flatMap (fun page => (ofPage page cursorOf).edges) ∧
    (ofPage whole cursorOf).edges.map (·.node) = pages.flatMap (·.data) ∧
    (∀ edge ∈ (ofPage whole cursorOf).edges, edge.cursor = cursorOf edge.node) ∧
    (ofPage whole cursorOf).pageInfo.startCursor =
      (filled pages).head?.bind (fun page => (ofPage page cursorOf).pageInfo.startCursor) ∧
    (ofPage whole cursorOf).pageInfo.endCursor =
      (filled pages).getLast?.bind (fun page => (ofPage page cursorOf).pageInfo.endCursor) ∧
    ((ofPage whole cursorOf).pageInfo.startCursor = none ↔ ∀ page ∈ pages, page.data = []) ∧
    ((ofPage whole cursorOf).pageInfo.endCursor = none ↔ ∀ page ∈ pages, page.data = []) ∧
    ∀ page ∈ whole :: pages,
      (ofPage page cursorOf).pageInfo.hasPreviousPage = page.hasPreviousPage ∧
      (ofPage page cursorOf).pageInfo.hasNextPage = page.hasNextPage := by
  have empty : whole.data = [] ↔ ∀ page ∈ pages, page.data = [] := by
    rw [joined, List.flatMap_eq_nil_iff]
  refine ⟨edges_concat joined, ?nodes, ?cursors, startCursor_concat joined,
    endCursor_concat joined, startCursor_eq_none_iff.trans empty,
    endCursor_eq_none_iff.trans empty, fun page _ => ⟨rfl, rfl⟩⟩
  case nodes =>
    rw [← joined, ofPage, List.map_map]
    exact List.map_id _
  case cursors =>
    intro edge among
    obtain ⟨node, _, rfl⟩ := List.mem_map.mp among
    rfl

/-- Three rows on four pages. The first page is empty, and so is the last one. -/
def letters : List (Page Char) :=
  [⟨[], true, false⟩, ⟨['a', 'b'], false, true⟩, ⟨['c'], true, true⟩, ⟨[], false, false⟩]

theorem ofPage_concat_letters :
    ['a', 'b', 'c'] = letters.flatMap (·.data) ∧
    (ofPage ⟨['a', 'b', 'c'], false, true⟩ String.singleton).edges =
      letters.flatMap (fun page => (ofPage page String.singleton).edges) ∧
    (ofPage ⟨['a', 'b', 'c'], false, true⟩ String.singleton).pageInfo.startCursor = some "a" ∧
    (ofPage ⟨['a', 'b', 'c'], false, true⟩ String.singleton).pageInfo.endCursor = some "c" := by
  have joined : ['a', 'b', 'c'] = letters.flatMap (·.data) := rfl
  obtain ⟨edges, _, _, starts, ends, _⟩ :=
    ofPage_concat String.singleton letters ⟨['a', 'b', 'c'], false, true⟩ joined
  exact ⟨joined, edges, starts.trans rfl, ends.trans rfl⟩

end Connection

end Typewright.Relay
