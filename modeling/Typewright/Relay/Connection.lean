/-! Connections: the rows of a page with a cursor each, and where the page lies. -/
namespace Typewright.Relay

structure Page (α : Type) where
  /-- Rows in page order. -/
  data : List α
  hasPreviousPage : Bool
  hasNextPage : Bool

structure Edge (α : Type) where
  node : α
  cursor : String
deriving DecidableEq

/-- Cursors are missing when there is no edge. -/
structure PageInfo where
  hasNextPage : Bool
  hasPreviousPage : Bool
  startCursor : Option String
  endCursor : Option String
deriving DecidableEq

structure Connection (α : Type) where
  edges : List (Edge α)
  pageInfo : PageInfo
deriving DecidableEq

def PageInfo.ofEdges (edges : List (Edge α)) (hasPreviousPage hasNextPage : Bool) : PageInfo where
  hasNextPage
  hasPreviousPage
  startCursor := edges.head?.map (·.cursor)
  endCursor := edges.getLast?.map (·.cursor)

/-- Every row becomes an edge under the cursor of its node. -/
def Connection.ofPage (page : Page α) (cursorOf : α → String) : Connection α :=
  let edges := page.data.map fun node => ⟨node, cursorOf node⟩
  ⟨edges, .ofEdges edges page.hasPreviousPage page.hasNextPage⟩

end Typewright.Relay
