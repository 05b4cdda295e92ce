/-!
# Ordered maps

A map as a list of keys with values, in the order in which the keys first came.  A key that comes
again keeps its place and takes the new value.
-/

namespace Apidoc

abbrev Ordered (κ α : Type) := List (κ × α)

namespace Ordered

variable {κ α : Type} [BEq κ]

def get? (m : Ordered κ α) (k : κ) : Option α := (m.find? fun p => p.1 == k).map (·.2)

def contains (m : Ordered κ α) (k : κ) : Bool := m.any fun p => p.1 == k

def set : Ordered κ α → κ → α → Ordered κ α
  | [], k, v => [(k, v)]
  | p :: m, k, v => if p.1 == k then (p.1, v) :: m else p :: set m k v

/-- Later values win, places stay. -/
def overlay (m new : Ordered κ α) : Ordered κ α := new.foldl (fun m p => set m p.1 p.2) m

def ofList (ps : List (κ × α)) : Ordered κ α := overlay [] ps

end Ordered

end Apidoc
