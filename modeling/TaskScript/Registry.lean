/-!
# The registry of tags

Which domain a task belongs to is decided by its name, without regard to the case of the letters
`A` to `Z`; any other character counts as it is. A later registration replaces an earlier one.
-/

namespace TaskScript

/-- A field of work with a collaborator of its own. -/
inductive Domain where
  | quantum
  | ledger
deriving DecidableEq

/-- The text with the letters `A` to `Z` lowered, and all else as it is. -/
def foldCase (text : String) : String := String.ofList (text.toList.map Char.toLower)

/-- Tags and their domains, in order of registration. -/
structure Registry where
  entries : List (String × Domain) := []
deriving DecidableEq

namespace Registry

/-- Are the tags the same but for case? -/
def sameTag (a b : String) : Bool := foldCase a = foldCase b

/-- Registers a tag, over one that is the same but for case. -/
def register (registry : Registry) (tag : String) (domain : Domain) : Registry :=
  ⟨registry.entries.filter (fun entry => !sameTag entry.1 tag) ++ [(tag, domain)]⟩

/-- The domain of a tag. -/
def resolve (registry : Registry) (tag : String) : Option Domain :=
  (registry.entries.find? fun entry => sameTag entry.1 tag).map (·.2)

/-- The registry without entries. -/
def empty : Registry := {}

/-- The registry that knows one task of each domain. -/
def standard : Registry :=
  (empty.register "quantum_operation" .quantum).register "blockchain_transaction" .ledger

end Registry

end TaskScript
