import FilterSql.Derive.Tree

/-!
# Separated lists

Items with the commas that stand between them, and perhaps one after the last.

Generated code has lifetimes ahead of all other parameters, wherever the
declaration has them, and a list keeps its commas when they are moved.
-/

namespace FilterSql.Derive

/-- An item of a list, and whether a comma follows it. -/
structure Separated (α : Type) where
  item : α
  comma : Bool
  deriving Repr

namespace Separated

variable {α β : Type}

def map (f : α → β) (x : Separated α) : Separated β :=
  ⟨f x.item, x.comma⟩

/-- The items with the lifetimes among them first. A comma stays with its item, and the last
lifetime gets one if other items follow, so that an item that has moved to the end keeps its own. -/
def lifetimesFirst (isLifetime : α → Bool) (xs : List (Separated α)) : List (Separated α) :=
  let others := xs.filter (!isLifetime ·.item)
  let lifetimes := xs.filter (isLifetime ·.item)
  lifetimes.map (fun x => ⟨x.item, x.comma || !others.isEmpty⟩) ++ others

def tokens (xs : List (Separated (List Token))) : List Token :=
  xs.flatMap fun x => x.item ++ if x.comma then [⟨",", false⟩] else []

end Separated

end FilterSql.Derive
