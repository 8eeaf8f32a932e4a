/-!
# Handles

Several clients may hold handles of one value. Each use of a handle has the value to itself, so a
run through any handles is a run on the value. The last handle gives the value back.
-/

namespace ImageConfig

/-- A value with the number of its handles beyond the first one. -/
structure Handles (α : Type) where
  /-- The value behind every handle. -/
  value : α
  /-- How many handles there are besides one. -/
  others : Nat := 0

namespace Handles

variable {α β : Type}

/-- The value behind its first handle. -/
def new (value : α) : Handles α := ⟨value, 0⟩

/-- One handle more. -/
def clone (handles : Handles α) : Handles α := ⟨handles.value, handles.others + 1⟩

/-- One handle less, as long as another one is left. -/
def drop (handles : Handles α) : Handles α := ⟨handles.value, handles.others - 1⟩

/-- Uses the value through a handle. -/
def use (handles : Handles α) (action : α → α × β) : Handles α × β :=
  let used := action handles.value
  (⟨used.1, handles.others⟩, used.2)

/-- The value itself, if one handle is left. -/
def reclaim? (handles : Handles α) : Option α :=
  if handles.others = 0 then some handles.value else none

/-- Using the value through a clone is using the value. -/
theorem use_clone (handles : Handles α) (action : α → α × β) :
    handles.clone.use action = ((handles.use action).1.clone, (handles.use action).2) := rfl

/-- A value is given back after every clone has been dropped, and not before. -/
theorem reclaim?_drop_clone (handles : Handles α) :
    handles.clone.reclaim? = none ∧ handles.clone.drop.reclaim? = handles.reclaim? :=
  ⟨rfl, rfl⟩

end Handles

end ImageConfig
