/-!
# Accumulating lists

Every collection of this library grows in one way: an item goes to the end unless an equal item
is already there. `appendNew` adds one item, `appendAllNew` a list of them in order. Members of a
class and interface lists of proxies accumulate in plain lists, whose starting point may hold
repeats; sets accumulate in lists without repeats (`OrderedSet`). The main statements here say
what is listed afterwards (`mem_appendNew`, `mem_appendAllNew`), that nothing listed before moves
(`isPrefix_appendAllNew`), and that a list without repeats stays one (`nodup_appendAllNew`).
-/

namespace ImageConfig

variable {α : Type} [DecidableEq α]

/-- The items with `item` at their end, or as they are when they already hold it. -/
def appendNew (items : List α) (item : α) : List α :=
  if item ∈ items then items else items ++ [item]

/-- The items with every one of `others` appended in order, as far as it is new. -/
def appendAllNew (items others : List α) : List α :=
  others.foldl appendNew items

@[simp]
theorem appendAllNew_nil (items : List α) : appendAllNew items [] = items := rfl

@[simp]
theorem appendAllNew_cons (items : List α) (item : α) (others : List α) :
    appendAllNew items (item :: others) = appendAllNew (appendNew items item) others := rfl

/-- Appending two lists one after the other is appending their concatenation. -/
theorem appendAllNew_append (items first second : List α) :
    appendAllNew items (first ++ second) = appendAllNew (appendAllNew items first) second :=
  List.foldl_append

/-- An item that is already held changes nothing. -/
theorem appendNew_of_mem {items : List α} {item : α} (held : item ∈ items) :
    appendNew items item = items := if_pos held

/-- An item that is not held yet goes to the end. -/
theorem appendNew_of_not_mem {items : List α} {item : α} (fresh : item ∉ items) :
    appendNew items item = items ++ [item] := if_neg fresh

@[simp]
theorem mem_appendNew {items : List α} {item other : α} :
    other ∈ appendNew items item ↔ other ∈ items ∨ other = item := by
  by_cases held : item ∈ items
  · rw [appendNew_of_mem held]
    exact ⟨Or.inl, fun either => either.elim id (fun same => same ▸ held)⟩
  · simp [appendNew_of_not_mem held]

@[simp]
theorem mem_appendAllNew {items others : List α} {item : α} :
    item ∈ appendAllNew items others ↔ item ∈ items ∨ item ∈ others := by
  induction others generalizing items with
  | nil => simp
  | cons head rest hyp => simp [hyp, or_assoc]

/-- What was listed before appending one item stands first, unmoved. -/
theorem isPrefix_appendNew (items : List α) (item : α) : items <+: appendNew items item := by
  by_cases held : item ∈ items
  · exact (appendNew_of_mem held).symm ▸ List.prefix_rfl
  · rw [appendNew_of_not_mem held]
    exact List.prefix_append _ _

/-- What was listed before appending a list stands first, unmoved. -/
theorem isPrefix_appendAllNew (items others : List α) : items <+: appendAllNew items others := by
  induction others generalizing items with
  | nil => exact List.prefix_rfl
  | cons head rest hyp => exact (isPrefix_appendNew items head).trans (hyp _)

/-- Appending one item keeps a list free of repeats. -/
theorem nodup_appendNew {items : List α} (distinct : items.Nodup) (item : α) :
    (appendNew items item).Nodup := by
  by_cases held : item ∈ items
  · rwa [appendNew_of_mem held]
  · rw [appendNew_of_not_mem held, List.nodup_append]
    refine ⟨distinct, List.pairwise_singleton _ _, fun one oneHeld two twoHeld same => held ?_⟩
    rwa [← List.mem_singleton.1 twoHeld, ← same]

/-- Appending a list keeps a list free of repeats. -/
theorem nodup_appendAllNew {items : List α} (distinct : items.Nodup) (others : List α) :
    (appendAllNew items others).Nodup := by
  induction others generalizing items with
  | nil => exact distinct
  | cons head rest hyp => exact hyp (nodup_appendNew distinct head)

end ImageConfig
