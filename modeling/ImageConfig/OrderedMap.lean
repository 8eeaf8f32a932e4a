import ImageConfig.Accumulation

/-!
# Insertion-ordered maps

A map that remembers in which order its keys first came. Inserting under a key that is present
replaces the value and leaves the key where it stands, so a map read back lists every key once,
at its first insertion (`keys_insert`), with its last value (`get?_insert`).
-/

namespace ImageConfig

variable {κ ν : Type}

section Entries

variable [DecidableEq κ]

/-- The entries with `value` under `key`: in place where the key is present, else at the end. -/
def replaceOrAppend (key : κ) (value : ν) : List (κ × ν) → List (κ × ν)
  | [] => [(key, value)]
  | entry :: rest =>
    if entry.1 = key then (key, value) :: rest else entry :: replaceOrAppend key value rest

/-- The keys after an insertion are the keys before with the key appended if it is new. -/
theorem map_fst_replaceOrAppend (key : κ) (value : ν) (entries : List (κ × ν)) :
    (replaceOrAppend key value entries).map Prod.fst = appendNew (entries.map Prod.fst) key := by
  induction entries with
  | nil => simp [replaceOrAppend, appendNew]
  | cons entry rest hyp =>
    by_cases same : entry.1 = key
    · simp [replaceOrAppend, appendNew, same]
    · simp only [replaceOrAppend, if_neg same, List.map_cons, hyp]
      by_cases held : key ∈ rest.map Prod.fst
      · rw [appendNew_of_mem held, appendNew_of_mem (List.mem_cons_of_mem _ held)]
      · rw [appendNew_of_not_mem held, appendNew_of_not_mem]
        · rfl
        · simpa [Ne.symm same] using held

/-- The entry found under a key after an insertion: the one inserted, or the one found before. -/
theorem find?_replaceOrAppend (key : κ) (value : ν) (entries : List (κ × ν)) (wanted : κ) :
    (replaceOrAppend key value entries).find? (fun entry => entry.1 = wanted) =
      if key = wanted then some (key, value) else entries.find? fun entry => entry.1 = wanted := by
  induction entries with
  | nil => by_cases asked : key = wanted <;> simp [replaceOrAppend, asked]
  | cons entry rest hyp =>
    by_cases same : entry.1 = key
    · by_cases asked : key = wanted <;> simp [replaceOrAppend, same, asked]
    · rw [replaceOrAppend, if_neg same]
      by_cases first : entry.1 = wanted
      · have other : ¬ key = wanted := fun asked => same (first.trans asked.symm)
        simp [first, other]
      · simp [first, hyp]

end Entries

/-- A finite map with its keys in the order of their first insertion. -/
structure OrderedMap (κ ν : Type) where
  /-- Keys with their values, first inserted first. -/
  entries : List (κ × ν)
  /-- No key is listed twice. -/
  nodup : (entries.map Prod.fst).Nodup
deriving DecidableEq

namespace OrderedMap

instance : EmptyCollection (OrderedMap κ ν) := ⟨⟨[], List.nodup_nil⟩⟩

instance : Inhabited (OrderedMap κ ν) := ⟨∅⟩

@[simp]
theorem entries_empty : (∅ : OrderedMap κ ν).entries = [] := rfl

/-- Keys, first inserted first. -/
def keys (map : OrderedMap κ ν) : List κ := map.entries.map Prod.fst

variable [DecidableEq κ]

/-- The value under `key`, if there is one. -/
def get? (map : OrderedMap κ ν) (key : κ) : Option ν :=
  (map.entries.find? (fun entry => entry.1 = key)).map Prod.snd

/-- The map with `value` under `key`; a new key comes last. -/
def insert (map : OrderedMap κ ν) (key : κ) (value : ν) : OrderedMap κ ν where
  entries := replaceOrAppend key value map.entries
  nodup := by
    rw [map_fst_replaceOrAppend]
    exact nodup_appendNew map.nodup key

/-- The map of the listed pairs, inserted in order. -/
def ofList (pairs : List (κ × ν)) : OrderedMap κ ν :=
  pairs.foldl (fun map pair => map.insert pair.1 pair.2) ∅

/-- Whether two maps hold the same values under the same keys, in whatever order. -/
def sameEntries [DecidableEq ν] (left right : OrderedMap κ ν) : Bool :=
  left.entries.length == right.entries.length &&
    left.entries.all fun entry => right.get? entry.1 == some entry.2

@[simp]
theorem entries_insert (map : OrderedMap κ ν) (key : κ) (value : ν) :
    (map.insert key value).entries = replaceOrAppend key value map.entries := rfl

@[simp]
theorem keys_insert (map : OrderedMap κ ν) (key : κ) (value : ν) :
    (map.insert key value).keys = appendNew map.keys key :=
  map_fst_replaceOrAppend key value map.entries

/-- The value under a key after an insertion: the one inserted, or the one there before. -/
theorem get?_insert (map : OrderedMap κ ν) (key : κ) (value : ν) (wanted : κ) :
    (map.insert key value).get? wanted = if key = wanted then some value else map.get? wanted := by
  rw [get?, entries_insert, find?_replaceOrAppend]
  split <;> rfl

end OrderedMap

end ImageConfig
