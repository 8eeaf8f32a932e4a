import Mathlib.Data.List.Basic
import ImageConfig.BuildArguments

/-!
# Reading build arguments back

The text of the build arguments gives back the entries of both phases (`entriesOf`), as long as no
name has a comma or a line break in it (`Timing.Plain`). A name may have anything else, such as the
backslash of a continuation at its end or an option in it: a line ends at its line break and nowhere
else, every line but the last one has the continuation that was put there (`uncontinued_continued`),
and an option counts only where a line begins (`namesAfter?`). A phase without entries has no line,
and a phase with the empty name alone has a line that ends with its option.
-/

namespace ImageConfig

/-- No name has a comma or a line break in it. -/
def Timing.Plain (timing : Timing) : Prop :=
  ∀ phase, ∀ name ∈ timing.entries phase, ',' ∉ name.toList ∧ '\n' ∉ name.toList

namespace BuildArguments

/-! ## Lines -/

/-- The lines of the build arguments. -/
def argumentLines (timing : Timing) : List String :=
  requiredArgs :: (Phase.all.filter timing.hasEntries).map fun phase =>
    option phase ++ commaJoined (timing.entries phase)

/-- The text is its lines with the continuation between each two. -/
theorem render_eq_intercalate (timing : Timing) :
    render timing = continuation.intercalate (argumentLines timing) ++ "\n" := by
  cases build : timing.hasEntries .buildTime <;> cases run : timing.hasEntries .runTime <;>
    simp [render, phaseText, argumentLines, Phase.all, build, run, String.append_assoc]

/-- The text is its lines with the continuation between each two, letter by letter. -/
theorem toList_render (timing : Timing) :
    (render timing).toList =
      continuation.toList.intercalate ((argumentLines timing).map String.toList) ++ ['\n'] := by
  rw [render_eq_intercalate, String.toList_append, String.toList_intercalate]
  rfl

/-- What is neither in a separator nor in any part is not in the parts with the separator between
each two. -/
theorem not_mem_intercalate {α : Type} {item : α} {separator : List α} {parts : List (List α)}
    (separates : item ∉ separator) (plain : ∀ part ∈ parts, item ∉ part) :
    item ∉ separator.intercalate parts := by
  induction parts with
  | nil => exact List.not_mem_nil
  | cons part rest hyp =>
    obtain ⟨own, others⟩ := List.forall_mem_cons.mp plain
    cases rest with
    | nil => rwa [List.intercalate_singleton]
    | cons next later =>
      rw [List.intercalate_cons_cons, List.mem_append, List.mem_append]
      rintro ((among | among) | among)
      · exact own among
      · exact separates among
      · exact hyp others among

/-- Lines of which each but the last one ends in a continuation. -/
def continued : List (List Char) → List (List Char)
  | [] => []
  | [last] => [last]
  | line :: next :: rest => (line ++ [' ', '\\']) :: continued (next :: rest)

/-- Lines without the continuation in which each but the last one ends. -/
def uncontinued : List (List Char) → List (List Char)
  | [] => []
  | [last] => [last]
  | line :: next :: rest => line.dropLast.dropLast :: uncontinued (next :: rest)

/-- The lines of a text of which each ends in a line break. -/
def linesOf (text : String) : List (List Char) := (text.toList.splitOn '\n').dropLast

/-- Where there is a line, there is a first continued one. -/
theorem continued_eq_cons (line : List Char) (rest : List (List Char)) :
    ∃ first others, continued (line :: rest) = first :: others := by
  cases rest <;> exact ⟨_, _, rfl⟩

/-- What continues lines can be taken away again, whatever the lines end in. -/
theorem uncontinued_continued (lines : List (List Char)) :
    uncontinued (continued lines) = lines := by
  fun_induction continued lines with
  | case1 => rfl
  | case2 last => rfl
  | case3 line next rest hyp =>
    obtain ⟨first, others, later⟩ := continued_eq_cons next rest
    rw [later] at hyp ⊢
    rw [uncontinued, hyp]
    simp

/-- A continuation between lines is a line break after a line that it ends. -/
theorem intercalate_continuation (lines : List (List Char)) :
    continuation.toList.intercalate lines = ['\n'].intercalate (continued lines) := by
  fun_induction continued lines with
  | case1 => rfl
  | case2 last => simp
  | case3 line next rest hyp =>
    obtain ⟨first, others, later⟩ := continued_eq_cons next rest
    rw [later] at hyp ⊢
    rw [List.intercalate_cons_cons, List.intercalate_cons_cons, hyp]
    simp [continuation]

/-- Continued lines have line breaks only where the lines have some. -/
theorem not_mem_continued {lines : List (List Char)} (plain : ∀ line ∈ lines, '\n' ∉ line) :
    ∀ line ∈ continued lines, '\n' ∉ line := by
  fun_induction continued lines with
  | case1 => exact plain
  | case2 last => exact plain
  | case3 line next rest hyp =>
    obtain ⟨first, others⟩ := List.forall_mem_cons.mp plain
    refine List.forall_mem_cons.mpr ⟨?_, hyp others⟩
    simp [first]

/-- Lines with continuations between them and a line break at the end can be told apart again. -/
theorem linesOf_eq_continued {text : String} {lines : List (List Char)}
    (built : text.toList = continuation.toList.intercalate lines ++ ['\n']) (listed : lines ≠ [])
    (plain : ∀ line ∈ lines, '\n' ∉ line) : linesOf text = continued lines := by
  have still : continued lines ≠ [] := by
    obtain ⟨line, rest, rfl⟩ := List.exists_cons_of_ne_nil listed
    obtain ⟨first, others, cons⟩ := continued_eq_cons line rest
    rw [cons]
    exact List.cons_ne_nil first others
  have split : (['\n'].intercalate (continued lines)).splitOn '\n' = continued lines :=
    List.splitOn_intercalate '\n' (not_mem_continued plain) still
  have ends : text.toList.splitOn '\n' = continued lines ++ [[]] := by
    have cut := List.splitOnP_append_cons (p := (· == '\n')) (['\n'].intercalate (continued lines))
      [] (beq_self_eq_true '\n')
    rw [built, intercalate_continuation]
    exact cut.trans (congrArg (· ++ [[]]) split)
  rw [linesOf, ends, List.dropLast_concat]

/-! ## Options -/

/-- The names that a line lists after the option of a phase, if it begins with that option. -/
def namesAfter? (phase : Phase) (line : List Char) : Option (List String) :=
  ((option phase).toList.isPrefixOf? line).map fun names =>
    (names.splitOn ',').map String.ofList

/-- The entries of a phase that a text of build arguments gives. -/
def entriesOf (text : String) (phase : Phase) : List String :=
  ((uncontinued (linesOf text)).findSome? (namesAfter? phase)).getD []

/-- Names between commas can be told apart, if there is one at least and none has a comma. -/
theorem splitOn_commaJoined {names : List String} (listed : names ≠ [])
    (plain : ∀ name ∈ names, ',' ∉ name.toList) :
    ((commaJoined names).toList.splitOn ',').map String.ofList = names := by
  have split := List.splitOn_intercalate ',' (List.forall_mem_map.mpr plain)
    (List.map_eq_nil_iff.not.mpr listed)
  rw [commaJoined, String.toList_intercalate]
  refine (congrArg (List.map String.ofList) split).trans ?_
  simp

/-- The line of a phase lists its names after its option. -/
theorem namesAfter?_own (phase : Phase) {names : List String} (listed : names ≠ [])
    (plain : ∀ name ∈ names, ',' ∉ name.toList) :
    namesAfter? phase (option phase ++ commaJoined names).toList = some names := by
  have begins : (option phase).toList.isPrefixOf? (option phase ++ commaJoined names).toList =
      some (commaJoined names).toList :=
    List.isPrefixOf?_eq_some_iff_append_eq.mpr String.toList_append.symm
  rw [namesAfter?, begins, Option.map_some, splitOn_commaJoined listed plain]

/-- The line of the other phase does not begin with the option of a phase. -/
theorem namesAfter?_opposite (phase : Phase) (names : String) :
    namesAfter? phase (option phase.opposite ++ names).toList = none := by
  rw [String.toList_append]
  cases phase <;> rfl

/-- The first line does not begin with the option of a phase. -/
theorem namesAfter?_requiredArgs (phase : Phase) :
    namesAfter? phase requiredArgs.toList = none := by
  cases phase <;> decide +kernel

/-- Among the lines of the build arguments, the names of a phase are found exactly if it has
entries. -/
theorem findSome?_argumentLines {timing : Timing} (plain : timing.Plain) (phase : Phase) :
    (((argumentLines timing).map String.toList).findSome? (namesAfter? phase)).getD [] =
      timing.entries phase := by
  have silent : ∀ {other}, timing.hasEntries other = false → timing.entries other = [] := by
    intro other silent
    by_contra listed
    rw [(timing.hasEntries_iff other).mpr listed] at silent
    cases silent
  have own : timing.hasEntries phase = true →
      namesAfter? phase (option phase ++ commaJoined (timing.entries phase)).toList =
        some (timing.entries phase) := fun requested =>
    namesAfter?_own phase ((timing.hasEntries_iff phase).mp requested)
      fun name among => (plain phase name among).1
  have other := namesAfter?_opposite phase (commaJoined (timing.entries phase.opposite))
  have first := namesAfter?_requiredArgs phase
  cases phase <;> cases build : timing.hasEntries .buildTime <;>
    cases run : timing.hasEntries .runTime <;>
      simp_all [argumentLines, Phase.all, Phase.opposite]

/-- The required arguments have no line break in them. -/
theorem not_mem_requiredArgs : '\n' ∉ requiredArgs.toList := by decide +kernel

/-- The lines of the build arguments have no line breaks in them if no name has one. -/
theorem not_mem_argumentLines {timing : Timing}
    (unbroken : ∀ phase, ∀ name ∈ timing.entries phase, '\n' ∉ name.toList) :
    ∀ line ∈ (argumentLines timing).map String.toList, '\n' ∉ line := by
  rw [List.forall_mem_map]
  refine List.forall_mem_cons.mpr ⟨not_mem_requiredArgs, List.forall_mem_map.mpr ?_⟩
  intro phase _
  have begins : '\n' ∉ (option phase).toList := by cases phase <;> decide +kernel
  have names : '\n' ∉ (commaJoined (timing.entries phase)).toList := by
    rw [commaJoined, String.toList_intercalate]
    exact not_mem_intercalate (by decide)
      (List.forall_mem_map.mpr (unbroken phase))
  rw [String.toList_append, List.mem_append]
  exact not_or.mpr ⟨begins, names⟩

/-- The entries of a phase are read back from the text of the build arguments. -/
theorem entriesOf_render {timing : Timing} (plain : timing.Plain) (phase : Phase) :
    entriesOf (render timing) phase = timing.entries phase := by
  have built := toList_render timing
  have unbroken := not_mem_argumentLines fun phase name among => (plain phase name among).2
  have lines := linesOf_eq_continued built (List.cons_ne_nil _ _) unbroken
  rw [entriesOf, lines, uncontinued_continued, findSome?_argumentLines plain]

/-- Timings with the same entries have the same text. -/
theorem render_congr {left right : Timing}
    (same : ∀ phase, left.entries phase = right.entries phase) : render left = render right := by
  have requested : ∀ phase, left.hasEntries phase = right.hasEntries phase := by
    intro phase
    rw [Bool.eq_iff_iff, left.hasEntries_iff, right.hasEntries_iff, same]
  unfold render phaseText
  rw [requested, requested, same, same]

/-- Where no name has a comma or a line break in it, the text gives back the entries of both phases,
classes before packages, so that two timings have the same text exactly if they have the same
entries. -/
theorem render_eq_iff_entries {left right : Timing} (leftPlain : left.Plain)
    (rightPlain : right.Plain) :
    (∀ phase, entriesOf (render left) phase =
      (left.names phase .classes).toList ++ (left.names phase .packages).toList) ∧
    (render left = render right ↔ ∀ phase, left.entries phase = right.entries phase) := by
  refine ⟨?reading, ⟨?determined, ?determining⟩⟩
  case reading => exact entriesOf_render leftPlain
  case determined =>
    intro same phase
    rw [← entriesOf_render leftPlain phase, same, entriesOf_render rightPlain phase]
  case determining => exact render_congr

/-- A timing with names that look like the end of a line, like an option, and like no name at
all. -/
def awkwardTiming : Timing where
  buildTimeClasses := .ofList ["", "a = b \\"]
  buildTimePackages := .ofList ["--initialize-at-run-time=c", " \\"]
  runTimeClasses := .ofList [""]

/-- The same entries with other ones among the packages. -/
def regroupedTiming : Timing where
  buildTimeClasses := .ofList [""]
  buildTimePackages := .ofList ["a = b \\", "--initialize-at-run-time=c", " \\"]
  runTimePackages := .ofList [""]

/-- Awkward names are read back as they are; packages and classes look the same, and one empty name
looks other than none. -/
theorem awkward_render_eq_iff_entries :
    awkwardTiming.Plain ∧ regroupedTiming.Plain ∧
    Timing.Plain { awkwardTiming with runTimeClasses := ∅ } ∧
    entriesOf (render awkwardTiming) .buildTime =
      ["", "a = b \\", "--initialize-at-run-time=c", " \\"] ∧
    entriesOf (render awkwardTiming) .runTime = [""] ∧
    render awkwardTiming = render regroupedTiming ∧
    render { awkwardTiming with runTimeClasses := ∅ } ≠ render awkwardTiming := by
  have awkward : awkwardTiming.Plain := fun phase => by cases phase <;> decide +kernel
  have regrouped : regroupedTiming.Plain := fun phase => by cases phase <;> decide +kernel
  have shortened : Timing.Plain { awkwardTiming with runTimeClasses := ∅ } := fun phase => by
    cases phase <;> decide +kernel
  obtain ⟨reading, same⟩ := render_eq_iff_entries awkward regrouped
  obtain ⟨_, different⟩ := render_eq_iff_entries shortened awkward
  refine ⟨awkward, regrouped, shortened, reading .buildTime, reading .runTime, same.mpr ?_, ?_⟩
  · intro phase
    cases phase <;> rfl
  · intro equal
    exact absurd (different.mp equal .runTime) (by decide +kernel)

end BuildArguments

end ImageConfig
