import ImageConfig.Proofs.ArgumentReading

/-!
# The lines of the build arguments

The image builder takes the build arguments line by line: one line with the arguments that every
image needs, one for each phase with entries, and a continuation at the end of each line but the
last one (`LaidOut`). Names are written as they are, so a line break in a name is a line break of
the text (`count_render`), and the lines are what they should be exactly if no name has one
(`laidOut_iff_unbroken`). Nothing keeps such a name away.
-/

namespace ImageConfig.BuildArguments

/-! ## Counting line breaks -/

/-- What is not in a separator is in the parts with the separator between each two as often as in
the parts alone. -/
theorem count_intercalate {α : Type} [DecidableEq α] {item : α} {separator : List α}
    (separates : item ∉ separator) (parts : List (List α)) :
    (separator.intercalate parts).count item = parts.flatten.count item := by
  induction parts with
  | nil => rfl
  | cons part rest hyp =>
    cases rest with
    | nil => simp
    | cons next later =>
      rw [List.intercalate_cons_cons, List.flatten_cons, List.count_append, List.count_append,
        List.count_append, List.count_eq_zero_of_not_mem separates, hyp, Nat.add_zero]

/-- How many line breaks there are in the names of a phase. -/
def breaks (timing : Timing) (phase : Phase) : Nat :=
  ((timing.entries phase).map String.toList).flatten.count '\n'

/-- The names of a phase have no line breaks exactly if none of them has one. -/
theorem breaks_eq_zero_iff (timing : Timing) (phase : Phase) :
    breaks timing phase = 0 ↔ ∀ name ∈ timing.entries phase, '\n' ∉ name.toList := by
  rw [breaks, List.count_eq_zero, List.mem_flatten]
  simp only [List.mem_map, not_exists, not_and, forall_exists_index, and_imp,
    forall_apply_eq_imp_iff₂]

/-- The text of a phase with entries has the line break before its line and those of its names. -/
theorem count_phaseText (timing : Timing) (phase : Phase) :
    (phaseText timing phase).toList.count '\n' =
      (if timing.hasEntries phase then 1 else 0) + breaks timing phase := by
  have joined : (commaJoined (timing.entries phase)).toList.count '\n' = breaks timing phase := by
    rw [commaJoined, String.toList_intercalate, count_intercalate (by decide), breaks]
  have begins : (option phase).toList.count '\n' = 0 := by cases phase <;> decide +kernel
  unfold phaseText
  split
  · rw [String.toList_append, String.toList_append, List.count_append, List.count_append, joined,
      begins]
    rfl
  · next none =>
    have empty : timing.entries phase = [] := by
      by_contra listed
      exact none ((timing.hasEntries_iff phase).mpr listed)
    rw [breaks, empty]
    rfl

/-- The text has one line for each phase with entries, one line besides, and the line breaks of all
names. -/
theorem count_render (timing : Timing) :
    (render timing).toList.count '\n' =
      (Phase.all.filter timing.hasEntries).length + 1 +
        (breaks timing .buildTime + breaks timing .runTime) := by
  have first := List.count_eq_zero.mpr not_mem_requiredArgs
  have phases : (Phase.all.filter timing.hasEntries).length =
      (if timing.hasEntries .buildTime then 1 else 0) +
        (if timing.hasEntries .runTime then 1 else 0) := by
    cases build : timing.hasEntries .buildTime <;> cases run : timing.hasEntries .runTime <;>
      simp [Phase.all, build, run]
  have last : ("\n" : String).toList.count '\n' = 1 := rfl
  unfold render
  rw [String.toList_append, String.toList_append, String.toList_append, List.count_append,
    List.count_append, List.count_append, first, count_phaseText, count_phaseText, last, phases]
  omega

/-! ## Where lines end -/

/-- No other line break follows the first one where it comes last. -/
theorem not_mem_of_cut {text before after : List Char} (unbroken : '\n' ∉ text)
    (cut : text ++ ['\n'] = before ++ '\n' :: after) : '\n' ∉ after := by
  have count := congrArg (List.count '\n') cut
  rw [List.count_append, List.count_append, List.count_eq_zero_of_not_mem unbroken,
    List.count_singleton_self, List.count_cons_self] at count
  have none : after.count '\n' = 0 := by omega
  exact List.count_eq_zero.mp none

/-- Of lines with continuations between them and a line break at the end, each line break that
another one follows comes after a continuation. -/
theorem continued_of_cut {lines : List (List Char)} (plain : ∀ line ∈ lines, '\n' ∉ line)
    {before after : List Char}
    (cut : continuation.toList.intercalate lines ++ ['\n'] = before ++ '\n' :: after)
    (more : '\n' ∈ after) : [' ', '\\'] <:+ before := by
  induction lines generalizing before with
  | nil => exact absurd more (not_mem_of_cut List.not_mem_nil cut)
  | cons line rest hyp =>
    obtain ⟨own, others⟩ := List.forall_mem_cons.mp plain
    cases rest with
    | nil =>
      rw [List.intercalate_singleton] at cut
      exact absurd more (not_mem_of_cut own cut)
    | cons next later =>
      have parts : line ++ [' ', '\\'] ++
          '\n' :: (continuation.toList.intercalate (next :: later) ++ ['\n']) =
            before ++ '\n' :: after := by
        rw [← cut, List.intercalate_cons_cons]
        simp [continuation]
      -- The first line break is that of the continuation after `line`.
      obtain ⟨gap, left, right⟩ | ⟨gap, left, right⟩ := List.append_eq_append_iff.mp parts
      · cases gap with
        | nil =>
          rw [left, List.append_nil]
          exact List.suffix_append line _
        | cons letter gap =>
          obtain ⟨_, rest⟩ := List.cons.inj right
          have inside : gap <:+ before := by
            rw [left]
            exact (List.suffix_cons letter gap).trans (List.suffix_append _ _)
          exact (hyp others rest).trans inside
      · cases gap with
        | nil =>
          rw [List.append_nil] at left
          rw [← left]
          exact List.suffix_append line _
        | cons letter gap =>
          obtain ⟨same, _⟩ := List.cons.inj right
          have early : '\n' ∈ line ++ [' ', '\\'] := by
            rw [left, same]
            exact List.mem_append_right before List.mem_cons_self
          simp [own] at early

/-- Lines that are not empty, with continuations between them, end as the last line does. -/
theorem getLast?_intercalate {lines : List (List Char)} (listed : lines ≠ [])
    (plain : ∀ line ∈ lines, '\n' ∉ line) (filled : ∀ line ∈ lines, line ≠ []) :
    ∃ last, (continuation.toList.intercalate lines).getLast? = some last ∧ last ≠ '\n' := by
  induction lines with
  | nil => exact absurd rfl listed
  | cons line rest hyp =>
    obtain ⟨own, others⟩ := List.forall_mem_cons.mp plain
    obtain ⟨some, othersFilled⟩ := List.forall_mem_cons.mp filled
    cases rest with
    | nil =>
      refine ⟨line.getLast some, ?_, fun same => own (same ▸ line.getLast_mem some)⟩
      rw [List.intercalate_singleton, List.getLast?_eq_some_getLast some]
    | cons next later =>
      obtain ⟨last, found, other⟩ := hyp (List.cons_ne_nil next later) others othersFilled
      refine ⟨last, ?_, other⟩
      rw [List.intercalate_cons_cons, List.getLast?_append, found, Option.some_or]

/-! ## Layout -/

/-- The text is laid out in lines as the image builder reads them. -/
structure LaidOut (timing : Timing) (text : String) : Prop where
  /-- The required arguments come first. -/
  begins : requiredArgs.toList <+: text.toList
  /-- One line break comes last, and there is none right before it. -/
  ends : ∃ body, text.toList = body ++ ['\n'] ∧ body.getLast? ≠ some '\n'
  /-- There is one line more than there are phases with entries. -/
  lines : text.toList.count '\n' = (Phase.all.filter timing.hasEntries).length + 1
  /-- Each line but the last one ends in a continuation. -/
  continued : ∀ before after, text.toList = before ++ '\n' :: after → '\n' ∈ after →
    [' ', '\\'] <:+ before

/-- The required arguments come first in every text. -/
theorem requiredArgs_isPrefix_render (timing : Timing) :
    requiredArgs.toList <+: (render timing).toList := by
  unfold render
  rw [String.append_assoc, String.append_assoc, String.toList_append]
  exact List.prefix_append _ _

/-- No line of the build arguments is empty. -/
theorem argumentLines_ne_nil (timing : Timing) :
    ∀ line ∈ (argumentLines timing).map String.toList, line ≠ [] := by
  rw [List.forall_mem_map]
  refine List.forall_mem_cons.mpr ⟨by decide +kernel, List.forall_mem_map.mpr ?_⟩
  intro phase _
  have begins : (option phase).toList ≠ [] := by cases phase <;> decide +kernel
  rw [String.toList_append]
  exact List.append_ne_nil_of_left_ne_nil begins _

/-- Every text begins with the required arguments and ends with a line break. It is laid out in
lines as the image builder reads them exactly if no name has a line break in it. -/
theorem laidOut_iff_unbroken (timing : Timing) :
    requiredArgs.toList <+: (render timing).toList ∧ ['\n'] <:+ (render timing).toList ∧
    (LaidOut timing (render timing) ↔
      ∀ phase, ∀ name ∈ timing.entries phase, '\n' ∉ name.toList) := by
  have built := toList_render timing
  refine ⟨requiredArgs_isPrefix_render timing, ?last, ?needed, ?enough⟩
  case last =>
    rw [built]
    exact List.suffix_append _ _
  case needed =>
    intro laid
    have count := laid.lines
    rw [count_render] at count
    have build : breaks timing .buildTime = 0 := by omega
    have run : breaks timing .runTime = 0 := by omega
    intro phase
    rw [← breaks_eq_zero_iff]
    cases phase with
    | buildTime => exact build
    | runTime => exact run
  case enough =>
    intro unbroken
    have plain := not_mem_argumentLines unbroken
    have none (phase : Phase) : breaks timing phase = 0 :=
      (breaks_eq_zero_iff timing phase).mpr (unbroken phase)
    have listed : (argumentLines timing).map String.toList ≠ [] := List.cons_ne_nil _ _
    obtain ⟨last, found, other⟩ :=
      getLast?_intercalate listed plain (argumentLines_ne_nil timing)
    refine ⟨requiredArgs_isPrefix_render timing, ⟨_, built, ?_⟩, ?_, ?_⟩
    · rw [found]
      exact fun same => other (Option.some.inj same)
    · rw [count_render, none, none]
    · intro before after cut more
      rw [built] at cut
      exact continued_of_cut plain cut more

/-- A name that ends in a line break leaves two of them at the end of the text, and a line too
many. -/
theorem not_laidOut_of_broken_name :
    let timing := (∅ : Timing).add .buildTime .classes "a.B\n"
    render timing = requiredArgs ++ " \\\n--initialize-at-build-time=a.B\n\n" ∧
    (Phase.all.filter timing.hasEntries).length = 1 ∧ (render timing).toList.count '\n' = 3 ∧
    ¬ LaidOut timing (render timing) := by
  intro timing
  have text : render timing = requiredArgs ++ " \\\n--initialize-at-build-time=a.B\n\n" := by
    have build : phaseText timing .buildTime = " \\\n--initialize-at-build-time=a.B\n" := by
      decide +kernel
    have run : phaseText timing .runTime = "" := rfl
    rw [render, build, run, String.append_empty, String.append_assoc]
    rfl
  have one : (Phase.all.filter timing.hasEntries).length = 1 := by decide
  have three : (render timing).toList.count '\n' = 3 := by
    rw [count_render, one]
    decide +kernel
  refine ⟨text, one, three, fun laid => ?_⟩
  have lines := laid.lines
  rw [one, three] at lines
  cases lines

end ImageConfig.BuildArguments
