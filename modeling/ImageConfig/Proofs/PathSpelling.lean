import Mathlib.Data.List.Basic
import Mathlib.Logic.Relation
import ImageConfig.File.Path

/-!
# Spellings of a path

Two absolute paths are the same if their components agree. As far as the text of a path is
concerned, this is to say that one text comes from the other by small changes that name nothing else
(`Respelled`): a slash written twice, a single dot between slashes, a slash at the end, and a single
dot at the end (`Path.components_eq_iff_respelled`).

One direction holds because no such change touches the components. For the other one, every absolute
path is brought to one spelling, from the front to the back; what has been read already is then a
beginning that nothing touches any more (`respelled_slashed`).
-/

namespace ImageConfig

/-! ## Parts between slashes -/

/-- There is always a part, if only an empty one. -/
theorem splitAtSlashes_ne_nil (chars : List Char) : splitAtSlashes chars ≠ [] := by
  cases chars with
  | nil => exact List.cons_ne_nil _ _
  | cons char rest =>
    unfold splitAtSlashes
    split
    · exact List.cons_ne_nil _ _
    · split <;> exact List.cons_ne_nil _ _

/-- A slash ends a part. -/
theorem splitAtSlashes_slash (rest : List Char) :
    splitAtSlashes ('/' :: rest) = [] :: splitAtSlashes rest := by
  rw [splitAtSlashes]
  cases parts : splitAtSlashes rest with
  | nil => exact absurd parts (splitAtSlashes_ne_nil rest)
  | cons part parts => rfl

/-- What stands before a slash and what stands after it are cut on their own. -/
theorem splitAtSlashes_append_slash (before after : List Char) :
    splitAtSlashes (before ++ '/' :: after) = splitAtSlashes before ++ splitAtSlashes after := by
  induction before with
  | nil => exact splitAtSlashes_slash after
  | cons char rest hyp =>
    cases parts : splitAtSlashes rest with
    | nil => exact absurd parts (splitAtSlashes_ne_nil rest)
    | cons part others =>
      rw [parts] at hyp
      rw [List.cons_append, splitAtSlashes, splitAtSlashes, hyp, parts]
      by_cases slash : char = '/' <;> simp [slash]

/-- Parts with a slash before each of them. -/
def slashed (parts : List (List Char)) : List Char := parts.flatMap fun part => '/' :: part

theorem slashed_cons (part : List Char) (rest : List (List Char)) :
    slashed (part :: rest) = '/' :: (part ++ slashed rest) := rfl

/-- The parts of a text, with a slash before each of them, are the text with a slash before it. -/
theorem slashed_splitAtSlashes (chars : List Char) :
    slashed (splitAtSlashes chars) = '/' :: chars := by
  induction chars with
  | nil => rfl
  | cons char rest hyp =>
    cases parts : splitAtSlashes rest with
    | nil => exact absurd parts (splitAtSlashes_ne_nil rest)
    | cons part others =>
      rw [parts] at hyp
      rw [splitAtSlashes, parts]
      by_cases slash : char = '/'
      · simp_all [slashed]
      · simp_all [slashed]

/-- The part names something: it is neither empty nor a single dot. -/
def IsComponent (part : List Char) : Prop := part ≠ [] ∧ part ≠ ['.']

instance (part : List Char) : Decidable (IsComponent part) := inferInstanceAs (Decidable (_ ∧ _))

/-- The parts of a text that name something. -/
def componentsOf (chars : List Char) : List (List Char) :=
  (splitAtSlashes chars).filter fun part => IsComponent part

/-- The components of a path are those of its text. -/
theorem Path.components_eq (path : Path) :
    path.components = (componentsOf path.text.toList).map String.ofList := by
  unfold components parts componentsOf
  rw [List.filter_map, List.filter_filter]
  congr 1
  refine List.filter_congr fun part _ => ?_
  have dot : String.ofList part = "." ↔ part = ['.'] := by
    rw [← String.toList_inj, String.toList_ofList]
    rfl
  rw [Bool.eq_iff_iff]
  simp only [Function.comp_apply, Bool.and_eq_true, decide_eq_true_eq, Bool.not_eq_true',
    List.isEmpty_eq_false_iff, ne_eq, dot]
  exact and_comm

/-- What stands before a slash and what stands after it have their own components. -/
theorem componentsOf_append_slash (before after : List Char) :
    componentsOf (before ++ '/' :: after) = componentsOf before ++ componentsOf after := by
  unfold componentsOf
  rw [splitAtSlashes_append_slash, List.filter_append]

/-- A slash at the beginning is no component. -/
theorem componentsOf_slash (after : List Char) :
    componentsOf ('/' :: after) = componentsOf after :=
  componentsOf_append_slash [] after

/-- An absolute path is written with a slash at the beginning. -/
theorem Path.isAbsolute_iff {path : Path} :
    path.isAbsolute = true ↔ ∃ rest, path.text.toList = '/' :: rest := by
  unfold isAbsolute
  cases path.text.toList <;> simp

/-! ## Changes of the spelling -/

/-- The second text is the first one with something taken out that names nothing. -/
inductive Respelled : List Char → List Char → Prop where
  /-- A slash that follows another one. -/
  | slash (before after : List Char) :
    Respelled (before ++ '/' :: '/' :: after) (before ++ '/' :: after)
  /-- A single dot between slashes. -/
  | dot (before after : List Char) :
    Respelled (before ++ '/' :: '.' :: '/' :: after) (before ++ '/' :: after)
  /-- A slash at the end of more than a slash. -/
  | lastSlash (before : List Char) (more : before ≠ []) : Respelled (before ++ ['/']) before
  /-- A single dot at the end. -/
  | lastDot (before : List Char) : Respelled (before ++ ['/', '.']) (before ++ ['/'])

/-- What is taken out is no component. -/
theorem Respelled.componentsOf_eq {left right : List Char} (step : Respelled left right) :
    componentsOf left = componentsOf right := by
  cases step with
  | slash before after =>
    rw [componentsOf_append_slash, componentsOf_append_slash, componentsOf_slash]
  | dot before after =>
    have dot : componentsOf ('.' :: '/' :: after) = componentsOf after :=
      componentsOf_append_slash ['.'] after
    rw [componentsOf_append_slash, componentsOf_append_slash, dot]
  | lastSlash _ more => exact (componentsOf_append_slash _ []).trans (List.append_nil _)
  | lastDot before => rw [componentsOf_append_slash, componentsOf_append_slash]; rfl

/-- Texts that come from one another by such changes have the same components. -/
theorem componentsOf_eq_of_respelled {left right : List Char}
    (spelled : Relation.EqvGen Respelled left right) : componentsOf left = componentsOf right := by
  induction spelled with
  | rel _ _ step => exact step.componentsOf_eq
  | refl _ => rfl
  | symm _ _ _ hyp => exact hyp.symm
  | trans _ _ _ _ _ first second => exact first.trans second

/-! ## One spelling for all -/

/-- The text, or a slash for none at all. -/
def orRoot (text : List Char) : List Char := if text = [] then ['/'] else text

/-- A slash at the end may go, except after nothing. -/
theorem respelled_lastSlash (before : List Char) :
    Relation.EqvGen Respelled (before ++ ['/']) (orRoot before) := by
  by_cases root : before = []
  · rw [root]
    exact .refl _
  · rw [orRoot, if_neg root]
    exact .rel _ _ (.lastSlash before root)

/-- A part that is no component may go from the end. -/
theorem respelled_last (before : List Char) {part : List Char} (nameless : ¬ IsComponent part) :
    Relation.EqvGen Respelled (before ++ '/' :: part) (orRoot before) := by
  by_cases empty : part = []
  · rw [empty]
    exact respelled_lastSlash before
  · have dot : part = ['.'] := by simpa [IsComponent, empty] using nameless
    rw [dot]
    exact .trans _ _ _ (.rel _ _ (.lastDot before)) (respelled_lastSlash before)

/-- A part that is no component may go from before a slash. -/
theorem respelled_inner (before after : List Char) {part : List Char}
    (nameless : ¬ IsComponent part) :
    Relation.EqvGen Respelled (before ++ '/' :: (part ++ '/' :: after))
      (before ++ '/' :: after) := by
  by_cases empty : part = []
  · rw [empty]
    exact .rel _ _ (.slash before after)
  · have dot : part = ['.'] := by simpa [IsComponent, empty] using nameless
    rw [dot]
    exact .rel _ _ (.dot before after)

/-- Parts that are no components may go from behind any beginning, from the front to the back. -/
theorem respelled_slashed (before : List Char) {parts : List (List Char)} (some : parts ≠ []) :
    Relation.EqvGen Respelled (before ++ slashed parts)
      (orRoot (before ++ slashed (parts.filter fun part => IsComponent part))) := by
  induction parts generalizing before with
  | nil => exact absurd rfl some
  | cons part rest hyp =>
    by_cases names : IsComponent part
    · -- The part belongs to the beginning from now on.
      have longer (others : List (List Char)) :
          before ++ slashed (part :: others) = (before ++ '/' :: part) ++ slashed others := by
        rw [slashed_cons, List.append_assoc, List.cons_append]
      rw [List.filter_cons, if_pos (decide_eq_true names), longer, longer]
      by_cases last : rest = []
      · have more : (before ++ '/' :: part) ++ slashed [] ≠ [] := by simp
        rw [last, List.filter_nil, orRoot, if_neg more]
        exact .refl _
      · exact hyp (before ++ '/' :: part) last
    · rw [List.filter_cons, if_neg (by simpa using names)]
      cases rest with
      | nil =>
        have last := respelled_last before names
        simpa [slashed] using last
      | cons next later =>
        refine .trans _ _ _ ?_ (hyp before (List.cons_ne_nil _ _))
        rw [slashed_cons, slashed_cons]
        exact respelled_inner before (next ++ slashed later) names

/-- Absolute texts with the same components come from one another by such changes. -/
theorem respelled_of_componentsOf_eq {left right : List Char}
    (same : componentsOf left = componentsOf right) :
    Relation.EqvGen Respelled ('/' :: left) ('/' :: right) := by
  have spelled (text : List Char) : Relation.EqvGen Respelled ('/' :: text)
      (orRoot (slashed (componentsOf text))) := by
    rw [← slashed_splitAtSlashes]
    exact respelled_slashed [] (splitAtSlashes_ne_nil text)
  have back := spelled right
  rw [← same] at back
  exact .trans _ _ _ (spelled left) (.symm _ _ back)

/-- Two absolute paths have the same components exactly if the text of one comes from that of the
other by changes that name nothing else. -/
theorem Path.components_eq_iff_respelled {left right : Path} (first : left.isAbsolute = true)
    (second : right.isAbsolute = true) :
    left.components = right.components ↔
      Relation.EqvGen Respelled left.text.toList right.text.toList := by
  rw [components_eq, components_eq, List.map_inj_right fun _ _ => String.ofList_inj.mp]
  refine ⟨fun same => ?_, componentsOf_eq_of_respelled⟩
  obtain ⟨begun, leftText⟩ := isAbsolute_iff.mp first
  obtain ⟨ended, rightText⟩ := isAbsolute_iff.mp second
  rw [leftText, rightText] at same ⊢
  rw [componentsOf_slash, componentsOf_slash] at same
  exact respelled_of_componentsOf_eq same

end ImageConfig
