import ImageConfig.Proofs.CompactText

/-!
# Texts of arrays

A text that gives a whole value gives the same value where it stands as an item of an array. So the
text of an array can be put together from the texts of its items, whatever blanks they have around
them, and gives the array of their values (`Document.ofText_arrayText`).

Two things have to be seen for this. A comma or a bracket completes the same token as the end of the
text does (`lexes_delimited`). And the automaton that builds the tree does not look at the arrays
and objects around the value that it is building: what it does inside them is what it does at the
top of a text, with their frames added (`Progress.step_within`).
-/

namespace ImageConfig.Json

/-- The text of an array whose items have the given texts. -/
def arrayText (items : List String) : String := "[" ++ ",".intercalate items ++ "]"

/-! ## The last token of a text -/

namespace Mode

/-- Between tokens, the automaton fails only with a token that says so. -/
theorem start_ne_failed (char : Char) : (start char).2 ≠ .failed ∨ .bad ∈ (start char).1 := by
  unfold start
  repeat' split
  all_goals simp [fail]

/-- The automaton fails only with a token that says so. -/
theorem step_ne_failed {mode : Mode} (going : mode ≠ .failed) (char : Char) :
    (mode.step char).2 ≠ .failed ∨ .bad ∈ (mode.step char).1 := by
  cases mode with
  | failed => exact absurd rfl going
  | between => exact start_ne_failed char
  | number part taken =>
    have started := start_ne_failed char
    simp only [step]
    split
    · simp
    · simpa using started
    · simp [fail]
  | word rest token =>
    cases rest with
    | nil => simp [step]
    | cons expected rest =>
      simp only [step]
      repeat' split
      all_goals simp [fail]
  | string | escape | unit =>
    simp only [step]
    repeat' split
    all_goals simp [fail]

end Mode

/-- Characters lead on from every mode, and to failure only with a token that says so. -/
theorem exists_lexes (mode : Mode) (chars : List Char) :
    ∃ emitted after, Lexes mode chars emitted after ∧
      (mode ≠ .failed → .bad ∉ emitted → after ≠ .failed) := by
  induction chars generalizing mode with
  | nil => exact ⟨[], mode, .nil mode, fun going _ => going⟩
  | cons char rest hyp =>
    obtain ⟨emitted, after, lexes, still⟩ := hyp (mode.step char).2
    refine ⟨(mode.step char).1 ++ emitted, after, .cons rfl lexes, fun going sound => ?_⟩
    rw [List.mem_append, not_or] at sound
    apply still
    · exact (Mode.step_ne_failed going char).resolve_right sound.1
    · exact sound.2

/-- The tokens of a text are those that its characters emit and those that its end completes. -/
theorem Lexes.tokens_eq {chars : List Char} {emitted : List Token} {after : Mode}
    (lexes : Lexes .between chars emitted after) : tokens chars = emitted ++ after.finish := by
  show (chars.foldl Lexer.step ⟨[], .between⟩).emitted.reverse ++
    (chars.foldl Lexer.step ⟨[], .between⟩).mode.finish = _
  rw [lexes [], List.append_nil, List.reverse_reverse]

/-- A character that is a token of its own and part of no number, so a number ends before it. -/
structure Delimits (char : Char) (token : Token) : Prop where
  /-- The character is that token. -/
  alone : Mode.start char = ([token], .between)
  /-- No number goes on with it. -/
  ends : ∀ (part : NumberPart) (number : Number), part.mayEnd = true →
    number.step part char = .ended

/-- A comma is a token of its own. -/
theorem delimits_comma : Delimits ',' .comma where
  alone := rfl
  ends part number mayEnd := by
    cases part with
    | zero | whole | fraction | exponent => rfl
    | sign | point | mark | markSign => cases mayEnd

/-- A closing bracket is a token of its own. -/
theorem delimits_closeArray : Delimits ']' .closeArray where
  alone := rfl
  ends part number mayEnd := by
    cases part with
    | zero | whole | fraction | exponent => rfl
    | sign | point | mark | markSign => cases mayEnd

/-- A delimiter completes the same token as the end of the text does, and then comes itself. -/
theorem lexes_delimited {chars : List Char} (sound : .bad ∉ tokens chars) {char : Char}
    {token : Token} (delimits : Delimits char token) :
    Lexes .between (chars ++ [char]) (tokens chars ++ [token]) .between := by
  obtain ⟨emitted, after, lexes, still⟩ := exists_lexes .between chars
  rw [lexes.tokens_eq] at sound ⊢
  rw [List.mem_append, not_or] at sound
  have step : after.step char = (after.finish ++ [token], .between) := by
    cases after with
    | between => exact delimits.alone
    | number part taken =>
      have mayEnd : part.mayEnd = true := by
        cases ends : part.mayEnd with
        | true => rfl
        | false => exact absurd (by simp [Mode.finish, ends]) sound.2
      simp [Mode.step, Mode.finish, mayEnd, delimits.ends part taken mayEnd, delimits.alone]
    | failed => exact absurd rfl (still (by simp) sound.1)
    | word | string | escape | unit => exact absurd List.mem_cons_self sound.2
  rw [List.append_assoc]
  exact lexes.append (.single step)

/-! ## A value in its place -/

namespace Progress

/-- Once a text has gone wrong, no further token changes its tree. -/
theorem foldl_step_spoilt (tree : Tree) (tokens : List Token) :
    tokens.foldl step (.spoilt tree) = .spoilt tree := by
  induction tokens with
  | nil => rfl
  | cons token rest hyp => exact hyp

/-- A text with a token that says that it goes wrong gives no whole value. -/
theorem bad_not_mem_of_complete {progress : Progress} {tokens : List Token} {tree : Tree}
    (complete : tokens.foldl step progress = .complete tree) : .bad ∉ tokens := by
  intro bad
  obtain ⟨before, after, rfl⟩ := List.append_of_mem bad
  obtain ⟨spoilt, wrong⟩ : ∃ spoilt, (before.foldl step progress).step .bad = .spoilt spoilt := by
    cases before.foldl step progress <;> exact ⟨_, rfl⟩
  rw [List.foldl_append, List.foldl_cons, wrong, foldl_step_spoilt] at complete
  cases complete

/-- The same progress on a value that stands inside the given frames. -/
def within (outer : List Frame) : Progress → Progress
  | value stack => value (stack ++ outer)
  | arrayStart stack => arrayStart (stack ++ outer)
  | arrayNext items stack => arrayNext items (stack ++ outer)
  | objectStart stack => objectStart (stack ++ outer)
  | objectKey members stack => objectKey members (stack ++ outer)
  | objectColon members key stack => objectColon members key (stack ++ outer)
  | objectNext members stack => objectNext members (stack ++ outer)
  | complete tree => place tree outer
  | spoilt tree => spoilt (enclose tree outer)

/-- A value that is put inside frames is put there also if more frames stand around them. -/
theorem place_append (tree : Tree) (stack outer : List Frame) :
    place tree (stack ++ outer) = (place tree stack).within outer := by
  cases stack with
  | nil => rfl
  | cons frame rest => cases frame <;> rfl

/-- A tree is enclosed in frames one after the other. -/
theorem enclose_append (tree : Tree) (stack outer : List Frame) :
    enclose tree (stack ++ outer) = enclose (enclose tree stack) outer := by
  induction stack generalizing tree with
  | nil => rfl
  | cons frame rest hyp => cases frame <;> exact hyp _

/-- The tree inside of frames is the tree as it is on its own, enclosed in them. -/
theorem tree_within (progress : Progress) (outer : List Frame) :
    (progress.within outer).tree = enclose progress.tree outer := by
  cases progress with
  | complete tree =>
    cases outer with
    | nil => rfl
    | cons frame rest => cases frame <;> rfl
  | spoilt tree => rfl
  | _ => exact enclose_append _ _ outer

/-- A value begins inside of frames as it does on its own. -/
theorem start_append (stack outer : List Frame) (token : Token) :
    start (stack ++ outer) token = (start stack token).within outer := by
  cases token with
  | openArray | openObject => rfl
  | null | bool | number | string => exact place_append _ stack outer
  | _ => exact congrArg spoilt (enclose_append _ stack outer)

/-- A value that begins here stands inside of the given frames. -/
def Awaits (progress : Progress) (stack : List Frame) : Prop :=
  ∀ token, token ≠ .closeArray → progress.step token = start stack token

/-- An array that has just been opened takes its first item as it does the later ones. -/
theorem awaits_arrayStart (stack : List Frame) :
    (arrayStart stack).Awaits (.array [] :: stack) := by
  intro token opens
  cases token with
  | closeArray => exact absurd rfl opens
  | _ => rfl

/-- As long as a value is not complete, the frames around it make no difference to a step. -/
theorem step_within {progress : Progress} (unfinished : progress.isComplete = false)
    (outer : List Frame) (token : Token) :
    (progress.within outer).step token = (progress.step token).within outer := by
  have wrong : .spoilt (progress.within outer).tree = (spoilt progress.tree).within outer :=
    congrArg spoilt (progress.tree_within outer)
  cases progress with
  | complete => cases unfinished
  | spoilt => rfl
  | value stack => exact start_append stack outer token
  | arrayStart stack =>
    by_cases closes : token = .closeArray
    · subst closes
      exact place_append _ stack outer
    · have inside := awaits_arrayStart (stack ++ outer) token closes
      rw [awaits_arrayStart stack token closes]
      exact inside.trans (start_append (.array [] :: stack) outer token)
  | arrayNext items stack =>
    cases token with
    | comma => rfl
    | closeArray => exact place_append _ stack outer
    | _ => exact wrong
  | objectStart stack =>
    cases token with
    | string => rfl
    | closeObject => exact place_append _ stack outer
    | _ => exact wrong
  | objectKey members stack =>
    cases token with
    | string => rfl
    | _ => exact wrong
  | objectColon members key stack =>
    cases token with
    | colon => rfl
    | _ => exact wrong
  | objectNext members stack =>
    cases token with
    | comma => rfl
    | closeObject => exact place_append _ stack outer
    | _ => exact wrong

/-- Tokens that complete a value on its own put that value into whatever frames stand around it. -/
theorem foldl_step_within {progress : Progress} {tokens : List Token} {tree : Tree}
    (complete : tokens.foldl step progress = .complete tree) (outer : List Frame) :
    tokens.foldl step (progress.within outer) = place tree outer := by
  induction tokens generalizing progress with
  | nil =>
    rw [List.foldl_nil] at complete ⊢
    rw [complete]
    rfl
  | cons token rest hyp =>
    have unfinished : progress.isComplete = false := by
      cases progress with
      | complete early =>
        have ended := foldl_step_spoilt early rest
        cases ended.symm.trans complete
      | _ => rfl
    rw [List.foldl_cons, step_within unfinished]
    exact hyp complete

/-- Tokens that give a whole value put it where a value may begin. -/
theorem foldl_step_of_awaits {progress : Progress} {stack : List Frame}
    (awaits : progress.Awaits stack) {tokens : List Token} {tree : Tree}
    (complete : tokens.foldl step (.value []) = .complete tree) :
    tokens.foldl step progress = place tree stack := by
  cases tokens with
  | nil => cases complete
  | cons token rest =>
    have opens : token ≠ .closeArray := by
      rintro rfl
      cases (foldl_step_spoilt .broken rest).symm.trans complete
    have begun : start stack token = (start [] token).within stack := start_append [] stack token
    have others : rest.foldl step (start [] token) = .complete tree := complete
    rw [List.foldl_cons, awaits token opens, begun]
    exact foldl_step_within others stack

end Progress

/-! ## Items one after the other -/

/-- From one progress between two tokens, the characters lead to another one. -/
def Builds (first : Progress) (chars : List Char) (second : Progress) : Prop :=
  ∃ emitted, Lexes .between chars emitted .between ∧ emitted.foldl Progress.step first = second

namespace Builds

variable {first second third : Progress} {chars others : List Char}

/-- Characters that follow one another lead on from one another. -/
theorem append (head : Builds first chars second) (tail : Builds second others third) :
    Builds first (chars ++ others) third := by
  obtain ⟨emitted, lexes, rfl⟩ := head
  obtain ⟨later, follows, rfl⟩ := tail
  exact ⟨emitted ++ later, lexes.append follows, List.foldl_append⟩

/-- A delimiter is one step. -/
theorem single {char : Char} {token : Token} (delimits : Delimits char token) :
    Builds first [char] (first.step token) :=
  ⟨[token], .single delimits.alone, rfl⟩

/-- The document of a text is what its characters build from nothing. -/
theorem ofText_eq {text : String} (builds : Builds (.value []) text.toList second) :
    Document.ofText text = ⟨second.tree, second.isComplete⟩ := by
  obtain ⟨emitted, lexes, rfl⟩ := builds
  have tokens : tokens text.toList = emitted := lexes.tokens_eq.trans (List.append_nil emitted)
  unfold Document.ofText
  rw [tokens]

/-- A text that gives a whole value, with a delimiter after it, puts that value where a value may
begin. -/
theorem item {text : String} (whole : (Document.ofText text).isComplete = true)
    {stack : List Frame} (awaits : first.Awaits stack) {char : Char} {token : Token}
    (delimits : Delimits char token) :
    Builds first (text.toList ++ [char])
      ((Progress.place (Document.ofText text).tree stack).step token) := by
  have complete : (tokens text.toList).foldl Progress.step (.value []) =
      .complete (Document.ofText text).tree := by
    unfold Document.ofText at whole ⊢
    cases progress : (tokens text.toList).foldl Progress.step (.value []) with
    | complete tree => rfl
    | _ => simp [progress, Progress.isComplete] at whole
  have sound := Progress.bad_not_mem_of_complete complete
  refine ⟨_, lexes_delimited sound delimits, ?_⟩
  rw [List.foldl_append, Progress.foldl_step_of_awaits awaits complete]
  rfl

/-- The texts of items, with commas between them and a bracket at the end, complete the array. -/
theorem items {items : List String} (listed : items ≠ [])
    (whole : ∀ item ∈ items, (Document.ofText item).isComplete = true) {before : List Tree}
    {stack : List Frame} (awaits : first.Awaits (.array before :: stack)) :
    Builds first ([','].intercalate (items.map String.toList) ++ [']'])
      (.place (.array (.prepend before (.ofList (items.map fun item =>
        (Document.ofText item).tree)))) stack) := by
  induction items generalizing first before with
  | nil => exact absurd rfl listed
  | cons item rest hyp =>
    obtain ⟨head, others⟩ := List.forall_mem_cons.mp whole
    cases rest with
    | nil =>
      rw [List.map_singleton, List.intercalate_singleton]
      exact Builds.item head awaits delimits_closeArray
    | cons next later =>
      let grown : Progress := .value (.array ((Document.ofText item).tree :: before) :: stack)
      have comma : Builds first (item.toList ++ [',']) grown :=
        Builds.item head awaits delimits_comma
      have following : grown.Awaits (.array ((Document.ofText item).tree :: before) :: stack) :=
        fun _ _ => rfl
      have tail := hyp (List.cons_ne_nil next later) others following
      rw [List.map_cons, List.map_cons, List.intercalate_cons_cons, List.append_assoc]
      exact comma.append tail

end Builds

/-- The text of an array gives the array of the values that the texts of its items give. -/
theorem Document.ofText_arrayText {items : List String}
    (whole : ∀ item ∈ items, (Document.ofText item).isComplete = true) :
    Document.ofText (arrayText items) =
      ⟨.ofList (items.map fun item => (Document.ofText item).tree), true⟩ := by
  have chars : (arrayText items).toList =
      ['['] ++ ([','].intercalate (items.map String.toList) ++ [']']) := by
    unfold arrayText
    rw [String.toList_append, String.toList_append, String.toList_intercalate, List.append_assoc]
    rfl
  have opened : Builds (.value []) ['['] (.arrayStart []) := ⟨[.openArray], .single rfl, rfl⟩
  have closed : Builds (.arrayStart []) ([','].intercalate (items.map String.toList) ++ [']'])
      (.complete (.ofList (items.map fun item => (Document.ofText item).tree))) := by
    cases items with
    | nil => exact Builds.single delimits_closeArray
    | cons item rest =>
      exact Builds.items (List.cons_ne_nil item rest) whole (Progress.awaits_arrayStart [])
  have built := opened.append closed
  rw [← chars] at built
  exact built.ofText_eq

end ImageConfig.Json
