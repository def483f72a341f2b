import PathQuery.Command.Registry
import PathQuery.Proofs.Command.Arguments
import PathQuery.Proofs.Text.Lowercase

/-!
# The words of a command line

`Names` says which word of a line names the command: the first, once a slash in front of it has been
taken away. A line is read exactly if a word of it names a command, and the word is the name
(`Invocation.exists_name_iff`). The context is named by one word only, in any case
(`Registry.get?_standard_eq_context_iff`).

A line that has been read falls into parts (`Layout`): what stands in front of the name, the name,
and what follows it up to the blanks at the end. What follows the name is arguments and then the
unnamed value, and arguments are taken from left to right, so that one more argument in front of the
unnamed value is one more that is entered (`Invocation.ofText?_insert`).
-/

set_option autoImplicit false

namespace PathQuery

open Text

/-! ## Lines -/

/-- What stands in front of the word that names a command: blanks, and perhaps a slash among them. A
word that begins with a slash itself needs another one in front. -/
inductive Front (word : List Char) : List Char → Prop where
  | blanks {front : List Char} : Blanks front → word.head? ≠ some '/' → Front word front
  | slash {before after : List Char} : Blanks before → Blanks after →
      Front word (before ++ ('/' :: after))

/-- The line names a command by the word. -/
def Names (line word : String) : Prop :=
  ∃ front rest, Front word.toList front ∧ Word word.toList ∧ EndsWord rest ∧
    line.toList = front ++ (word.toList ++ rest)

namespace Invocation

/-- The text without the slash it begins with. -/
def withoutSlash (text : List Char) : List Char :=
  match text with
  | '/' :: rest => rest
  | _ => text

theorem withoutSlash_cases (text : List Char) :
    text = '/' :: withoutSlash text ∨ text.head? ≠ some '/' ∧ withoutSlash text = text := by
  unfold withoutSlash
  split
  · exact .inl rfl
  · next other =>
      refine .inr ⟨fun begins => ?_, rfl⟩
      obtain ⟨rest, split⟩ := List.head?_eq_some_iff.mp begins
      exact other rest split

theorem withoutSlash_of_ne {text : List Char} (begins : text.head? ≠ some '/') :
    withoutSlash text = text := by
  rcases withoutSlash_cases text with slash | ⟨-, same⟩
  · rw [slash] at begins
    exact absurd rfl begins
  · exact same

/-- The text that the name and the arguments are read from. -/
def body (line : String) : List Char := withoutSlash (trim line.toList)

/-- A line is read from its first word on. -/
theorem ofText?_eq (line : String) :
    ofText? line =
      if (splitWord (body line)).1.isEmpty then none
      else
        let (arguments, rest) := takeArguments [] (splitWord (body line)).2
        some ⟨String.ofList (splitWord (body line)).1, arguments, String.ofList (trim rest)⟩ := rfl

/-- The parts of a line: what stands in front of the name, the name, what follows it up to the last
character that is not blank, and the blanks at the end. -/
structure Layout (line front name after trail : List Char) : Prop where
  begins : Front name front
  word : Word name
  ends : EndsWord after
  last : Stops isBlank after.reverse
  blanks : Blanks trail
  split : line = front ++ (name ++ (after ++ trail))

/-- A line in its parts is read from the name on. -/
theorem Layout.splitWord_body {line : String} {front name after trail : List Char}
    (layout : Layout line.toList front name after trail) :
    splitWord (body line) = (name, after) := by
  obtain ⟨begins, word, ends, last, blanks, split⟩ := layout
  have ending (front : List Char) : Stops isBlank ((name ++ after).reverse ++ front) := by
    rw [List.reverse_append, List.append_assoc]
    exact last.append (word.stops_reverse front)
  cases begins with
  | blanks gap plain =>
      have trimmed : Trimmed (name ++ after) := ⟨word.stops after, by simpa using ending []⟩
      have plain : (name ++ after).head? ≠ some '/' := by
        obtain ⟨c, name, rfl⟩ := List.exists_cons_of_ne_nil word.ne_nil
        exact plain
      rw [body, split, ← List.append_assoc name, trim_append gap blanks trimmed,
        withoutSlash_of_ne plain]
      exact splitWord_append blanks_nil word ends
  | @slash before gap lead blanks' =>
      have trimmed : Trimmed ('/' :: (gap ++ (name ++ after))) := by
        refine ⟨stops_cons (by decide) _, ?_⟩
        rw [List.reverse_cons, List.reverse_append, List.append_assoc]
        exact ending _
      have parts : before ++ '/' :: gap ++ (name ++ (after ++ trail)) =
          before ++ ('/' :: (gap ++ (name ++ after)) ++ trail) := by simp
      rw [body, split, parts, trim_append lead blanks trimmed]
      exact splitWord_append blanks' word ends

/-- A line with a first word falls into its parts. -/
theorem exists_layout {line : String} (nonempty : (splitWord (body line)).1 ≠ []) :
    ∃ front trail, Layout line.toList front (splitWord (body line)).1 (splitWord (body line)).2
      trail := by
  obtain ⟨gap, blanks, word, ends, split⟩ := exists_splitWord nonempty
  obtain ⟨lead, trail, blanks', blanks'', trimmed, around⟩ := exists_trim line.toList
  generalize (splitWord (body line)).1 = name at *
  generalize (splitWord (body line)).2 = after at *
  -- The text behind the slash ends where the line without its blanks ends.
  have last {front : List Char} (same : trim line.toList = front ++ (gap ++ (name ++ after))) :
      Stops isBlank after.reverse := by
    have stops := trimmed.last
    rw [same, ← List.append_assoc, ← List.append_assoc, List.reverse_append] at stops
    exact stops.of_append
  rcases withoutSlash_cases (trim line.toList) with slash | ⟨plain, same⟩
  · have same : trim line.toList = ['/'] ++ (gap ++ (name ++ after)) := by
      rw [slash, ← split]
      rfl
    refine ⟨lead ++ '/' :: gap, trail, .slash blanks' blanks, word, ends, last same, blanks'', ?_⟩
    rw [around, same]
    simp
  · have same : trim line.toList = gap ++ (name ++ after) := by
      rw [← split, body, same]
    have stops := trimmed.first
    rw [same] at stops
    obtain rfl := blanks.eq_nil stops
    refine ⟨lead, trail, .blanks blanks' ?_, word, ends, @last [] same, blanks'', ?_⟩
    · intro begins
      obtain ⟨name, rfl⟩ := List.head?_eq_some_iff.mp begins
      rw [same] at plain
      exact plain rfl
    · rw [around, same]
      simp

/-! ## Reading a line -/

/-- A line in its parts is read as the name, the arguments behind it and the unnamed value. -/
theorem Layout.ofText?_eq {line : String} {front name after trail rest : List Char}
    {arguments : List (String × String)} (layout : Layout line.toList front name after trail)
    (takes : takeArguments [] after = (arguments, rest)) :
    ofText? line = some ⟨String.ofList name, arguments, String.ofList (trim rest)⟩ := by
  have filled : name.isEmpty = false := by simpa using layout.word.ne_nil
  rw [Invocation.ofText?_eq, layout.splitWord_body]
  simp only [filled, takes, Bool.false_eq_true, if_false]

/-- A line that is read has parts. -/
theorem exists_layout_of_ofText? {line : String} {invocation : Invocation}
    (read : ofText? line = some invocation) :
    ∃ front after trail, Layout line.toList front invocation.name.toList after trail := by
  rw [ofText?_eq] at read
  split at read
  · exact nomatch read
  · next filled =>
      obtain ⟨front, trail, layout⟩ := exists_layout (by simpa using filled)
      obtain rfl := Option.some.inj read
      exact ⟨front, _, trail, by rwa [String.toList_ofList]⟩

/-- A line is read exactly if a word of it names a command, and that word is the name. -/
theorem exists_name_iff {line word : String} :
    (∃ invocation, ofText? line = some invocation ∧ invocation.name = word) ↔ Names line word := by
  constructor
  · rintro ⟨invocation, read, rfl⟩
    obtain ⟨front, after, trail, layout⟩ := exists_layout_of_ofText? read
    have ends := layout.ends.append layout.blanks.stops
    exact ⟨front, after ++ trail, layout.begins, layout.word, ends, layout.split⟩
  · rintro ⟨front, rest, begins, run, ends, split⟩
    obtain ⟨trail, blanks, last, around⟩ := exists_trimEnd rest
    have layout : Layout line.toList front word.toList (trimEnd rest) trail :=
      ⟨begins, run, by rw [around] at ends; exact ends.of_append, last, blanks,
        by rw [← around, split]⟩
    exact ⟨_, layout.ofText?_eq rfl, String.ofList_toList⟩

/-- The only word that names a command on a line is the name that is read. -/
theorem names_iff {line word : String} {invocation : Invocation}
    (read : ofText? line = some invocation) : Names line word ↔ invocation.name = word := by
  rw [← exists_name_iff, read]
  simp

/-- **One more argument in front of the unnamed value** is read as the argument, entered after those
that stand before it, and changes nothing else. -/
theorem ofText?_insert {line : String} {invocation : Invocation}
    (read : ofText? line = some invocation) {word key value : String} (run : Word word.toList)
    (found : argument? word.toList = some (key, value)) :
    ∃ head rest, line = head ++ rest ∧ trim rest.toList = invocation.value.toList ∧
      ofText? (head ++ " " ++ word ++ rest) = some { invocation with
        arguments := Entries.insert invocation.arguments key value } := by
  obtain ⟨front, after, trail, layout⟩ := exists_layout_of_ofText? read
  obtain ⟨taken, rest, pairs, rfl, endsTaken, endsRest, written, settled⟩ :=
    exists_arguments layout.ends
  have takes : takeArguments [] (taken ++ rest) = (enter [] pairs, rest) := by
    rw [written.takeArguments_append endsRest, takeArguments_of_none settled]
  have parts := layout.ofText?_eq takes
  rw [read] at parts
  obtain ⟨name, arguments, value'⟩ := invocation
  obtain ⟨-, rfl, rfl⟩ := Invocation.mk.inj (Option.some.inj parts)
  have lastRest : Stops isBlank rest.reverse := by
    have last := layout.last
    rw [List.reverse_append] at last
    exact last.of_append
  let head := String.ofList (front ++ (name.toList ++ taken))
  let tail := String.ofList (rest ++ trail)
  have inserted : Layout (head ++ " " ++ word ++ tail).toList front name.toList
      (taken ++ (' ' :: (word.toList ++ rest))) trail := by
    refine ⟨layout.begins, layout.word, endsTaken.append (stops_cons (by decide) _), ?_,
      layout.blanks, by simp [head, tail]⟩
    rw [List.reverse_append, List.reverse_cons, List.reverse_append, List.append_assoc,
      List.append_assoc]
    exact lastRest.append (run.stops_reverse _)
  -- The word is read behind the arguments that stand before it.
  have takes' : takeArguments [] (taken ++ (' ' :: (word.toList ++ rest))) =
      (Entries.insert (enter [] pairs) key value, rest) := by
    have first : splitWord (' ' :: (word.toList ++ rest)) = (word.toList, rest) :=
      splitWord_append blanks_space run endsRest
    rw [written.takeArguments_append (stops_cons (by decide) _),
      takeArguments_of_argument (by rw [first]; exact found), first,
      takeArguments_of_none settled]
  refine ⟨head, tail, ?_, ?_, ?_⟩
  · rw [← String.toList_inj, layout.split]
    simp [head, tail]
  · rw [String.toList_ofList, String.toList_ofList, trim_append_blanks layout.blanks]
  · rw [inserted.ofText?_eq takes', String.ofList_toList]

end Invocation

/-! ## The names of commands -/

/-- The words that name the context are `context` in any case, and no others. -/
theorem Registry.get?_standard_eq_context_iff (name : String) :
    standard.get? name = some .context ↔ Grammar.Keyword "context" name.toList := by
  have context : lowercase "context" = "context" := by decide +kernel
  have window : lowercase "context-window" = "context-window" := by decide +kernel
  have help : lowercase "context-help" = "context-help" := by decide +kernel
  have question : lowercase "context?" = "context?" := by decide +kernel
  have plain : "context".toList.all (fun d => decide (Unambiguous d)) = true := by decide
  have plain : ∀ d ∈ "context".toList, Unambiguous d := fun d member =>
    of_decide_eq_true (List.all_eq_true.mp plain d member)
  rw [← lowercase_eq_iff plain (by decide), standard, get?_register, get?_register, get?_register,
    get?_register, context, window, help, question]
  by_cases same : lowercase name = "context"
  · simp [same]
  · simp only [same, if_false, iff_false]
    repeat' split
    all_goals nofun

end PathQuery
