import PathQuery.Command.Invocation
import PathQuery.Proofs.Text.Blanks

/-!
# The arguments of a command line

A word is an argument if it is an identifier, an equals sign and anything behind it, and the value
may stand in double quotes (`Invocation.Assigns`). That is what is read of a word
(`Invocation.argument?_eq_some_iff`).

A text of arguments is such words with blanks in front of them (`Invocation.Arguments`). Every text
begins with one, and no argument follows it (`Invocation.exists_arguments`). Its pairs are entered
one after the other, whatever comes behind it (`Invocation.Arguments.takeArguments_append`).
-/

set_option autoImplicit false

namespace PathQuery

open Text

/-! ## Words -/

namespace Text

/-- A row of characters without blanks. -/
abbrev Word (cs : List Char) : Prop := Run (fun c => !isBlank c) cs

/-- A word that stands in front of the text ends there. -/
abbrev EndsWord (cs : List Char) : Prop := Stops (fun c => !isBlank c) cs

theorem Word.stops {word : List Char} (run : Word word) (rest : List Char) :
    Stops isBlank (word ++ rest) :=
  Run.stops run (fun _ member => by simpa using member) rest

theorem Word.stops_reverse {word : List Char} (run : Word word) (rest : List Char) :
    Stops isBlank (word.reverse ++ rest) := by
  refine Word.stops ⟨by simpa using run.ne_nil, fun c member => ?_⟩ rest
  exact run.members c (List.mem_reverse.mp member)

theorem blanks_space : Blanks [' '] := by
  intro c member
  obtain rfl := List.mem_singleton.mp member
  decide

end Text

namespace Invocation

/-- A word behind blanks is the first word. -/
theorem splitWord_append {blanks word rest : List Char} (gap : Blanks blanks) (run : Word word)
    (ends : EndsWord rest) : splitWord (blanks ++ (word ++ rest)) = (word, rest) := by
  rw [splitWord, trimStart_append gap (run.stops rest)]
  exact Prod.ext (takeWhile_append run.members ends) (dropWhile_append run.members ends)

/-- A text that has a first word is blanks, the word and what follows it. -/
theorem exists_splitWord {text : List Char} (nonempty : (splitWord text).1 ≠ []) :
    ∃ blanks, Blanks blanks ∧ Word (splitWord text).1 ∧ EndsWord (splitWord text).2 ∧
      text = blanks ++ ((splitWord text).1 ++ (splitWord text).2) := by
  refine ⟨text.takeWhile isBlank, blanks_takeWhile text, ⟨nonempty, fun c member => ?_⟩,
    stops_dropWhile _ _, ?_⟩
  · exact List.all_eq_true.mp List.all_takeWhile c member
  · have word : (splitWord text).1 ++ (splitWord text).2 = trimStart text :=
      List.takeWhile_append_dropWhile
    rw [word]
    exact List.takeWhile_append_dropWhile.symm

/-- Only a blank text has no first word. -/
theorem splitWord_eq_nil_iff {text : List Char} : (splitWord text).1 = [] ↔ Blanks text := by
  constructor
  · intro none
    have split : text.takeWhile isBlank ++ trimStart text = text :=
      List.takeWhile_append_dropWhile
    have nothing : trimStart text = [] := by
      cases left : trimStart text with
      | nil => rfl
      | cons c rest =>
          have first : isBlank c = false := stops_dropWhile isBlank text c (by
            rw [show text.dropWhile isBlank = c :: rest from left]
            rfl)
          rw [splitWord, left, List.takeWhile_cons_of_pos (by simp [first])] at none
          exact absurd none (List.cons_ne_nil _ _)
    rw [nothing, List.append_nil] at split
    rw [← split]
    exact blanks_takeWhile text
  · intro blanks
    have nothing : trimStart text = [] := by
      have trimmed := trimStart_append blanks (stops_nil isBlank)
      rwa [List.append_nil] at trimmed
    rw [splitWord, nothing]
    rfl

/-! ## One argument -/

/-- A letter, one of those of ASCII, or an underscore. -/
def IsLetter (c : Char) : Prop := ('A' ≤ c ∧ c ≤ 'Z') ∨ ('a' ≤ c ∧ c ≤ 'z') ∨ c = '_'

/-- A letter, and then letters, digits and hyphens. -/
inductive Identifier : List Char → Prop
  | intro {c : Char} {rest : List Char} (first : IsLetter c)
      (more : ∀ d ∈ rest, IsLetter d ∨ ('0' ≤ d ∧ d ≤ '9') ∨ d = '-') : Identifier (c :: rest)

theorem isLetter_iff {c : Char} : (c.isAlpha || c == '_') = true ↔ IsLetter c := by
  delta Char.isAlpha Char.isUpper Char.isLower
  simp only [IsLetter, Bool.or_eq_true, Bool.and_eq_true, decide_eq_true_eq, beq_iff_eq,
    Char.le_def, ge_iff_le, or_assoc]

theorem follows_iff {c : Char} : (c.isAlphanum || c == '_' || c == '-') = true ↔
    IsLetter c ∨ ('0' ≤ c ∧ c ≤ '9') ∨ c = '-' := by
  have digit : c.isDigit = true ↔ '0' ≤ c ∧ c ≤ '9' := by
    simp [Char.isDigit, Char.le_def]
  rw [← isLetter_iff, ← digit, Char.isAlphanum, Bool.or_right_comm c.isAlpha,
    Bool.or_eq_true, Bool.or_eq_true, beq_iff_eq, or_assoc]

theorem isIdentifier_iff {cs : List Char} : isIdentifier cs = true ↔ Identifier cs := by
  cases cs with
  | nil => exact iff_of_false Bool.false_ne_true nofun
  | cons c rest =>
      rw [isIdentifier, Bool.and_eq_true, isLetter_iff, List.all_eq_true]
      constructor
      · rintro ⟨first, all⟩
        exact .intro first fun d member => follows_iff.mp (all d (List.mem_cons_of_mem _ member))
      · rintro ⟨first, more⟩
        refine ⟨first, fun d member => follows_iff.mpr ?_⟩
        rcases List.mem_cons.mp member with rfl | later
        · exact .inl first
        · exact more d later

/-- What is written for a value: the value in double quotes, or the value itself if it does not have
such quotes around it. -/
inductive Spelled (value : List Char) : List Char → Prop
  | quoted : Spelled value ('"' :: (value ++ ['"']))
  | plain (unquoted : ∀ inner, value ≠ '"' :: (inner ++ ['"'])) : Spelled value value

theorem unquote_quoted (value : List Char) : unquote ('"' :: (value ++ ['"'])) = value := by
  simp [unquote]

theorem unquote_eq_self {value : List Char} (unquoted : ∀ inner, value ≠ '"' :: (inner ++ ['"'])) :
    unquote value = value := by
  unfold unquote
  split
  · next rest =>
      refine if_neg fun last => ?_
      obtain ⟨inner, rfl⟩ := List.getLast?_eq_some_iff.mp last
      exact unquoted inner rfl
  · rfl

theorem unquote_eq_iff {value written : List Char} :
    unquote written = value ↔ Spelled value written := by
  constructor
  · rintro rfl
    by_cases quoted : ∃ inner, written = '"' :: (inner ++ ['"'])
    · obtain ⟨inner, rfl⟩ := quoted
      rw [unquote_quoted]
      exact .quoted
    · have unquoted : ∀ inner, written ≠ '"' :: (inner ++ ['"']) := not_exists.mp quoted
      rw [unquote_eq_self unquoted]
      exact .plain unquoted
  · rintro (_ | unquoted)
    · exact unquote_quoted value
    · exact unquote_eq_self unquoted

/-- The word gives the key the value. -/
inductive Assigns (word : List Char) (key value : String) : Prop
  | intro {written : List Char} (identifier : Identifier key.toList)
      (spelled : Spelled value.toList written) (split : word = key.toList ++ '=' :: written)

/-- The word is an argument, whatever its value. -/
def IsArgument (word : List Char) : Prop :=
  ∃ key written, Identifier key ∧ word = key ++ '=' :: written

theorem Identifier.ne_equals {key : List Char} (identifier : Identifier key) :
    ∀ c ∈ key, (c != '=') = true := by
  have letter {c : Char} (letter : IsLetter c) : c ≠ '=' := by
    rintro rfl
    exact absurd letter (by unfold IsLetter; decide)
  cases identifier with
  | intro first more =>
      intro c member
      refine bne_iff_ne.mpr ?_
      rcases List.mem_cons.mp member with rfl | later
      · exact letter first
      · rcases more c later with other | digit | rfl
        · exact letter other
        · rintro rfl
          exact absurd digit (by decide)
        · decide

/-- An argument gives its key the value behind the sign, without the quotes around it. -/
theorem assigns_ofList {key : List Char} (identifier : Identifier key) (written : List Char) :
    Assigns (key ++ '=' :: written) (String.ofList key) (String.ofList (unquote written)) := by
  refine @Assigns.intro _ _ _ written ?_ (unquote_eq_iff.mp ?_) ?_
  · rwa [String.toList_ofList]
  · rw [String.toList_ofList]
  · rw [String.toList_ofList]

/-- **A word is read as an argument if it is one.** -/
theorem argument?_eq_some_iff {word : List Char} {key value : String} :
    argument? word = some (key, value) ↔ Assigns word key value := by
  constructor
  · intro read
    have split : word.takeWhile (· != '=') ++ word.dropWhile (· != '=') = word :=
      List.takeWhile_append_dropWhile
    have stops := stops_dropWhile (· != '=') word
    unfold argument? at read
    dsimp only at read
    generalize word.takeWhile (· != '=') = name at split read
    generalize word.dropWhile (· != '=') = rest at split stops read
    cases rest with
    | nil => exact absurd read.symm (Option.some_ne_none _)
    | cons c written =>
        have equals : c = '=' := by simpa using stops c rfl
        dsimp only at read
        by_cases identifier : isIdentifier name = true
        · rw [if_pos identifier] at read
          cases read
          rw [← split, equals]
          exact assigns_ofList (isIdentifier_iff.mp identifier) written
        · rw [if_neg identifier] at read
          exact absurd read.symm (Option.some_ne_none _)
  · intro assigns
    obtain @⟨written, identifier, spelled, rfl⟩ := assigns
    have members := identifier.ne_equals
    have stops : Stops (· != '=') ('=' :: written) := stops_cons (by decide) written
    unfold argument?
    rw [takeWhile_append members stops, dropWhile_append members stops]
    dsimp only
    rw [if_pos (isIdentifier_iff.mpr identifier), unquote_eq_iff.mpr spelled, String.ofList_toList,
      String.ofList_toList]

theorem argument?_eq_none_iff {word : List Char} : argument? word = none ↔ ¬ IsArgument word := by
  rw [Option.eq_none_iff_forall_ne_some]
  constructor
  · rintro none ⟨key, written, identifier, rfl⟩
    exact none _ (argument?_eq_some_iff.mpr (assigns_ofList identifier written))
  · rintro other ⟨key, value⟩ read
    obtain ⟨identifier, -, split⟩ := argument?_eq_some_iff.mp read
    exact other ⟨_, _, identifier, split⟩

/-! ## Arguments in a row -/

/-- A text of arguments with blanks in front of them, and the pairs of keys and values in the order
in which they are written. -/
inductive Arguments : List Char → List (String × String) → Prop
  | nil : Arguments [] []
  | cons {blanks word rest : List Char} {key value : String} {pairs : List (String × String)}
      (gap : Blanks blanks) (run : Word word) (ends : EndsWord rest)
      (assigns : Assigns word key value) (more : Arguments rest pairs) :
      Arguments (blanks ++ (word ++ rest)) ((key, value) :: pairs)

/-- The text does not begin with an argument: the first word, if there is one, is none. -/
def NoArgument (text : List Char) : Prop :=
  ∀ blanks word rest, text = blanks ++ (word ++ rest) → Blanks blanks → Word word →
    EndsWord rest → ¬ IsArgument word

theorem noArgument_iff {text : List Char} :
    NoArgument text ↔ argument? (splitWord text).1 = none := by
  constructor
  · intro settled
    by_cases blank : (splitWord text).1 = []
    · rw [blank]
      rfl
    · obtain ⟨blanks, gap, run, ends, split⟩ := exists_splitWord blank
      exact argument?_eq_none_iff.mpr (settled blanks _ _ split gap run ends)
  · rintro none blanks word rest rfl gap run ends
    rw [splitWord_append gap run ends] at none
    exact argument?_eq_none_iff.mp none

theorem takeArguments_of_argument {text : List Char} {key value : String}
    (found : argument? (splitWord text).1 = some (key, value))
    (arguments : List (String × String)) :
    takeArguments arguments text =
      takeArguments (Entries.insert arguments key value) (splitWord text).2 := by
  have nonempty : (splitWord text).1 ≠ [] := by
    intro none
    rw [none] at found
    exact Option.some_ne_none _ found.symm
  rw [takeArguments, dif_neg nonempty, found]

theorem takeArguments_of_none {text : List Char} (none : argument? (splitWord text).1 = none)
    (arguments : List (String × String)) : takeArguments arguments text = (arguments, text) := by
  rw [takeArguments]
  split
  · rfl
  · rw [none]

/-- Enters pairs into entries that are there already. -/
def enter (entries pairs : List (String × String)) : List (String × String) :=
  pairs.foldl (fun entries (key, value) => Entries.insert entries key value) entries

/-- Arguments are entered in order, whatever follows them. -/
theorem Arguments.takeArguments_append {text : List Char} {pairs : List (String × String)}
    (written : Arguments text pairs) {rest : List Char} (ends : EndsWord rest)
    (entries : List (String × String)) :
    takeArguments entries (text ++ rest) = takeArguments (enter entries pairs) rest := by
  induction written generalizing entries with
  | nil => rfl
  | @cons blanks word more key value pairs gap run ends' assigns _ ih =>
      have first : splitWord (blanks ++ (word ++ more) ++ rest) = (word, more ++ rest) := by
        rw [List.append_assoc, List.append_assoc]
        exact splitWord_append gap run (ends'.append ends)
      have found := argument?_eq_some_iff.mpr assigns
      rw [takeArguments_of_argument (by rw [first]; exact found), first]
      exact ih _

/-- The last character of arguments is not blank. -/
theorem Arguments.last {text : List Char} {pairs : List (String × String)}
    (written : Arguments text pairs) : Stops isBlank text.reverse := by
  induction written with
  | nil => exact stops_nil _
  | cons gap run ends assigns more ih =>
      rw [List.reverse_append, List.reverse_append, List.append_assoc]
      exact ih.append (run.stops_reverse _)

/-- Every text is arguments and a text that begins with none. -/
theorem exists_arguments {text : List Char} (ends : EndsWord text) :
    ∃ taken rest pairs, text = taken ++ rest ∧ EndsWord taken ∧ EndsWord rest ∧
      Arguments taken pairs ∧ argument? (splitWord rest).1 = none := by
  cases found : argument? (splitWord text).1 with
  | none => exact ⟨[], text, [], rfl, stops_nil _, ends, .nil, found⟩
  | some argument =>
      have nonempty : (splitWord text).1 ≠ [] := by
        intro none
        rw [none] at found
        exact Option.some_ne_none _ found.symm
      -- What follows the first argument is shorter, and the induction is on the length.
      have shorter := length_splitWord_lt nonempty
      obtain ⟨blanks, gap, run, ends', split⟩ := exists_splitWord nonempty
      obtain ⟨taken, rest, pairs, splitRest, endsTaken, endsRest, written, settled⟩ :=
        exists_arguments ends'
      have around : text = (blanks ++ ((splitWord text).1 ++ taken)) ++ rest := by
        rw [splitRest] at split
        simpa using split
      have front : EndsWord (blanks ++ ((splitWord text).1 ++ taken)) := by
        rw [around] at ends
        exact ends.of_append
      exact ⟨_, rest, argument :: pairs, around, front, endsRest,
        .cons gap run endsTaken (argument?_eq_some_iff.mp found) written, settled⟩
termination_by text.length

end Invocation
end PathQuery
