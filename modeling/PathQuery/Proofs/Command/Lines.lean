import PathQuery.Proofs.Command.Words
import PathQuery.Proofs.Entries

/-!
# What command lines carry

A line carries a name, then arguments, then the unnamed value, with blanks where they may stand
(`Invocation.Carries`). Reading a line finds just that, and enters the arguments one after the
other (`Invocation.ofText?_eq_some_iff`), so the last value of a key is the one that is kept.

The invocations that can be read are those whose parts can stand in a line
(`Invocation.Readable`). Each of them is written as a line that carries it (`Invocation.text`), in
any order of its arguments.
-/

set_option autoImplicit false

namespace PathQuery

open Text

namespace Invocation

/-! ## The parts of a line -/

/-- The line carries a name, arguments with the pairs, and the value. The value is trimmed, and it
begins with no argument. -/
inductive Carries (line name : String) (pairs : List (String × String)) (value : String) : Prop
  | intro {front taken gap trail : List Char} (begins : Front name.toList front)
      (word : Word name.toList) (ends : EndsWord (taken ++ (gap ++ (value.toList ++ trail))))
      (written : Arguments taken pairs) (ends' : EndsWord (gap ++ (value.toList ++ trail)))
      (blanks : Blanks gap) (trimmed : Trimmed value.toList) (settled : NoArgument value.toList)
      (blanks' : Blanks trail)
      (split : line.toList =
        front ++ (name.toList ++ (taken ++ (gap ++ (value.toList ++ trail)))))

variable {line name value : String} {pairs : List (String × String)}

/-- Blanks around a text make no difference to whether it begins with an argument. -/
theorem NoArgument.of_append {lead text trail : List Char} (blanks : Blanks lead)
    (blanks' : Blanks trail) (settled : NoArgument (lead ++ (text ++ trail))) :
    NoArgument text := by
  rintro gap word rest rfl blanks'' run ends
  refine settled (lead ++ gap) word (rest ++ trail) (by simp) ?_ run (ends.append blanks'.stops)
  exact List.forall_mem_append.mpr ⟨blanks, blanks''⟩

theorem NoArgument.takeArguments_append {gap text : List Char} (blanks : Blanks gap)
    (trimmed : Trimmed text) (settled : NoArgument text) (entries : List (String × String)) :
    takeArguments entries (gap ++ text) = (entries, gap ++ text) := by
  have same : splitWord (gap ++ text) = splitWord text := by
    have plain := @trimStart_append [] text blanks_nil trimmed.first
    rw [List.nil_append] at plain
    rw [splitWord, splitWord, trimStart_append blanks trimmed.first, plain]
  refine takeArguments_of_none ?_ entries
  rw [same]
  exact noArgument_iff.mp settled

/-- Arguments are taken from the text in front of a value, and the value is left. -/
theorem Arguments.takeArguments_value {taken gap text : List Char}
    (written : Arguments taken pairs) (ends : EndsWord (gap ++ text)) (blanks : Blanks gap)
    (trimmed : Trimmed text) (settled : NoArgument text) :
    takeArguments [] (taken ++ (gap ++ text)) = (Entries.ofPairs pairs, gap ++ text) := by
  rw [written.takeArguments_append ends]
  exact settled.takeArguments_append blanks trimmed _

/-- A line is read as what it carries. -/
theorem Carries.ofText?_eq (carries : Carries line name pairs value) :
    ofText? line = some ⟨name, Entries.ofPairs pairs, value⟩ := by
  obtain @⟨front, taken, gap, trail, begins, word, ends, written, ends', blanks, trimmed, settled,
    blanks', split⟩ := carries
  -- Without a value, the blanks behind the arguments are at the end of the line already.
  obtain none | full := eq_or_ne value.toList []
  · have layout : Layout line.toList front name.toList taken (gap ++ trail) := by
      refine ⟨begins, word, ends.of_append, written.last, ?_, by rw [split, none]; rfl⟩
      exact List.forall_mem_append.mpr ⟨blanks, blanks'⟩
    rw [none] at trimmed settled
    have takes := written.takeArguments_value (stops_nil _) blanks_nil trimmed settled
    rw [List.append_nil, List.append_nil] at takes
    rw [layout.ofText?_eq takes, String.ofList_toList, String.toList_eq_nil_iff.mp none]
    rfl
  · have last : Stops isBlank (taken ++ (gap ++ value.toList)).reverse := by
      obtain ⟨c, cs, reversed⟩ := List.exists_cons_of_ne_nil (List.reverse_ne_nil_iff.mpr full)
      have stops := trimmed.last
      rw [reversed] at stops
      rw [List.reverse_append, List.reverse_append, reversed]
      exact stops_cons (stops c rfl) _
    rw [← List.append_assoc gap] at ends ends' split
    rw [← List.append_assoc taken] at ends split
    have layout : Layout line.toList front name.toList (taken ++ (gap ++ value.toList)) trail :=
      ⟨begins, word, ends.of_append, last, blanks', split⟩
    have takes := written.takeArguments_value ends'.of_append blanks trimmed settled
    have text := @trim_append gap value.toList [] blanks blanks_nil trimmed
    rw [List.append_nil] at text
    rw [layout.ofText?_eq takes, text, String.ofList_toList, String.ofList_toList]

/-- What is read of a line is what the line carries. -/
theorem exists_carries {invocation : Invocation} (read : ofText? line = some invocation) :
    ∃ pairs, Carries line invocation.name pairs invocation.value ∧
      Entries.ofPairs pairs = invocation.arguments := by
  obtain ⟨front, after, trail, layout⟩ := exists_layout_of_ofText? read
  obtain ⟨taken, rest, pairs, rfl, -, endsRest, written, settled⟩ := exists_arguments layout.ends
  have takes : takeArguments [] (taken ++ rest) = (Entries.ofPairs pairs, rest) := by
    rw [written.takeArguments_append endsRest, takeArguments_of_none settled]
    rfl
  have parts := layout.ofText?_eq takes
  rw [read, Option.some_inj] at parts
  obtain ⟨name, arguments, value⟩ := invocation
  obtain ⟨-, rfl, rfl⟩ := Invocation.mk.inj parts
  obtain ⟨gap, trail', blanks, blanks', trimmed, split⟩ := exists_trim rest
  refine ⟨pairs, ?_, rfl⟩
  have around : rest ++ trail = gap ++ (trim rest ++ (trail' ++ trail)) := by
    conv => lhs; rw [split]
    simp
  have toList : (String.ofList (trim rest)).toList = trim rest := String.toList_ofList
  refine @Carries.intro _ _ _ _ front taken gap (trail' ++ trail) layout.begins layout.word ?_
    written ?_ blanks ?_ ?_ ?_ ?_
  · rw [toList, ← around, ← List.append_assoc]
    exact layout.ends.append layout.blanks.stops
  · rw [toList, ← around]
    exact endsRest.append layout.blanks.stops
  · rwa [toList]
  · rw [toList]
    rw [split] at settled
    exact (noArgument_iff.mpr settled).of_append blanks blanks'
  · exact List.forall_mem_append.mpr ⟨blanks', layout.blanks⟩
  · rw [toList, ← around, layout.split, List.append_assoc]

/-- **A line is read as the name and the value that it carries**, with the arguments entered one
after the other. -/
theorem ofText?_eq_some_iff {invocation : Invocation} :
    ofText? line = some invocation ↔ ∃ pairs, Carries line invocation.name pairs invocation.value ∧
      Entries.ofPairs pairs = invocation.arguments := by
  constructor
  · exact exists_carries
  · rintro ⟨pairs, carries, entered⟩
    rw [carries.ofText?_eq, entered]

/-- A line that names no command is blank, apart from a slash. -/
theorem ofText?_eq_none_iff : ofText? line = none ↔ Blanks (body line) := by
  rw [ofText?_eq, ← splitWord_eq_nil_iff, ← List.isEmpty_iff]
  split
  · next empty => exact iff_of_true rfl empty
  · next filled => exact iff_of_false (Option.some_ne_none _) filled

/-! ## Invocations that can be read -/

/-- The parts of the invocation can stand in a line. -/
structure Readable (invocation : Invocation) : Prop where
  name : Word invocation.name.toList
  distinct : (Entries.keys invocation.arguments).Nodup
  keys : ∀ key value, (key, value) ∈ invocation.arguments → Identifier key.toList
  values : ∀ key value, (key, value) ∈ invocation.arguments →
    ∀ c ∈ value.toList, isBlank c = false
  trimmed : Trimmed invocation.value.toList
  settled : NoArgument invocation.value.toList

/-- A value has no blanks if what is written for it has none. -/
theorem Spelled.subset {value written : List Char} (spelled : Spelled value written) :
    value ⊆ written := by
  cases spelled with
  | quoted => exact fun c member => List.mem_cons_of_mem _ (List.mem_append_left _ member)
  | plain => exact fun c member => member

theorem Arguments.assigns_of_mem {text : List Char} (written : Arguments text pairs) :
    ∀ key value, (key, value) ∈ pairs →
      Identifier key.toList ∧ ∀ c ∈ value.toList, isBlank c = false := by
  induction written with
  | nil => exact fun _ _ member => absurd member List.not_mem_nil
  | cons gap run ends assigns more ih =>
      intro key value member
      rcases List.mem_cons.mp member with first | later
      · obtain ⟨rfl, rfl⟩ := Prod.mk.inj first
        obtain @⟨spelling, identifier, spelled, rfl⟩ := assigns
        refine ⟨identifier, fun c member => ?_⟩
        have inside := List.mem_append_right key.toList
          (List.mem_cons_of_mem '=' (spelled.subset member))
        simpa using run.members c inside
      · exact ih key value later

/-- What is read can be read. -/
theorem readable_of_ofText? {invocation : Invocation} (read : ofText? line = some invocation) :
    invocation.Readable := by
  obtain ⟨pairs, carries, entered⟩ := ofText?_eq_some_iff.mp read
  obtain ⟨begins, word, -, written, -, -, trimmed, settled, -, -⟩ := carries
  have assigns (key value : String) (member : (key, value) ∈ invocation.arguments) :
      Identifier key.toList ∧ ∀ c ∈ value.toList, isBlank c = false := by
    rw [← entered] at member
    exact written.assigns_of_mem key value (Entries.mem_of_mem_ofPairs member)
  refine ⟨word, ?_, fun key value member => (assigns key value member).1,
    fun key value member => (assigns key value member).2, trimmed, settled⟩
  rw [← entered]
  exact Entries.nodup_keys_ofPairs pairs

/-! ## Writing a line -/

/-- An argument is written behind a space, with its value in double quotes. -/
def argumentChars (argument : String × String) : List Char :=
  ' ' :: (argument.1.toList ++ '=' :: '"' :: (argument.2.toList ++ ['"']))

/-- The line that is written for an invocation. -/
def text (invocation : Invocation) : String :=
  String.ofList ('/' :: (invocation.name.toList ++
    (invocation.arguments.flatMap argumentChars ++ ' ' :: invocation.value.toList)))

theorem IsLetter.visible {c : Char} (letter : IsLetter c) : '!' ≤ c ∧ c ≤ '~' := by
  obtain ⟨low, high⟩ | ⟨low, high⟩ | rfl := letter
  · exact ⟨Char.le_trans (by decide) low, Char.le_trans high (by decide)⟩
  · exact ⟨Char.le_trans (by decide) low, Char.le_trans high (by decide)⟩
  · decide

theorem Identifier.visible {key : List Char} (identifier : Identifier key) :
    ∀ c ∈ key, '!' ≤ c ∧ c ≤ '~' := by
  obtain ⟨first, more⟩ := identifier
  intro c member
  rcases List.mem_cons.mp member with rfl | later
  · exact first.visible
  · obtain letter | ⟨low, high⟩ | rfl := more c later
    · exact letter.visible
    · exact ⟨Char.le_trans (by decide) low, Char.le_trans high (by decide)⟩
    · decide

theorem ends_argumentChars {rest : List Char} (ends : EndsWord rest) :
    EndsWord (pairs.flatMap argumentChars ++ rest) := by
  cases pairs with
  | nil => exact ends
  | cons => exact stops_cons (by decide) _

/-- What is written for arguments is read as them. -/
theorem arguments_argumentChars
    (keys : ∀ key value, (key, value) ∈ pairs → Identifier key.toList)
    (values : ∀ key value, (key, value) ∈ pairs → ∀ c ∈ value.toList, isBlank c = false) :
    Arguments (pairs.flatMap argumentChars) pairs := by
  induction pairs with
  | nil => exact .nil
  | cons pair rest ih =>
      obtain ⟨key, value⟩ := pair
      have identifier := keys key value List.mem_cons_self
      have more := ih (fun key value member => keys key value (List.mem_cons_of_mem _ member))
        (fun key value member => values key value (List.mem_cons_of_mem _ member))
      have run : Word (key.toList ++ '=' :: '"' :: (value.toList ++ ['"'])) := by
        refine ⟨List.append_ne_nil_of_right_ne_nil _ (List.cons_ne_nil _ _), fun c member => ?_⟩
        have filled : isBlank c = false := by
          simp only [List.mem_append, List.mem_cons, List.not_mem_nil, or_false] at member
          obtain inKey | rfl | rfl | inValue | rfl := member
          · exact isBlank_eq_false (identifier.visible c inKey)
          · decide
          · decide
          · exact values key value List.mem_cons_self c inValue
          · decide
        rw [filled, Bool.not_false]
      have ends := @ends_argumentChars rest [] (stops_nil _)
      rw [List.append_nil] at ends
      exact @Arguments.cons [' '] _ _ _ _ _ blanks_space run ends ⟨identifier, .quoted, rfl⟩ more

/-- The line that is written for an invocation carries it. -/
theorem Readable.carries {invocation : Invocation} (readable : invocation.Readable) :
    Carries invocation.text invocation.name invocation.arguments invocation.value := by
  obtain ⟨word, -, keys, values, trimmed, settled⟩ := readable
  have space (cs : List Char) : EndsWord (' ' :: cs) := stops_cons (by decide) cs
  refine @Carries.intro _ _ _ _ ['/'] (invocation.arguments.flatMap argumentChars) [' '] []
    (.slash blanks_nil blanks_nil) word (ends_argumentChars (space _))
    (arguments_argumentChars keys values) (space _) blanks_space trimmed settled blanks_nil ?_
  rw [text, String.toList_ofList, List.append_nil]
  rfl

theorem Readable.perm {invocation : Invocation} (readable : invocation.Readable)
    {order : List (String × String)} (perm : order.Perm invocation.arguments) :
    { invocation with arguments := order }.Readable := by
  obtain ⟨word, distinct, keys, values, trimmed, settled⟩ := readable
  refine ⟨word, (perm.map Prod.fst).nodup_iff.mpr distinct, ?_, ?_, trimmed, settled⟩
  · exact fun key value member => keys key value (perm.mem_iff.mp member)
  · exact fun key value member => values key value (perm.mem_iff.mp member)

/-- An invocation that can be read is read from the line that is written for it. -/
theorem Readable.ofText?_text {invocation : Invocation} (readable : invocation.Readable) :
    ofText? invocation.text = some invocation := by
  rw [readable.carries.ofText?_eq, Entries.ofPairs_of_nodup readable.distinct]

/-- **Reading lines undoes writing them.** Only a line that is blank, apart from a slash, is none.
The invocations that lines are read as are the readable ones, and each of them is read from the line
that is written for it, whatever the order of its arguments is. What is read of a line is the name
and the value that the line carries, and of the values of a key it is the last. -/
theorem ofText?_decodes (line : String) (invocation : Invocation) :
    (ofText? line = none ↔ Blanks (withoutSlash (trim line.toList))) ∧
      ((∃ line, ofText? line = some invocation) ↔ invocation.Readable) ∧
      (invocation.Readable → ∀ order, order.Perm invocation.arguments →
        ofText? { invocation with arguments := order }.text =
          some { invocation with arguments := order } ∧
        ∀ key, { invocation with arguments := order }.argument key = invocation.argument key) ∧
      (ofText? line = some invocation →
        ∃ pairs, Carries line invocation.name pairs invocation.value) ∧
      ∀ pairs, Carries line invocation.name pairs invocation.value →
        ∃ arguments, ofText? line = some { invocation with arguments := arguments } ∧
          ∀ key, arguments.lookup key = pairs.reverse.lookup key := by
  refine ⟨ofText?_eq_none_iff, ⟨?image, ?preimage⟩, ?order, ?parts, ?last⟩
  case image =>
    rintro ⟨line, read⟩
    exact readable_of_ofText? read
  case preimage =>
    intro readable
    exact ⟨invocation.text, readable.ofText?_text⟩
  case order =>
    intro readable order perm
    refine ⟨(readable.perm perm).ofText?_text, fun key => ?_⟩
    exact Entries.lookup_eq_of_perm perm readable.distinct key
  case parts =>
    intro read
    obtain ⟨pairs, carries, -⟩ := ofText?_eq_some_iff.mp read
    exact ⟨pairs, carries⟩
  case last =>
    intro pairs carries
    exact ⟨Entries.ofPairs pairs, carries.ofText?_eq, Entries.lookup_ofPairs pairs⟩

/-- Arguments in either order, one of them empty and one a quote, and a line that gives the first of
them twice, in between blanks and quotes. -/
theorem ofText?_decodes_repeated :
    Readable ⟨"get", [("a", ""), ("b", "\"")], "x y=z"⟩ ∧
      [("b", "\""), ("a", "")].Perm [("a", ""), ("b", "\"")] ∧
      ofText? (text ⟨"get", [("b", "\""), ("a", "")], "x y=z"⟩) =
        some ⟨"get", [("b", "\""), ("a", "")], "x y=z"⟩ ∧
      Carries " /get a=1 b=\"\"\" a= x y=z" "get" [("a", "1"), ("b", "\""), ("a", "")] "x y=z" ∧
      ∃ arguments, ofText? " /get a=1 b=\"\"\" a= x y=z" = some ⟨"get", arguments, "x y=z"⟩ ∧
        arguments.lookup "a" = some "" := by
  have written : Arguments " a=1 b=\"\"\" a=".toList [("a", "1"), ("b", "\""), ("a", "")] := by
    have third : Arguments [' ', 'a', '='] [("a", "")] :=
      @Arguments.cons [' '] ['a', '='] [] "a" "" [] blanks_space ⟨nofun, List.all_eq_true.mp rfl⟩
        (stops_nil _) (argument?_eq_some_iff.mp (by decide)) .nil
    have second : Arguments " b=\"\"\" a=".toList [("b", "\""), ("a", "")] :=
      @Arguments.cons [' '] ['b', '=', '"', '"', '"'] [' ', 'a', '='] "b" "\"" _ blanks_space
        ⟨nofun, List.all_eq_true.mp rfl⟩ (stops_cons (by decide) _)
        (argument?_eq_some_iff.mp (by decide)) third
    exact @Arguments.cons [' '] ['a', '=', '1'] " b=\"\"\" a=".toList "a" "1" _ blanks_space
      ⟨nofun, List.all_eq_true.mp rfl⟩ (stops_cons (by decide) _)
      (argument?_eq_some_iff.mp (by decide)) second
  have carries : Carries " /get a=1 b=\"\"\" a= x y=z" "get" [("a", "1"), ("b", "\""), ("a", "")]
      "x y=z" :=
    @Carries.intro _ _ _ _ [' ', '/'] " a=1 b=\"\"\" a=".toList [' '] []
      (@Front.slash _ [' '] [] blanks_space blanks_nil) ⟨nofun, List.all_eq_true.mp rfl⟩
      (stops_cons (by decide) _) written (stops_cons (by decide) _) blanks_space
      ⟨stops_cons (by decide) _, stops_cons (by decide) _⟩ (noArgument_iff.mpr (by decide))
      blanks_nil (by decide)
  have readable : Readable ⟨"get", [("a", ""), ("b", "\"")], "x y=z"⟩ :=
    readable_of_ofText? carries.ofText?_eq
  have perm : [("b", "\""), ("a", "")].Perm [("a", ""), ("b", "\"")] := .swap _ _ _
  obtain ⟨-, -, order, -, last⟩ := ofText?_decodes " /get a=1 b=\"\"\" a= x y=z"
    ⟨"get", [("a", ""), ("b", "\"")], "x y=z"⟩
  obtain ⟨arguments, read, kept⟩ := last _ carries
  exact ⟨readable, perm, (order readable _ perm).1, carries, arguments, read, kept "a"⟩

end Invocation
end PathQuery
