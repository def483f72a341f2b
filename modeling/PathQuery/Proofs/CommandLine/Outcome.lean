import PathQuery.CommandLine.Program
import PathQuery.Proofs.Command.Steps
import PathQuery.Proofs.Command.Words

/-!
# How the program ends

A run of the program ends in a report, and what is shown tells whether it succeeded (`Shows`): with
status zero and the text on a line of its own, or with status one and exactly one error, which a
failed query has notified and every other failure has not.

What a run reports is told by its line (`Options.Reports`). The context is looked at exactly where
the line names it, and what is wrong with it is reported whatever path the line asks for. A line
that names a command is run as a line, against the context that was decoded. The option for a call
acts as one more argument `call=true` in front of the unnamed value.
-/

set_option autoImplicit false

namespace PathQuery

/-! ## Commands that do not query the context -/

/-- A command that does not query the context makes nothing of it. -/
theorem Host.run_congr {host host' : Host} (window : host.window = host'.window)
    (answer : host.answer = host'.answer) {invocation : Invocation}
    (other : Registry.standard.get? invocation.name ≠ some .context) (history : List Callable) :
    host.run history invocation = host'.run history invocation := by
  obtain ⟨context, window', answer'⟩ := host
  obtain ⟨context', _, _⟩ := host'
  obtain rfl := window
  obtain rfl := answer
  rw [Host.run, Host.run]
  cases command : Registry.standard.get? invocation.name with
  | none => rfl
  | some command' =>
      cases command' with
      | context => exact absurd command other
      | window => rfl
      | help => rfl

namespace CommandLine

/-! ## What is shown -/

/-- The report of a command as that of a run. -/
def ofCommand (report : Report CommandError) : Report ProgramError :=
  ⟨report.result.mapError .command, report.notified, report.called⟩

/-- A failed query is notified, every other failure is not, and nothing is notified twice. -/
structure Tells (report : Report ProgramError) : Prop where
  once : report.notified.length ≤ 1
  queryFailed : ∀ error, report.result = .error (.command (.query error)) →
    report.notified = [error.message]
  refused : ∀ error, report.result = .error error →
    (∀ cause, error ≠ .command (.query cause)) → report.notified = []

theorem tells_of_error {error : ProgramError} (other : ∀ cause, error ≠ .command (.query cause)) :
    Tells ⟨.error error, [], []⟩ where
  once := Nat.zero_le 1
  queryFailed := fun cause failed => absurd (Except.error.inj failed) (other cause)
  refused := fun _ _ _ => rfl

/-- A command tells of its failures. -/
theorem tells_run (host : Host) (history : List Callable) (invocation : Invocation) :
    Tells (ofCommand (host.run history invocation)) := by
  have keeps : host.Keeps history (.invocation invocation) (host.run history invocation) :=
    host.keeps_step history (.invocation invocation)
  generalize host.run history invocation = report at keeps ⊢
  obtain ⟨result, notified, called⟩ := report
  cases result with
  | ok text => exact ⟨keeps.notified_once, nofun, nofun⟩
  | error error =>
      refine ⟨keeps.notified_once, fun cause failed => ?_, fun _ failed other => ?_⟩
      · obtain rfl := ProgramError.command.inj (Except.error.inj failed)
        exact (keeps.queryFailed cause rfl).1
      · obtain rfl := Except.error.inj failed
        exact (keeps.refused error rfl fun cause same => other cause (congrArg _ same)).1

/-- What the program shows for a report. -/
structure Shows (report : Report ProgramError) (outcome : Outcome) : Prop where
  status_iff : outcome.status = 0 ↔ ∃ text, report.result = .ok text
  /-- A text is shown on a line, and at most one notification. -/
  succeeded : ∀ text, report.result = .ok text →
    outcome = ⟨0, text ++ "\n", report.notified.map errorLine⟩ ∧ outcome.errors.length ≤ 1
  /-- A query that failed is shown by its notification, and not once more. -/
  queryFailed : ∀ error, report.result = .error (.command (.query error)) →
    report.notified = [error.message] ∧ outcome = ⟨1, "", report.notified.map errorLine⟩
  /-- Every other failure was not notified and is shown at the end. -/
  refused : ∀ error, report.result = .error error →
    (∀ cause, error ≠ .command (.query cause)) →
      report.notified = [] ∧ outcome = ⟨1, "", [errorLine error.message]⟩

/-- A failure that was not notified is shown behind the notifications. -/
theorem ofReport_of_refused {error : ProgramError}
    (other : ∀ cause, error ≠ .command (.query cause)) (notified : List String)
    (called : List Callable) :
    Outcome.ofReport ⟨.error error, notified, called⟩ =
      ⟨1, "", notified.map errorLine ++ [errorLine error.message]⟩ := by
  cases error with
  | command error =>
      cases error with
      | query cause => exact absurd rfl (other cause)
      | _ => rfl
  | _ => rfl

/-- What is told is shown once. -/
theorem Tells.shows {report : Report ProgramError} (tells : Tells report) :
    Shows report (.ofReport report) := by
  obtain ⟨result, notified, called⟩ := report
  cases result with
  | ok text =>
      exact {
        status_iff := ⟨fun _ => ⟨text, rfl⟩, fun _ => rfl⟩
        succeeded := by
          rintro _ ⟨⟩
          exact ⟨rfl, by simpa [Outcome.ofReport] using tells.once⟩
        queryFailed := nofun
        refused := nofun }
  | error error =>
      by_cases query : ∃ cause, error = .command (.query cause)
      · obtain ⟨cause, rfl⟩ := query
        exact {
          status_iff := ⟨nofun, nofun⟩
          succeeded := nofun
          queryFailed := fun error failed => ⟨tells.queryFailed error failed, rfl⟩
          refused := fun _ failed other => absurd (Except.error.inj failed).symm (other cause) }
      · have other : ∀ cause, error ≠ .command (.query cause) := fun cause same =>
          query ⟨cause, same⟩
        have shown := ofReport_of_refused other notified called
        rw [shown]
        exact {
          status_iff := ⟨nofun, nofun⟩
          succeeded := nofun
          queryFailed := fun cause failed => absurd (Except.error.inj failed) (other cause)
          refused := by
            rintro _ ⟨⟩ _
            have silent : notified = [] := tells.refused error rfl other
            exact ⟨silent, by rw [silent]; rfl⟩ }

/-! ## What a run reports -/

namespace Options

/-- The line names the context. -/
def AsksContext (options : Options) : Prop :=
  ∃ word, Names options.line word ∧ Grammar.Keyword "context" word.toList

/-- The value is the context of the run. Where the line does not name the context, any value is. -/
def Decodes (options : Options) (source : Except String String) (context : Value) : Prop :=
  options.AsksContext → ∃ text, source = .ok text ∧ Value.ofJsonText? text = some context

/-- The line that asks for a call by one more argument, in front of the unnamed value. -/
def AddsCall (line called : String) : Prop :=
  ∃ invocation head rest, Invocation.ofText? line = some invocation ∧
    line = head ++ rest ∧ Text.trim rest.toList = invocation.value.toList ∧
    called = head ++ " " ++ "call=true" ++ rest ∧
    Invocation.ofText? called = some { invocation with
      arguments := Entries.insert invocation.arguments "call" "true" }

theorem exists_addsCall {line : String} {invocation : Invocation}
    (read : Invocation.ofText? line = some invocation) : ∃ called, AddsCall line called := by
  have word : Text.Word "call=true".toList := ⟨by decide, List.all_eq_true.mp (by decide)⟩
  obtain ⟨head, rest, split, value, inserted⟩ := Invocation.ofText?_insert read word rfl
  exact ⟨_, invocation, head, rest, read, split, value, rfl, inserted⟩

/-- What a run reports, told by its line and its source. -/
structure Reports (options : Options) (environment : Environment)
    (source : Except String String) (report : Report ProgramError) : Prop where
  /-- The context is read exactly where the line names it. -/
  reads_iff : options.readsContext = true ↔ options.AsksContext
  /-- A line that does not name the context makes nothing of the source. -/
  unread : ¬ options.AsksContext → ∀ source', options.report environment source' = report
  /-- A source that cannot be read fails every line that names the context. -/
  unreadable : options.AsksContext → ∀ detail, source = .error detail →
    report = ⟨.error (.source detail), [], []⟩
  /-- So does a source that is no document. -/
  notJson : options.AsksContext → ∀ text, source = .ok text → Value.ofJsonText? text = none →
    report = ⟨.error (.notJson (environment.decoderMessage text)), [], []⟩
  /-- A line without a word that names a command is reported as it is written. -/
  unnamed : (∀ word, ¬ Names options.line word) →
    report = ⟨.error (.command (.unknownCommand options.line)), [], []⟩
  /-- A line that names a command is run as it is. -/
  named : (∃ word, Names options.line word) → options.call = false →
    ∀ context, options.Decodes source context →
      report = ofCommand ((host context environment).runLine [] options.line)
  /-- With the option for a call it is run as the line that asks for a call. -/
  called : (∃ word, Names options.line word) → options.call = true →
    ∃ line, AddsCall options.line line ∧
      report = Options.report { options with call := false, words := [line] } environment source ∧
      ∀ context, options.Decodes source context →
        report = ofCommand ((host context environment).runLine [] line)

theorem report_of_none {options : Options} (none : options.invocation? = none)
    (environment : Environment) (source : Except String String) :
    options.report environment source =
      ⟨.error (.command (.unknownCommand options.line)), [], []⟩ := by
  rw [report, none]

theorem report_of_error {options : Options} {invocation : Invocation}
    (asked : options.invocation? = some invocation) {environment : Environment}
    {source : Except String String} {error : ProgramError}
    (failed : options.context environment source = .error error) :
    options.report environment source = ⟨.error error, [], []⟩ := by
  rw [report, asked]
  simp only [failed]

theorem report_of_ok {options : Options} {invocation : Invocation}
    (asked : options.invocation? = some invocation) {environment : Environment}
    {source : Except String String} {context : Value}
    (loaded : options.context environment source = .ok context) :
    options.report environment source =
      ofCommand ((host context environment).run [] invocation) := by
  rw [report, asked]
  simp only [loaded]
  rfl

/-- Of the line only the invocation is reported, if there is one. -/
theorem report_congr {options options' : Options} {invocation : Invocation}
    (asked : options.invocation? = some invocation)
    (asked' : options'.invocation? = some invocation) (environment : Environment)
    (source : Except String String) :
    options.report environment source = options'.report environment source := by
  have reads : options.readsContext = options'.readsContext := by
    rw [readsContext, readsContext, asked, asked']
  have same : options.context environment source = options'.context environment source := by
    delta context
    rw [reads]
  cases loaded : options.context environment source with
  | error error =>
      rw [report_of_error asked loaded, report_of_error asked' (same ▸ loaded)]
  | ok context =>
      rw [report_of_ok asked loaded, report_of_ok asked' (same ▸ loaded)]

/-- A line that names a command makes an invocation. -/
theorem exists_invocation? {options : Options} {word : String} (names : Names options.line word) :
    ∃ invocation, options.invocation? = some invocation := by
  obtain ⟨invocation, read, -⟩ := Invocation.exists_name_iff.mpr names
  exact ⟨_, by rw [invocation?, read]; rfl⟩

/-- The option for a call does not change the name. -/
theorem names_of_invocation? {options : Options} {invocation : Invocation}
    (asked : options.invocation? = some invocation) (word : String) :
    Names options.line word ↔ invocation.name = word := by
  obtain ⟨written, read, rfl⟩ := Option.map_eq_some_iff.mp asked
  rw [Invocation.names_iff read]
  split <;> rfl

theorem asksContext_iff {options : Options} {invocation : Invocation}
    (asked : options.invocation? = some invocation) :
    options.AsksContext ↔ Registry.standard.get? invocation.name = some .context := by
  rw [Registry.get?_standard_eq_context_iff]
  constructor
  · rintro ⟨word, names, keyword⟩
    rwa [(names_of_invocation? asked word).mp names]
  · exact fun keyword => ⟨_, (names_of_invocation? asked _).mpr rfl, keyword⟩

/-- **The context is read exactly where the line names it.** -/
theorem readsContext_iff (options : Options) :
    options.readsContext = true ↔ options.AsksContext := by
  rw [readsContext]
  cases asked : options.invocation? with
  | none =>
      refine ⟨nofun, fun ⟨word, names, _⟩ => ?_⟩
      obtain ⟨invocation, found⟩ := exists_invocation? names
      rw [asked] at found
      exact nomatch found
  | some invocation =>
      rw [asksContext_iff asked, Option.any_some, beq_iff_eq]

theorem context_of_asksContext {options : Options} (asks : options.AsksContext)
    (environment : Environment) (source : Except String String) :
    options.context environment source = match source with
      | .error detail => .error (.source detail)
      | .ok text =>
          match Value.ofJsonText? text with
          | some value => .ok value
          | none => .error (.notJson (environment.decoderMessage text)) :=
  if_pos (options.readsContext_iff.mpr asks)

theorem context_of_not_asksContext {options : Options} (other : ¬ options.AsksContext)
    (environment : Environment) (source : Except String String) :
    options.context environment source = .ok .undefined :=
  if_neg fun reads => other (options.readsContext_iff.mp reads)

/-- A context that cannot be loaded fails the line that names it, whatever else stands there. -/
theorem report_of_asksContext {options : Options} (asks : options.AsksContext)
    {environment : Environment} {source : Except String String} {error : ProgramError}
    (failed : options.context environment source = .error error) :
    options.report environment source = ⟨.error error, [], []⟩ := by
  obtain ⟨word, names, -⟩ := asks
  obtain ⟨invocation, asked⟩ := exists_invocation? names
  exact report_of_error asked failed

/-- Loading the context runs no query that could fail. -/
theorem ne_query_of_context {options : Options} {environment : Environment}
    {source : Except String String} {error : ProgramError}
    (failed : options.context environment source = .error error) (cause : QueryError) :
    error ≠ .command (.query cause) := by
  by_cases asks : options.AsksContext
  · rw [context_of_asksContext asks] at failed
    rintro rfl
    split at failed
    · exact nomatch failed
    · split at failed
      · exact nomatch failed
      · exact nomatch failed
  · rw [context_of_not_asksContext asks] at failed
    exact nomatch failed

/-- A line that names a command is run against the context, once that is decoded. -/
theorem report_of_decodes {options : Options} {invocation : Invocation}
    (asked : options.invocation? = some invocation) {source : Except String String}
    {context : Value} (decodes : options.Decodes source context) (environment : Environment) :
    options.report environment source =
      ofCommand ((host context environment).run [] invocation) := by
  by_cases asks : options.AsksContext
  · obtain ⟨text, rfl, decoded⟩ := decodes asks
    refine report_of_ok asked ?_
    rw [context_of_asksContext asks]
    simp only [decoded]
  · have other := fun queries => asks ((asksContext_iff asked).mpr queries)
    have same : (host .undefined environment).run [] invocation =
        (host context environment).run [] invocation := by
      refine Host.run_congr ?_ ?_ other []
      · rfl
      · rfl
    rw [report_of_ok asked (context_of_not_asksContext asks environment source), same]

theorem runLine_of_ofText? {line : String} {invocation : Invocation}
    (read : Invocation.ofText? line = some invocation) (host : Host) :
    host.runLine [] line = host.run [] invocation := by
  rw [Host.runLine, read]

theorem reports_report (options : Options) (environment : Environment)
    (source : Except String String) :
    options.Reports environment source (options.report environment source) where
  reads_iff := options.readsContext_iff
  unread := by
    intro other source'
    cases asked : options.invocation? with
    | none => rw [report_of_none asked, report_of_none asked]
    | some invocation =>
        rw [report_of_ok asked (context_of_not_asksContext other environment source),
          report_of_ok asked (context_of_not_asksContext other environment source')]
  unreadable := by
    rintro asks detail rfl
    exact report_of_asksContext asks (context_of_asksContext asks environment _)
  notJson := by
    rintro asks text rfl rejected
    refine report_of_asksContext asks ?_
    rw [context_of_asksContext asks]
    simp only [rejected]
  unnamed := by
    intro nameless
    refine report_of_none ?_ environment source
    cases asked : options.invocation? with
    | none => rfl
    | some invocation => exact absurd ((names_of_invocation? asked _).mpr rfl) (nameless _)
  named := by
    rintro ⟨word, names⟩ call context decodes
    obtain ⟨invocation, asked⟩ := exists_invocation? names
    have read : Invocation.ofText? options.line = some invocation := by
      rw [← asked]
      simp [invocation?, call]
    rw [report_of_decodes asked decodes, runLine_of_ofText? read]
  called := by
    rintro ⟨word, names⟩ call
    obtain ⟨written, read, -⟩ := Invocation.exists_name_iff.mpr names
    obtain ⟨line, adds⟩ := exists_addsCall read
    have ⟨written', _, _, read', _, _, _, inserted⟩ := adds
    obtain rfl := Option.some.inj (read.symm.trans read')
    have asked : options.invocation? = some { written with
        arguments := Entries.insert written.arguments "call" "true" } := by
      rw [invocation?, read, call]
      rfl
    have asked' : invocation? { options with call := false, words := [line] } = some { written with
        arguments := Entries.insert written.arguments "call" "true" } := by
      rw [← inserted]
      simp [invocation?, Options.line]
    refine ⟨line, adds, report_congr asked asked' environment source, fun context decodes => ?_⟩
    rw [report_of_decodes asked decodes, runLine_of_ofText? inserted]

end Options

/-- What a run reports is told. -/
theorem tells_report (options : Options) (environment : Environment)
    (source : Except String String) : Tells (options.report environment source) := by
  cases asked : options.invocation? with
  | none =>
      rw [Options.report_of_none asked]
      exact tells_of_error nofun
  | some invocation =>
      cases loaded : options.context environment source with
      | error error =>
          rw [Options.report_of_error asked loaded]
          exact tells_of_error (Options.ne_query_of_context loaded)
      | ok context =>
          rw [Options.report_of_ok asked loaded]
          exact tells_run _ _ _

/-- **What the program does with a command line.** It shows what the run reports, and what the run
reports is told by the line. -/
theorem perform_run (options : Options) (environment : Environment)
    (source : Except String String) :
    Shows (options.report environment source)
        ((Request.run options).perform environment source) ∧
      options.Reports environment source (options.report environment source) :=
  ⟨(tells_report options environment source).shows, options.reports_report environment source⟩

/-- A call that the line itself turns off is asked for all the same, of something that cannot be
called. Where the command stands without a path and the document is broken, only the document is
told of. -/
theorem perform_run_call :
    let options : Options := ⟨none, true, none, ["/Context", "call=off", "n"]⟩
    let decoderMessage : String → String := fun _ => "EOF while parsing a list at line 1 column 2"
    let environment : Environment := ⟨[], [], none, 0, "", "", 0, decoderMessage⟩
    let source : Except String String := .ok "\x7b\"n\":1\x7d"
    options.AsksContext ∧
      (Request.run options).perform environment source =
        ⟨0, "1\n", ["Error: number is not callable"]⟩ ∧
      (∃ line, Options.AddsCall options.line line ∧ options.report environment source =
        Options.report { options with call := false, words := [line] } environment source) ∧
      (Request.run { options with words := ["Context"] }).perform environment (.ok "[1") =
        ⟨1, "", ["Error: Context is not valid JSON: " ++
          "EOF while parsing a list at line 1 column 2"]⟩ := by
  intro options decoderMessage environment source
  have read : Invocation.ofText? options.line = some ⟨"Context", [("call", "off")], "n"⟩ := by
    decide +kernel
  have read' : Invocation.ofText? "Context" = some ⟨"Context", [], ""⟩ := by decide +kernel
  have keyword : Grammar.Keyword "context" "Context".toList := by unfold Grammar.Keyword; decide
  have names := (Invocation.names_iff read).mpr rfl
  have names' := (Invocation.names_iff read').mpr rfl
  have reported : ((options.report environment source).result.toOption,
      (options.report environment source).notified) = (some "1", ["number is not callable"]) := by
    decide +kernel
  obtain ⟨given, notified⟩ := Prod.mk.inj reported
  have result : (options.report environment source).result = .ok "1" := by
    cases result : (options.report environment source).result with
    | ok text =>
        rw [result] at given
        exact congrArg _ (Option.some.inj given)
    | error error =>
        rw [result] at given
        exact nomatch given
  obtain ⟨shows, reports⟩ := perform_run options environment source
  obtain ⟨shows', reports'⟩ :=
    perform_run { options with words := ["Context"] } environment (.ok "[1")
  have rejected := reports'.notJson ⟨"Context", names', keyword⟩ "[1" rfl (by decide +kernel)
  obtain ⟨line, adds, same, -⟩ := reports.called ⟨_, names⟩ rfl
  refine ⟨⟨_, names, keyword⟩, ?_, ⟨line, adds, same⟩, ?_⟩
  · rw [(shows.succeeded "1" result).1, notified]
    rfl
  · rw [(shows'.refused (.notJson (decoderMessage "[1")) (by rw [rejected]) nofun).2]
    rfl

end CommandLine
end PathQuery
