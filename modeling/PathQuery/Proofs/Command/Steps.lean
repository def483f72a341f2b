import PathQuery.Command.Session

/-!
# Calls and notifications of a step

A step of a session asks a root for a path or does nothing but answer, and what it asks for either
leads nowhere or is found (`Host.asks_cases`). What the step calls is the callable that it finds, if
a call is asked for, and what it notifies is told by how the query and the call end (`Host.Does`).
The promises that hold of every step are read off from this (`Host.keeps_step`).

The calls before a step matter to it only by what they make the callable answer that the step calls
(`Host.step_congr`), and they never change what it calls (`Host.called_step`).
-/

set_option autoImplicit false

namespace PathQuery

/-! ## Queries -/

/-- What a path that is written as a text leads to. -/
def Path.find (root : Value) (text : String) : Except QueryError Value :=
  (Path.ofText text).bind fun path => path.resolve root

theorem query_eq (root : Value) (text : String) (call : Bool) (answers : Answers) :
    query root text call answers =
      match Path.find root text with
      | .error error => ⟨.error error, [], []⟩
      | .ok value => if call then value.invoke answers else ⟨.ok value.serialize, [], []⟩ := by
  rw [query, Path.find]
  cases Path.ofText text <;> rfl

theorem Value.invoke_of_asCallable? {value : Value} (other : value.asCallable? = none)
    (answers : Answers) :
    value.invoke answers = ⟨.ok value.serialize, [value.typeName ++ " is not callable"], []⟩ := by
  cases value with
  | callable c => exact absurd other nofun
  | _ => rfl

theorem Value.eq_of_asCallable? {value : Value} {c : Callable}
    (callable : value.asCallable? = some c) : value = .callable c := by
  cases value with
  | callable c' => exact congrArg Value.callable (Option.some.inj callable)
  | _ => exact absurd callable nofun

/-! ## What a step asks for -/

/-- The invocation of a step, if there is one. -/
def Step.invocation? : Step → Option Invocation
  | .line text => Invocation.ofText? text
  | .invocation given => some given

/-- The invocation without the argument that asks for a call. -/
def Invocation.withoutCall (invocation : Invocation) : Invocation :=
  { invocation with arguments := invocation.arguments.filter fun argument => argument.1 != "call" }

/-- The step without the argument that asks for a call. -/
def Step.withoutCall (step : Step) : Step :=
  match step.invocation? with
  | some given => .invocation given.withoutCall
  | none => step

theorem Invocation.argument_withoutCall (invocation : Invocation) :
    invocation.withoutCall.argument "call" = none := by
  rw [argument, List.lookup_eq_none_iff]
  intro argument member
  have other : argument.1 ≠ "call" := bne_iff_ne.mp (List.mem_filter.mp member).2
  exact bne_iff_ne.mpr other.symm

namespace Host

/-- The step is a command that asks a root for a path, with or without a call. -/
def Asks (host : Host) (step : Step) (root : Value) (text : String) (call : Bool) : Prop :=
  ∃ invocation, step.invocation? = some invocation ∧
    (Registry.standard.get? invocation.name = some .context ∧ root = host.context ∨
      Registry.standard.get? invocation.name = some .window ∧ root = host.window) ∧
    invocation.value = text ∧ text ≠ "" ∧ Invocation.isOn (invocation.argument "call") = call

/-- The step is a command whose path leads to a value. -/
def Finds (host : Host) (step : Step) (call : Bool) (value : Value) : Prop :=
  ∃ root text, host.Asks step root text call ∧ Path.find root text = .ok value

theorem Asks.withoutCall {host : Host} {step : Step} {root : Value} {text : String} {call : Bool}
    (asks : host.Asks step root text call) : host.Asks step.withoutCall root text false := by
  obtain ⟨invocation, found, command, value, nonempty, -⟩ := asks
  have stripped : step.withoutCall.invocation? = some invocation.withoutCall := by
    rw [Step.withoutCall, found]
    rfl
  refine ⟨invocation.withoutCall, stripped, command, value, nonempty, ?_⟩
  rw [Invocation.argument_withoutCall]
  rfl

theorem Finds.withoutCall {host : Host} {step : Step} {call : Bool} {value : Value}
    (finds : host.Finds step call value) : host.Finds step.withoutCall false value := by
  obtain ⟨root, text, asks, found⟩ := finds
  exact ⟨root, text, asks.withoutCall, found⟩

theorem step_of_invocation? {step : Step} {invocation : Invocation}
    (found : step.invocation? = some invocation) (host : Host) (history : List Callable) :
    host.step history step = host.run history invocation := by
  cases step with
  | line text =>
      have read : Invocation.ofText? text = some invocation := found
      show host.runLine history text = _
      rw [runLine, read]
  | invocation given =>
      obtain rfl := Option.some.inj found
      rfl

/-- A command that asks for nothing calls nothing and notifies nothing, whatever was called
before. -/
theorem step_of_not_asks {host : Host} {step : Step}
    (nothing : ∀ root text call, ¬ host.Asks step root text call) :
    ∃ result, (∀ error, result ≠ .error (.query error)) ∧
      ∀ history, host.step history step = ⟨result, [], []⟩ := by
  cases found : step.invocation? with
  | none =>
      cases step with
      | invocation given => exact absurd found nofun
      | line text =>
          have blank : Invocation.ofText? text = none := found
          refine ⟨.error (.unknownCommand (String.ofList (Text.trim text.toList))), nofun,
            fun history => ?_⟩
          show host.runLine history text = _
          rw [runLine, blank]
          rfl
  | some invocation =>
      have ran := step_of_invocation? found host
      cases name : Registry.standard.get? invocation.name with
      | none =>
          refine ⟨.error (.unknownCommand invocation.name), nofun, fun history => ?_⟩
          rw [ran, run, name]
          rfl
      | some command =>
          cases command with
          | help =>
              refine ⟨.ok helpText, nofun, fun history => ?_⟩
              rw [ran, run, name]
          | context =>
              refine ⟨.error (.missingPath invocation.name), nofun, fun history => ?_⟩
              have empty : invocation.value = "" := Classical.byContradiction fun nonempty =>
                nothing _ _ _ ⟨invocation, found, .inl ⟨name, rfl⟩, rfl, nonempty, rfl⟩
              rw [ran, run, name]
              simp [evaluate, empty, Report.failed]
          | window =>
              refine ⟨.error (.missingPath invocation.name), nofun, fun history => ?_⟩
              have empty : invocation.value = "" := Classical.byContradiction fun nonempty =>
                nothing _ _ _ ⟨invocation, found, .inr ⟨name, rfl⟩, rfl, nonempty, rfl⟩
              rw [ran, run, name]
              simp [evaluate, empty, Report.failed]

/-- A step that asks for a path runs a query. -/
theorem step_of_asks {host : Host} {step : Step} {root : Value} {text : String} {call : Bool}
    (asks : host.Asks step root text call) (history : List Callable) :
    host.step history step = .ofQuery (query root text call (host.answers history)) := by
  obtain ⟨invocation, found, command, rfl, nonempty, rfl⟩ := asks
  have path : invocation.value.isEmpty = false := by simpa using nonempty
  rw [step_of_invocation? found, run]
  rcases command with ⟨name, rfl⟩ | ⟨name, rfl⟩
  · simp only [name, evaluate, path, Bool.false_eq_true, if_false]
  · simp only [name, evaluate, path, Bool.false_eq_true, if_false]

/-- A query that fails is notified. -/
theorem step_of_fails {host : Host} {step : Step} {root : Value} {text : String} {call : Bool}
    {error : QueryError} (asks : host.Asks step root text call)
    (fails : Path.find root text = .error error) (history : List Callable) :
    host.step history step = ⟨.error (.query error), [error.message], []⟩ := by
  rw [step_of_asks asks, query_eq, fails]
  rfl

/-- A step that finds a value gives it, or calls it. -/
theorem step_of_finds {host : Host} {step : Step} {call : Bool} {value : Value}
    (finds : host.Finds step call value) (history : List Callable) :
    host.step history step = .ofQuery (if call then value.invoke (host.answers history)
      else ⟨.ok value.serialize, [], []⟩) := by
  obtain ⟨root, text, asks, found⟩ := finds
  rw [step_of_asks asks, query_eq, found]

/-- A step that asks for a call of something else gives it and tells that it is no callable. -/
theorem step_of_notCallable {host : Host} {step : Step} {value : Value}
    (finds : host.Finds step true value) (other : value.asCallable? = none)
    (history : List Callable) :
    host.step history step = ⟨.ok value.serialize, [value.typeName ++ " is not callable"], []⟩ := by
  rw [step_of_finds finds, if_pos rfl, Value.invoke_of_asCallable? other]
  rfl

/-- A call that is answered gives the answer. -/
theorem step_of_answer {host : Host} {step : Step} {c : Callable} {history : List Callable}
    {answer : Value} (finds : host.Finds step true (.callable c))
    (answers : host.answers history c = .ok answer) :
    host.step history step = ⟨.ok answer.serialize, [], [c]⟩ := by
  rw [step_of_finds finds, if_pos rfl, Value.invoke, answers]
  rfl

/-- A call that fails gives nothing, and its failure is notified. -/
theorem step_of_callError {host : Host} {step : Step} {c : Callable} {history : List Callable}
    {error : CallError} (finds : host.Finds step true (.callable c))
    (answers : host.answers history c = .error error) :
    host.step history step = ⟨.ok "undefined", [error.message], [c]⟩ := by
  rw [step_of_finds finds, if_pos rfl, Value.invoke, answers]
  rfl

/-- A step asks for nothing, or for a path that leads nowhere, or it finds a value. -/
theorem asks_cases (host : Host) (step : Step) :
    (∀ root text call, ¬ host.Asks step root text call) ∨
      (∃ root text call error, host.Asks step root text call ∧
        Path.find root text = .error error) ∨
      ∃ call value, host.Finds step call value := by
  by_cases asking : ∃ root text call, host.Asks step root text call
  · obtain ⟨root, text, call, asks⟩ := asking
    cases found : Path.find root text with
    | error error => exact .inr (.inl ⟨root, text, call, error, asks, found⟩)
    | ok value => exact .inr (.inr ⟨call, value, root, text, asks, found⟩)
  · exact .inl fun root text call asks => asking ⟨root, text, call, asks⟩

/-! ## What a step does -/

/-- The report of a step, told by what the step asks for and what comes of it. -/
inductive Does (host : Host) (history : List Callable) (step : Step) : Report CommandError → Prop
  /-- Nothing is asked for: the help, an unknown command or a missing path. -/
  | idle (result : Except CommandError String) (nothing : ∀ root text call,
      ¬ host.Asks step root text call) (notQuery : ∀ error, result ≠ .error (.query error)) :
      Does host history step ⟨result, [], []⟩
  | failed (error : QueryError) {root : Value} {text : String} {call : Bool}
      (asks : host.Asks step root text call) (fails : Path.find root text = .error error) :
      Does host history step ⟨.error (.query error), [error.message], []⟩
  | found (value : Value) (finds : host.Finds step false value) :
      Does host history step ⟨.ok value.serialize, [], []⟩
  | notCallable (value : Value) (finds : host.Finds step true value)
      (other : value.asCallable? = none) :
      Does host history step ⟨.ok value.serialize, [value.typeName ++ " is not callable"], []⟩
  | answered (c : Callable) (answer : Value) (finds : host.Finds step true (.callable c))
      (answers : host.answers history c = .ok answer) :
      Does host history step ⟨.ok answer.serialize, [], [c]⟩
  | callFailed (c : Callable) (error : CallError) (finds : host.Finds step true (.callable c))
      (answers : host.answers history c = .error error) :
      Does host history step ⟨.ok "undefined", [error.message], [c]⟩

theorem step_does (host : Host) (history : List Callable) (step : Step) :
    host.Does history step (host.step history step) := by
  rcases host.asks_cases step with nothing | ⟨_, _, _, error, asks, fails⟩ | ⟨call, value, finds⟩
  · obtain ⟨result, notQuery, ran⟩ := step_of_not_asks nothing
    rw [ran]
    exact .idle result nothing notQuery
  · rw [step_of_fails asks fails]
    exact .failed error asks fails
  · cases call with
    | false =>
        rw [step_of_finds finds]
        exact .found value finds
    | true =>
        cases callable : value.asCallable? with
        | none =>
            rw [step_of_notCallable finds callable]
            exact .notCallable value finds callable
        | some c =>
            obtain rfl := Value.eq_of_asCallable? callable
            cases answers : host.answers history c with
            | ok answer =>
                rw [step_of_answer finds answers]
                exact .answered c answer finds answers
            | error error =>
                rw [step_of_callError finds answers]
                exact .callFailed c error finds answers

/-- A step that finds a callable and asks for a call calls it, once. -/
theorem called_of_finds {host : Host} {step : Step} {c : Callable}
    (finds : host.Finds step true (.callable c)) (history : List Callable) :
    (host.step history step).called = [c] := by
  cases answers : host.answers history c with
  | ok answer => rw [step_of_answer finds answers]
  | error error => rw [step_of_callError finds answers]

theorem Does.finds_of_called {host : Host} {history : List Callable} {step : Step}
    {report : Report CommandError} (does : host.Does history step report) {c : Callable}
    (called : c ∈ report.called) : host.Finds step true (.callable c) := by
  cases does with
  | answered _ _ finds | callFailed _ _ finds =>
      obtain rfl := List.mem_singleton.mp called
      exact finds
  | _ => exact absurd called List.not_mem_nil

/-- What a step calls does not depend on what was called before. -/
theorem called_step (host : Host) (history history' : List Callable) (step : Step) :
    (host.step history step).called = (host.step history' step).called := by
  by_cases finding : ∃ c, host.Finds step true (.callable c)
  · obtain ⟨c, finds⟩ := finding
    rw [called_of_finds finds, called_of_finds finds]
  · have none (history : List Callable) : (host.step history step).called = [] :=
      List.eq_nil_iff_forall_not_mem.mpr fun c called =>
        finding ⟨c, (host.step_does history step).finds_of_called called⟩
    rw [none, none]

/-- Two histories make the same of a step if the callable that it calls answers the same. -/
theorem step_congr {host : Host} {history history' : List Callable} {step : Step}
    (same : ∀ c ∈ (host.step history step).called,
      host.answers history c = host.answers history' c) :
    host.step history step = host.step history' step := by
  rcases host.asks_cases step with nothing | ⟨_, _, _, error, asks, fails⟩ | ⟨call, value, finds⟩
  · obtain ⟨result, -, ran⟩ := step_of_not_asks nothing
    rw [ran, ran]
  · rw [step_of_fails asks fails, step_of_fails asks fails]
  · rw [step_of_finds finds, step_of_finds finds]
    cases call with
    | false => rfl
    | true =>
        cases callable : value.asCallable? with
        | none => simp only [Value.invoke_of_asCallable? callable]
        | some c =>
            obtain rfl := Value.eq_of_asCallable? callable
            rw [called_of_finds finds] at same
            simp only [Value.invoke, same c (List.mem_singleton.mpr rfl)]

/-! ## What a step promises -/

/-- A report keeps the promises about calls and notifications. -/
structure Keeps (host : Host) (history : List Callable) (step : Step)
    (report : Report CommandError) : Prop where
  /-- One callable at most is called, and at most once. -/
  called_once : report.called.length ≤ 1
  /-- A callable is called exactly if the path leads to it and a call is asked for. -/
  called_iff : ∀ c, c ∈ report.called ↔ host.Finds step true (.callable c)
  notified_once : report.notified.length ≤ 1
  /-- A failed query is notified, and calls nothing. -/
  queryFailed : ∀ error, report.result = .error (.query error) →
    report.notified = [error.message] ∧ report.called = []
  /-- A failed call is notified, and gives nothing. -/
  callFailed : ∀ c ∈ report.called, ∀ error, host.answers history c = .error error →
    report.result = .ok "undefined" ∧ report.notified = [error.message]
  /-- An answered call gives its answer, which is not called again, and is not notified. -/
  answered : ∀ c ∈ report.called, ∀ answer, host.answers history c = .ok answer →
    report.result = .ok answer.serialize ∧ report.notified = []
  /-- A call of something else is notified, and gives what it gives without a call. -/
  notCallable : ∀ value, host.Finds step true value → value.asCallable? = none →
    report.result = (host.step history step.withoutCall).result ∧
      report.notified = [value.typeName ++ " is not callable"]
  /-- Nothing else is notified. -/
  notified_cases : report.notified ≠ [] →
    (∃ error, report.result = .error (.query error)) ∨
      (∃ c ∈ report.called, ∃ error, host.answers history c = .error error) ∨
      ∃ value, host.Finds step true value ∧ value.asCallable? = none
  /-- A command that asks for nothing, such as the help, neither notifies nor calls. -/
  idle : (∀ root text call, ¬ host.Asks step root text call) →
    report.notified = [] ∧ report.called = []
  /-- Neither an unknown command nor a missing path is notified, and they call nothing. -/
  refused : ∀ error, report.result = .error error → (∀ cause, error ≠ .query cause) →
    report.notified = [] ∧ report.called = []

namespace Does

variable {host : Host} {history : List Callable} {step : Step} {report : Report CommandError}

theorem called_length (does : host.Does history step report) : report.called.length ≤ 1 := by
  cases does with
  | answered | callFailed => exact Nat.le_refl 1
  | _ => exact Nat.zero_le 1

theorem notified_length (does : host.Does history step report) : report.notified.length ≤ 1 := by
  cases does with
  | failed | notCallable | callFailed => exact Nat.le_refl 1
  | _ => exact Nat.zero_le 1

theorem of_queryError (does : host.Does history step report) {error : QueryError}
    (failed : report.result = .error (.query error)) :
    report.notified = [error.message] ∧ report.called = [] := by
  cases does with
  | idle result _ notQuery => exact absurd failed (notQuery error)
  | failed _ _ _ =>
      obtain rfl := CommandError.query.inj (Except.error.inj failed)
      exact ⟨rfl, rfl⟩
  | _ => exact absurd failed nofun

theorem of_refused (does : host.Does history step report) {error : CommandError}
    (failed : report.result = .error error) (other : ∀ cause, error ≠ .query cause) :
    report.notified = [] ∧ report.called = [] := by
  cases does with
  | idle => exact ⟨rfl, rfl⟩
  | failed cause => exact absurd (Except.error.inj failed).symm (other cause)
  | _ => exact absurd failed nofun

theorem notified_cases (does : host.Does history step report) (notified : report.notified ≠ []) :
    (∃ error, report.result = .error (.query error)) ∨
      (∃ c ∈ report.called, ∃ error, host.answers history c = .error error) ∨
      ∃ value, host.Finds step true value ∧ value.asCallable? = none := by
  cases does with
  | failed error => exact .inl ⟨error, rfl⟩
  | callFailed c error _ answers =>
      exact .inr (.inl ⟨c, List.mem_singleton.mpr rfl, error, answers⟩)
  | notCallable value finds other => exact .inr (.inr ⟨value, finds, other⟩)
  | _ => exact absurd rfl notified

end Does

theorem keeps_step (host : Host) (history : List Callable) (step : Step) :
    host.Keeps history step (host.step history step) := by
  have does := host.step_does history step
  exact {
    called_once := does.called_length
    called_iff := fun c => ⟨does.finds_of_called, fun finds => by
      rw [called_of_finds finds]
      exact List.mem_singleton.mpr rfl⟩
    notified_once := does.notified_length
    queryFailed := fun _ => does.of_queryError
    callFailed := fun c called error answers => by
      rw [step_of_callError (does.finds_of_called called) answers]
      exact ⟨rfl, rfl⟩
    answered := fun c called answer answers => by
      rw [step_of_answer (does.finds_of_called called) answers]
      exact ⟨rfl, rfl⟩
    notCallable := fun value finds other => by
      rw [step_of_notCallable finds other, step_of_finds finds.withoutCall]
      exact ⟨rfl, rfl⟩
    notified_cases := does.notified_cases
    idle := fun nothing => by
      obtain ⟨result, -, ran⟩ := step_of_not_asks nothing
      rw [ran]
      exact ⟨rfl, rfl⟩
    refused := fun _ => does.of_refused }

end Host

end PathQuery
