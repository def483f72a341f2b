import PathQuery.Proofs.Command.Steps

/-!
# Calls and notifications of a session

Every step of a session keeps its promises, with the calls that the earlier steps have made as
history (`Host.keeps_session`).

The history matters to a step only by how often the callable that the step calls has been called. So
steps that call nothing can be left out of a session, or put into it, without any effect on the
others, and steps that call other callables make no difference to the steps that call a given one
(`Host.transcript_sublist`).
-/

set_option autoImplicit false

namespace PathQuery

namespace Host

/-- Every step of a session keeps the promises, after the calls of the earlier steps. -/
theorem keeps_session (host : Host) {steps : List Step} {i : Nat} {step : Step}
    (there : steps[i]? = some step) (history : List Callable) :
    ∃ report, (host.session history steps)[i]? = some report ∧
      host.Keeps (history ++ ((host.session history steps).take i).flatMap (·.called)) step
        report := by
  induction steps generalizing i history with
  | nil => exact absurd there nofun
  | cons first rest ih =>
      cases i with
      | zero =>
          obtain rfl := Option.some.inj there
          refine ⟨host.step history first, rfl, ?_⟩
          simpa using host.keeps_step history first
      | succ i =>
          obtain ⟨report, reported, keeps⟩ := ih there (history ++ (host.step history first).called)
          refine ⟨report, reported, ?_⟩
          simpa [session] using keeps

end Host

/-! ## Leaving steps out -/

/-- One of the watched callables is called. -/
def Report.callsSome {ε : Type} (watched : Nat → Bool) (report : Report ε) : Bool :=
  report.called.any fun c => watched c.id

/-- Only watched callables are called, or none. -/
def Report.callsOnly {ε : Type} (watched : Nat → Bool) (report : Report ε) : Bool :=
  report.called.all fun c => watched c.id

namespace Host

/-- The steps of a session and their reports. -/
def transcript (host : Host) (history : List Callable) (steps : List Step) :
    List (Step × Report CommandError) :=
  steps.zip (host.session history steps)

theorem transcript_cons (host : Host) (history : List Callable) (step : Step)
    (rest : List Step) :
    host.transcript history (step :: rest) = (step, host.step history step) ::
      host.transcript (history ++ (host.step history step).called) rest :=
  rfl

/-- Two histories hold the same number of calls of each watched callable. -/
def SameCalls (watched : Nat → Bool) (history history' : List Callable) : Prop :=
  ∀ c : Callable, watched c.id = true →
    history.countP (·.id == c.id) = history'.countP (·.id == c.id)

theorem SameCalls.append {watched : Nat → Bool} {history history' : List Callable}
    (same : SameCalls watched history history') (called : List Callable) :
    SameCalls watched (history ++ called) (history' ++ called) := by
  intro c watching
  rw [List.countP_append, List.countP_append, same c watching]

theorem SameCalls.append_unwatched {watched : Nat → Bool} {history history' : List Callable}
    (same : SameCalls watched history history') {called : List Callable}
    (unwatched : (called.any fun c => watched c.id) = false) :
    SameCalls watched (history ++ called) history' := by
  intro c watching
  have uncounted : called.countP (·.id == c.id) = 0 := by
    refine List.countP_eq_zero.mpr fun other member equal => ?_
    have ids : other.id = c.id := beq_iff_eq.mp equal
    exact List.any_eq_false.mp unwatched other member (ids ▸ watching)
  rw [List.countP_append, uncounted, same c watching, Nat.add_zero]

theorem step_of_sameCalls {host : Host} {watched : Nat → Bool} {history history' : List Callable}
    {step : Step} (same : SameCalls watched history history')
    (only : (host.step history step).callsOnly watched = true) :
    host.step history step = host.step history' step := by
  refine step_congr fun c called => ?_
  have watching : watched c.id = true := List.all_eq_true.mp only c called
  rw [answers, answers, same c watching]

end Host

/-- What is left out of a list without losing an item that counts does not count. -/
theorem filter_eq_of_filter_cons {α : Type} {p : α → Bool} {a : α} {kept rest : List α}
    (sublist : kept.Sublist rest) (all : kept.filter p = (a :: rest).filter p) :
    p a = false ∧ kept.filter p = rest.filter p := by
  have other : p a = false := by
    refine Bool.eq_false_iff.mpr fun counts => ?_
    have fewer := (sublist.filter p).length_le
    rw [all, List.filter_cons_of_pos counts, List.length_cons] at fewer
    omega
  exact ⟨other, all.trans (List.filter_cons_of_neg (Bool.eq_false_iff.mp other))⟩

theorem filter_eq_of_cons_cons {α : Type} {p : α → Bool} {a : α} {kept rest : List α}
    (all : (a :: kept).filter p = (a :: rest).filter p) : kept.filter p = rest.filter p := by
  rw [List.filter_cons, List.filter_cons] at all
  split at all
  · exact (List.cons.inj all).2
  · exact all

namespace Host

/-- Steps that call no watched callable can be left out. The steps that are kept report the same, if
they call nothing that is not watched. -/
theorem transcript_sublist (host : Host) (watched : Nat → Bool) {steps : List Step}
    {kept : List (Step × Report CommandError)} {history history' : List Callable}
    (sublist : kept.Sublist (host.transcript history steps))
    (all : kept.filter (·.2.callsSome watched) =
      (host.transcript history steps).filter (·.2.callsSome watched))
    (same : SameCalls watched history history') :
    (host.transcript history' (kept.map Prod.fst)).filter (·.2.callsOnly watched) =
      kept.filter (·.2.callsOnly watched) := by
  induction steps generalizing kept history history' with
  | nil =>
      obtain rfl := List.sublist_nil.mp sublist
      rfl
  | cons step rest ih =>
      rw [transcript_cons] at sublist all
      cases sublist with
      | cons _ sublist =>
          obtain ⟨unwatched, rest_all⟩ := filter_eq_of_filter_cons sublist all
          exact ih sublist rest_all (same.append_unwatched unwatched)
      | cons_cons _ sublist =>
          have called := host.called_step history history' step
          have tail := ih sublist (filter_eq_of_cons_cons all) (same.append _)
          rw [List.map_cons, transcript_cons, ← called]
          by_cases only : (host.step history step).callsOnly watched = true
          · rw [← step_of_sameCalls same only]
            simp only [List.filter_cons, only, if_true, tail]
          · have only' : ¬ (host.step history' step).callsOnly watched = true := by
              rwa [Report.callsOnly, ← called]
            simp only [List.filter_cons, only, only', Bool.false_eq_true, if_false, tail]

theorem callsSome_true (report : Report CommandError) :
    report.callsSome (fun _ => true) = !report.called.isEmpty := by
  rw [Report.callsSome]
  cases report.called <;> rfl

theorem callsOnly_true (report : Report CommandError) :
    report.callsOnly (fun _ => true) = true :=
  List.all_eq_true.mpr fun _ _ => rfl

/-- Steps that call nothing can be left out without any effect on the others. -/
theorem transcript_of_quiet (host : Host) {steps : List Step}
    {kept : List (Step × Report CommandError)} {history : List Callable}
    (sublist : kept.Sublist (host.transcript history steps))
    (all : kept.filter (!·.2.called.isEmpty) =
      (host.transcript history steps).filter (!·.2.called.isEmpty)) :
    host.transcript history (kept.map Prod.fst) = kept := by
  have same : SameCalls (fun _ => true) history history := fun _ _ => rfl
  have everything (entries : List (Step × Report CommandError)) :
      entries.filter (·.2.callsOnly fun _ => true) = entries :=
    List.filter_eq_self.mpr fun entry _ => callsOnly_true entry.2
  have unchanged := host.transcript_sublist (fun _ => true) sublist
    (by simpa only [callsSome_true] using all) same
  rwa [everything, everything] at unchanged

/-- **Commands call and notify as promised, over any session.** Every step keeps the promises, with
the calls that the earlier steps have made as history. Steps that call nothing make no difference
to the others. Steps that call none of some callables make no difference to the steps that call
these, or nothing. -/
theorem session_keeps_promises (host : Host) (history : List Callable) (steps : List Step) :
    (∀ i step, steps[i]? = some step →
      ∃ report, (host.session history steps)[i]? = some report ∧
        host.Keeps (history ++ ((host.session history steps).take i).flatMap (·.called)) step
          report) ∧
    ∀ kept : List (Step × Report CommandError), kept.Sublist (host.transcript history steps) →
      (kept.filter (!·.2.called.isEmpty) =
          (host.transcript history steps).filter (!·.2.called.isEmpty) →
        host.transcript history (kept.map Prod.fst) = kept) ∧
      ∀ watched : Nat → Bool,
        kept.filter (·.2.callsSome watched) =
          (host.transcript history steps).filter (·.2.callsSome watched) →
        (host.transcript history (kept.map Prod.fst)).filter (·.2.callsOnly watched) =
          kept.filter (·.2.callsOnly watched) := by
  refine ⟨fun i step there => host.keeps_session there history, fun kept sublist => ⟨fun all => ?_,
    fun watched all => ?_⟩⟩
  · exact host.transcript_of_quiet sublist all
  · exact host.transcript_sublist watched sublist all fun _ _ => rfl

/-- Of four steps, the first and the last call the same callable, which answers once and fails then.
The others call another one and do nothing, and without them nothing changes. -/
theorem session_keeps_promises_once :
    let once : Callable := ⟨0, "once"⟩
    let other : Callable := ⟨1, "other"⟩
    let host : Host := ⟨.map [("once", .callable once)], .map [("other", .callable other)],
      fun _ before => if before = 0 then .ok (.string "first") else .error ⟨"spent"⟩⟩
    let asks : Step := .invocation ⟨"context", [("call", "on")], "once"⟩
    let steps := [asks, .invocation ⟨"context-window", [("call", "1")], "other"⟩, .line "", asks]
    let first : Report CommandError := ⟨.ok "\"first\"", [], [once]⟩
    let last : Report CommandError := ⟨.ok "undefined", ["spent"], [once]⟩
    let kept := [(asks, first), (asks, last)]
    (host.session [] steps)[3]? = some last ∧ host.Keeps [once, other] asks last ∧
      kept.Sublist (host.transcript [] steps) ∧
      (host.transcript [] [asks, asks]).filter (·.2.callsOnly (· == 0)) = kept := by
  intro once other host asks steps first last kept
  have reported : host.session [] steps =
      [first, ⟨.ok "\"first\"", [], [other]⟩, ⟨.error (.unknownCommand ""), [], []⟩, last] := by
    rfl
  have ends : kept.Sublist (host.transcript [] steps) := by
    rw [transcript, reported]
    exact .cons_cons _ (.cons _ (.cons _ (.cons_cons _ .slnil)))
  obtain ⟨keeps, others⟩ := session_keeps_promises host [] steps
  refine ⟨by rw [reported]; rfl, ?_, ends, ?_⟩
  · obtain ⟨report, found, kept⟩ := keeps 3 asks rfl
    rw [reported] at found kept
    obtain rfl := Option.some.inj found
    exact kept
  · refine (others kept ends).2 (· == 0) ?_
    rw [transcript, reported]
    rfl

end Host

end PathQuery
