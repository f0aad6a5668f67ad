import EquationTutor.Session.Basic
import Mathlib.Data.List.Induction
/-!
What a session remembers. After any commands the current problem is the one of
the last request that was solved, unless it was cleared since; no command that
fails leaves a trace; and what is told of a problem depends on the history only
through the level and the options for lessons.
-/

namespace EquationTutor

variable {α : Type}

/-- The steps of a lesson as they were before it was made. -/
def Teaching.baseSteps (lesson : List Teaching.Entry) : List Step :=
  lesson.filterMap fun
    | .step base _ => some base
    | .bridge _ => none

theorem Teaching.baseSteps_enhanceAfter (kind : Kind) (level : Level) (options : Options)
    (total : Nat) (prev : Option Step) (steps : List Step) :
    baseSteps (enhanceAfter kind level options total prev steps) = steps := by
  induction steps generalizing prev with
  | nil => rfl
  | cons s rest ih =>
      have ih := ih (some s)
      unfold baseSteps at ih ⊢
      cases prev with
      | none => simp [enhanceAfter, ih]
      | some p =>
          simp only [enhanceAfter, List.filterMap_append, List.filterMap_cons, ih]
          split <;> simp

theorem Teaching.baseSteps_enhance (kind : Kind) (level : Level) (options : Options)
    (steps : List Step) : baseSteps (enhance kind level options steps) = steps := by
  unfold enhance
  split
  · rw [baseSteps, List.filterMap_map]
    exact List.filterMap_some
  · exact baseSteps_enhanceAfter kind level options steps.length none steps

def Settings.after (settings : Settings) : List (Command α) → Settings
  | [] => settings
  | .configure new :: commands => new.after commands
  | _ :: commands => settings.after commands

/-- The level that was asked for last, from `level` on. -/
def Teaching.Level.after (level : Teaching.Level) : List (Command α) → Teaching.Level
  | [] => level
  | .explain new :: commands => new.after commands
  | _ :: commands => level.after commands

theorem Settings.after_append (settings : Settings) (before after : List (Command α)) :
    settings.after (before ++ after) = (settings.after before).after after := by
  induction before generalizing settings with
  | nil => rfl
  | cons c before ih => cases c <;> exact ih _

theorem Teaching.Level.after_append (level : Teaching.Level) (before after : List (Command α)) :
    level.after (before ++ after) = (level.after before).after after := by
  induction before generalizing level with
  | nil => rfl
  | cons c before ih => cases c <;> exact ih _

namespace Call

variable {β γ : Type} {s t : Session α}

theorem run_get_bind (f : Session α → Call α β) : (get >>= f).run s = (f s).run s :=
  rfl

/-- A failure ends a call and keeps what was assigned before it. -/
theorem run_bind_of_error {c : Call α β} {e : Failure α} (h : c.run s = (.error e, t))
    (f : β → Call α γ) : (c >>= f).run s = (.error e, t) := by
  have hrun : (c >>= f).run s = ExceptT.bindCont f (c.run s).1 (c.run s).2 := rfl
  rw [hrun, h]
  rfl

end Call

variable [Scalar α]

/-- The request is read as this problem, which has this solution. -/
structure Request.Yields (r : Request α) (problem : Problem α) (solution : Solution α) :
    Prop where
  reads : Reading.parseProblem r.question = .ok problem
  solves : problem.solve = .ok solution

/-- The request can be solved. -/
def Request.Solvable (r : Request α) : Prop :=
  ∃ problem solution, r.Yields problem solution

/-- A request that can be solved is, and leads to the same in any session up to the
level. -/
theorem Request.solve_eq_ok {r : Request α} {problem : Problem α} {solution : Solution α}
    (h : r.Yields problem solution) (settings : Settings) :
    r.solve settings =
      .ok ⟨problem, solution, solution.steps problem.kind, r.level.getD settings.level⟩ := by
  simp only [solve, h.reads, bind, Except.bind, h.solves]
  rfl

theorem Request.yields_of_solve {r : Request α} {settings : Settings} {solved : Solved α}
    (h : r.solve settings = .ok solved) : r.Yields solved.problem solved.solution := by
  cases hread : Reading.parseProblem r.question with
  | error e => simp [solve, hread, bind, Except.bind] at h
  | ok problem =>
      cases hsolve : problem.solve with
      | error e => simp [solve, hread, hsolve, bind, Except.bind] at h
      | ok solution =>
          rw [solve_eq_ok ⟨hread, hsolve⟩] at h
          cases h
          exact ⟨hread, hsolve⟩

theorem Request.solve_eq_error {r : Request α} (h : ¬ r.Solvable) (settings : Settings) :
    ∃ e, r.solve settings = .error e := by
  cases hsolve : r.solve settings with
  | error e => exact ⟨e, rfl⟩
  | ok solved => exact absurd ⟨_, _, yields_of_solve hsolve⟩ h

/-- The command leaves a current problem where it is. -/
def Command.Keeps : Command α → Prop
  | .solve r => ¬ r.Solvable
  | .clear => False
  | .explain _ | .configure _ => True

namespace Session

def after (s : Session α) (commands : List (Command α)) : Session α :=
  (s.run commands).2

theorem after_append (s : Session α) (before after : List (Command α)) :
    s.after (before ++ after) = (s.after before).after after := by
  induction before generalizing s with
  | nil => rfl
  | cons c before ih => exact ih (s.apply c).2

theorem after_singleton (s : Session α) (c : Command α) : s.after [c] = (s.apply c).2 :=
  rfl

theorem apply_solve_of_yields (s : Session α) {r : Request α} {problem : Problem α}
    {solution : Solution α} (h : r.Yields problem solution) :
    let solved : Solved α :=
      ⟨problem, solution, solution.steps problem.kind, r.level.getD s.settings.level⟩
    s.apply (.solve r) =
      (.ok (.response (solved.response s.settings)), { s with current := some solved }) := by
  simp only [apply, Command.call, Call.solve, Request.solve_eq_ok h]
  rfl

theorem apply_solve_of_not_solvable (s : Session α) {r : Request α} (h : ¬ r.Solvable) :
    ∃ e, s.apply (.solve r) = (.error e, s) := by
  obtain ⟨e, he⟩ := Request.solve_eq_error h s.settings
  refine ⟨e, Call.run_bind_of_error ?_ _⟩
  rw [Call.solve, Call.run_get_bind]
  refine Call.run_bind_of_error ?_ _
  rw [he]
  rfl

theorem apply_explain_of_none {s : Session α} (h : s.current = none) (level : Teaching.Level) :
    s.apply (.explain level) = (.error .noActiveProblem, s) := by
  obtain ⟨settings, current⟩ := s
  subst h
  rfl

theorem apply_explain_of_some {s : Session α} {solved : Solved α} (h : s.current = some solved)
    (level : Teaching.Level) :
    s.apply (.explain level) =
      (.ok (.lesson (({ solved with level := level } : Solved α).lesson s.settings.options)),
        { s with current := some { solved with level := level } }) := by
  obtain ⟨settings, current⟩ := s
  subst h
  rfl

theorem settings_apply (s : Session α) (c : Command α) :
    (s.apply c).2.settings = s.settings.after [c] := by
  cases c with
  | solve r =>
      by_cases h : r.Solvable
      · obtain ⟨problem, solution, hyields⟩ := h
        rw [apply_solve_of_yields s hyields]
        rfl
      · obtain ⟨e, he⟩ := apply_solve_of_not_solvable s h
        rw [he]
        rfl
  | explain level =>
      cases h : s.current with
      | none =>
          rw [apply_explain_of_none h]
          rfl
      | some solved =>
          rw [apply_explain_of_some h]
          rfl
  | clear => rfl
  | configure settings => rfl

theorem current_apply_of_keeps (s : Session α) {c : Command α} (h : c.Keeps) :
    (s.apply c).2.current =
      s.current.map fun solved => { solved with level := solved.level.after [c] } := by
  cases c with
  | solve r =>
      obtain ⟨e, he⟩ := apply_solve_of_not_solvable s h
      rw [he]
      simp [Teaching.Level.after]
  | explain level =>
      cases hcurrent : s.current with
      | none =>
          rw [apply_explain_of_none hcurrent]
          simpa using hcurrent
      | some solved =>
          rw [apply_explain_of_some hcurrent]
          rfl
  | clear => exact h.elim
  | configure settings =>
      change s.current = _
      simp [Teaching.Level.after]

theorem settings_after (s : Session α) (commands : List (Command α)) :
    (s.after commands).settings = s.settings.after commands := by
  induction commands using List.reverseRecOn with
  | nil => rfl
  | append_singleton commands c ih =>
      rw [after_append, after_singleton, settings_apply, ih, Settings.after_append]

/-- `request` is the last one that was solved, nothing was cleared since, and `solved` is
what it led to, at the level that was asked for last. -/
def Remembers (settings : Settings) (commands : List (Command α)) (request : Request α)
    (solved : Solved α) : Prop :=
  ∃ before after, commands = before ++ .solve request :: after ∧ (∀ c ∈ after, c.Keeps) ∧
    request.Yields solved.problem solved.solution ∧
    solved.steps = solved.solution.steps solved.problem.kind ∧
    solved.level = (request.level.getD (settings.after before).level).after after

/-- Some request was solved, and nothing was cleared since. -/
def Occupied (commands : List (Command α)) : Prop :=
  ∃ before request after, commands = before ++ .solve request :: after ∧ request.Solvable ∧
    .clear ∉ after

private theorem append_singleton_eq_append_cons_iff {β : Type} {xs ys zs : List β} {x y : β} :
    xs ++ [x] = ys ++ y :: zs ↔
      (zs = [] ∧ xs = ys ∧ x = y) ∨ ∃ ws, zs = ws ++ [x] ∧ xs = ys ++ y :: ws := by
  rcases List.eq_nil_or_concat zs with rfl | ⟨ws, z, rfl⟩
  · simp
  · have hassoc : ys ++ y :: (ws ++ [z]) = (ys ++ y :: ws) ++ [z] := by simp
    rw [List.concat_eq_append, hassoc]
    constructor
    · intro h
      obtain ⟨hxs, hx⟩ := List.append_inj' h rfl
      exact .inr ⟨ws, by simpa using hx.symm, hxs⟩
    · rintro (⟨hnil, -, -⟩ | ⟨vs, hvs, rfl⟩)
      · simp at hnil
      · obtain ⟨rfl, hx⟩ := List.append_inj' hvs rfl
        rw [hx]

theorem remembers_append_solve {settings : Settings} {commands : List (Command α)}
    {r : Request α} (hr : r.Solvable) {request : Request α} {solved : Solved α} :
    Remembers settings (commands ++ [.solve r]) request solved ↔
      request = r ∧ r.Yields solved.problem solved.solution ∧
        solved.steps = solved.solution.steps solved.problem.kind ∧
        solved.level = r.level.getD (settings.after commands).level := by
  constructor
  · rintro ⟨before, after, hcommands, hkeeps, hyields, hsteps, hlevel⟩
    rcases append_singleton_eq_append_cons_iff.mp hcommands with
      ⟨rfl, rfl, hsolve⟩ | ⟨ws, rfl, -⟩
    · cases hsolve
      exact ⟨rfl, hyields, hsteps, hlevel⟩
    · exact absurd hr (hkeeps (.solve r) (by simp))
  · rintro ⟨rfl, hyields, hsteps, hlevel⟩
    exact ⟨commands, [], by simp, by simp, hyields, hsteps, hlevel⟩

theorem remembers_append_of_keeps {settings : Settings} {commands : List (Command α)}
    {c : Command α} (hc : c.Keeps) {request : Request α} {solved : Solved α} :
    Remembers settings (commands ++ [c]) request solved ↔
      ∃ earlier, Remembers settings commands request earlier ∧
        solved = { earlier with level := earlier.level.after [c] } := by
  constructor
  · rintro ⟨before, after, hcommands, hkeeps, hyields, hsteps, hlevel⟩
    rcases append_singleton_eq_append_cons_iff.mp hcommands with
      ⟨rfl, rfl, rfl⟩ | ⟨ws, rfl, rfl⟩
    · exact absurd ⟨_, _, hyields⟩ hc
    · rw [Teaching.Level.after_append] at hlevel
      refine ⟨{ solved with
          level := (request.level.getD (settings.after before).level).after ws },
        ⟨before, ws, rfl, fun d hd => hkeeps d (by simp [hd]), hyields, hsteps, rfl⟩, ?_⟩
      rw [← hlevel]
  · rintro ⟨earlier, ⟨before, after, rfl, hkeeps, hyields, hsteps, hlevel⟩, rfl⟩
    refine ⟨before, after ++ [c], by simp, ?_, hyields, hsteps, ?_⟩
    · intro d hd
      rcases List.mem_append.mp hd with hd | hd
      · exact hkeeps d hd
      · rwa [List.mem_singleton.mp hd]
    · rw [Teaching.Level.after_append, ← hlevel]

theorem not_remembers_append_clear {settings : Settings} {commands : List (Command α)}
    {request : Request α} {solved : Solved α} :
    ¬ Remembers settings (commands ++ [.clear]) request solved := by
  rintro ⟨before, after, hcommands, hkeeps, -⟩
  rcases append_singleton_eq_append_cons_iff.mp hcommands with ⟨-, -, hsolve⟩ | ⟨ws, rfl, -⟩
  · cases hsolve
  · exact hkeeps .clear (by simp)

/-- A command keeps the current problem, takes it away or solves a new one. -/
theorem keeps_or (c : Command α) :
    c.Keeps ∨ c = .clear ∨ ∃ r problem solution, c = .solve r ∧ r.Yields problem solution := by
  cases c with
  | solve r =>
      by_cases h : r.Solvable
      · obtain ⟨problem, solution, hyields⟩ := h
        exact .inr (.inr ⟨r, problem, solution, rfl, hyields⟩)
      · exact .inl h
  | explain level => exact .inl trivial
  | clear => exact .inr (.inl rfl)
  | configure settings => exact .inl trivial

/-- The current problem is the one that the history remembers. -/
theorem current_after_eq_some_iff (settings : Settings) (commands : List (Command α))
    (solved : Solved α) :
    ((start settings).after commands).current = some solved ↔
      ∃ request, Remembers settings commands request solved := by
  induction commands using List.reverseRecOn generalizing solved with
  | nil =>
      constructor
      · intro h
        cases h
      · rintro ⟨request, before, after, hcommands, -⟩
        simp at hcommands
  | append_singleton commands c ih =>
      rw [after_append, after_singleton]
      rcases keeps_or c with hc | rfl | ⟨r, problem, solution, rfl, hyields⟩
      · simp only [remembers_append_of_keeps hc, current_apply_of_keeps _ hc,
          Option.map_eq_some_iff, ih]
        constructor
        · rintro ⟨earlier, ⟨request, h⟩, rfl⟩
          exact ⟨request, earlier, h, rfl⟩
        · rintro ⟨request, earlier, h, rfl⟩
          exact ⟨earlier, ⟨request, h⟩, rfl⟩
      · constructor
        · intro h
          cases h
        · rintro ⟨request, h⟩
          exact absurd h not_remembers_append_clear
      · simp only [remembers_append_solve ⟨problem, solution, hyields⟩,
          apply_solve_of_yields _ hyields, settings_after, Option.some.injEq]
        constructor
        · rintro rfl
          exact ⟨r, rfl, hyields, rfl, rfl⟩
        · rintro ⟨-, -, hyields', hsteps, hlevel⟩
          obtain ⟨problem', solution', steps', level'⟩ := solved
          obtain rfl : problem = problem' :=
            Except.ok.inj (hyields.reads.symm.trans hyields'.reads)
          obtain rfl : solution = solution' :=
            Except.ok.inj (hyields.solves.symm.trans hyields'.solves)
          simp only at hsteps hlevel
          rw [hsteps, hlevel]
          rfl

theorem occupied_append_of_keeps {commands : List (Command α)} {c : Command α} (hc : c.Keeps) :
    Occupied (commands ++ [c]) ↔ Occupied commands := by
  constructor
  · rintro ⟨before, request, after, hcommands, hrequest, hclear⟩
    rcases append_singleton_eq_append_cons_iff.mp hcommands with
      ⟨rfl, rfl, rfl⟩ | ⟨ws, rfl, rfl⟩
    · exact absurd hrequest hc
    · exact ⟨before, request, ws, rfl, hrequest, fun h => hclear (by simp [h])⟩
  · rintro ⟨before, request, after, rfl, hrequest, hclear⟩
    refine ⟨before, request, after ++ [c], by simp, hrequest, ?_⟩
    intro h
    rcases List.mem_append.mp h with h | h
    · exact hclear h
    · rw [← List.mem_singleton.mp h] at hc
      exact hc

theorem not_occupied_append_clear (commands : List (Command α)) :
    ¬ Occupied (commands ++ [.clear]) := by
  rintro ⟨before, request, after, hcommands, -, hclear⟩
  rcases append_singleton_eq_append_cons_iff.mp hcommands with ⟨-, -, hsolve⟩ | ⟨ws, rfl, -⟩
  · cases hsolve
  · simp at hclear

theorem current_after_eq_none_iff (settings : Settings) (commands : List (Command α)) :
    ((start settings).after commands).current = none ↔ ¬ Occupied commands := by
  induction commands using List.reverseRecOn with
  | nil =>
      refine ⟨fun _ => ?_, fun _ => rfl⟩
      rintro ⟨before, request, after, hcommands, -⟩
      simp at hcommands
  | append_singleton commands c ih =>
      rw [after_append, after_singleton]
      rcases keeps_or c with hc | rfl | ⟨r, problem, solution, rfl, hyields⟩
      · rw [current_apply_of_keeps _ hc, Option.map_eq_none_iff, ih,
          occupied_append_of_keeps hc]
      · exact ⟨fun _ => not_occupied_append_clear commands, fun _ => rfl⟩
      · rw [apply_solve_of_yields _ hyields]
        constructor
        · intro h
          cases h
        · intro h
          exact absurd ⟨commands, r, [], rfl, ⟨problem, solution, hyields⟩, by simp⟩ h

/-- The lesson on what the history remembers, at any level, is the one that a new session
with the present settings gives on the request at that level. -/
theorem lesson_of_remembers {settings : Settings} {commands : List (Command α)}
    {request : Request α} {solved : Solved α} (h : Remembers settings commands request solved)
    (level : Teaching.Level) :
    let s := (start settings).after commands
    ∃ response,
      (s.apply (.explain level)).1 = .ok (.lesson response.lesson) ∧
      ((start s.settings).apply (.solve { request with level := some level })).1 =
        .ok (.response response) := by
  intro s
  have hcurrent : s.current = some solved :=
    (current_after_eq_some_iff settings commands solved).mpr ⟨request, h⟩
  obtain ⟨before, after, -, -, hyields, hsteps, -⟩ := h
  have hagain : Request.Yields { request with level := some level } solved.problem
      solved.solution := ⟨hyields.reads, hyields.solves⟩
  rw [apply_explain_of_some hcurrent, apply_solve_of_yields (start s.settings) hagain]
  refine ⟨_, ?_, rfl⟩
  simp [Solved.response, Solved.lesson, hsteps, start]

/-- What a request leads to does not depend on the session, its history or its settings,
nor on the level of the request. -/
theorem response_of_yields {request : Request α} {problem : Problem α} {solution : Solution α}
    (h : request.Yields problem solution) (s : Session α) (level : Option Teaching.Level) :
    ∃ response,
      (s.apply (.solve { request with level := level })).1 = .ok (.response response) ∧
      response.problem = problem ∧ response.solution = solution ∧
      response.report = solution.verify ∧
      Teaching.baseSteps response.lesson = solution.steps problem.kind := by
  have hagain : Request.Yields { request with level := level } problem solution :=
    ⟨h.reads, h.solves⟩
  rw [apply_solve_of_yields s hagain]
  exact ⟨_, rfl, rfl, rfl, rfl, Teaching.baseSteps_enhance _ _ _ _⟩

/-- After any commands: the slot is empty iff no request was solved since the last `clear`,
and else holds what the last one led to; what fails changes nothing; the current problem is
explained as a new session would explain it; and what a request leads to is the same in
every session. -/
theorem history_determines_session (settings : Settings) (commands : List (Command α)) :
    let s := (start settings).after commands
    (s.current = none ↔ ¬ Occupied commands) ∧
    (∀ solved, s.current = some solved ↔
      ∃ request, Remembers settings commands request solved) ∧
    (∀ request : Request α, ¬ request.Solvable →
      ∃ e, s.apply (.solve request) = (.error e, s)) ∧
    (s.current = none → ∀ level, s.apply (.explain level) = (.error .noActiveProblem, s)) ∧
    (∀ request solved level, Remembers settings commands request solved →
      ∃ response,
        (s.apply (.explain level)).1 = .ok (.lesson response.lesson) ∧
        ((start s.settings).apply (.solve { request with level := some level })).1 =
          .ok (.response response)) ∧
    (∀ (request : Request α) problem solution, request.Yields problem solution →
      ∀ (t : Session α) level, ∃ response,
        (t.apply (.solve { request with level := level })).1 = .ok (.response response) ∧
        response.problem = problem ∧ response.solution = solution ∧
        response.report = solution.verify ∧
        Teaching.baseSteps response.lesson = solution.steps problem.kind) := by
  intro s
  refine ⟨current_after_eq_none_iff settings commands,
    current_after_eq_some_iff settings commands,
    fun request h => apply_solve_of_not_solvable s h,
    fun h level => apply_explain_of_none h level,
    fun request solved level h => lesson_of_remembers h level,
    fun request problem solution h t level => response_of_yields h t level⟩

end Session

end EquationTutor
