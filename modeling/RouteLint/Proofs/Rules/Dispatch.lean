import RouteLint.Rules.Run

/-!
# Which rules are run, and how

Of the configured rules those are run that are turned on: their setting can be read and its level is
not off, and there is a handler for them.  Each of them is run once, in the order of the
configuration, from where the one before it left the workspace.  A rule that breaks down gives a
failed run without violations, and the next one is run all the same.

## Main definitions

* `TurnsOn` — an entry of a configuration turns a rule on.
* `Plans` — the rules that entries turn on, in their order.
* `Invokes` — the handlers of rules are called one after the other.
* `Dispatches` — both together.

## Main results

* `plans_planRules`, `Plans.unique` — the rules that are planned.
* `invokes_mapM_runRule` — planned rules are run.
* `dispatches_runRules` — configured rules are run.
-/

namespace RouteLint

open Validation

/-! ### Planning -/

/-- An entry turns a rule on: the key is its name, the value reads as a setting whose level is not
off, and there is a handler for it. -/
structure TurnsOn (handlers : Handlers) (e : CodePoints × Json.Value) (rule : PlannedRule) :
    Prop where
  name : e.1.toString? = some rule.name
  setting : RuleSetting.read e.2 = .ok rule.setting
  level : rule.setting.level ≠ .off
  handler : handlers.get? rule.name = some rule.handler
  details : rule.details = registry.get? rule.name

/-- The rules that entries turn on: one for each entry that does, in the order of the entries. -/
inductive Plans (handlers : Handlers) : Entries → List PlannedRule → Prop
  | nil : Plans handlers [] []
  | on {e : CodePoints × Json.Value} {rule : PlannedRule} {es : Entries}
    {rules : List PlannedRule} (he : TurnsOn handlers e rule) (hes : Plans handlers es rules) :
    Plans handlers (e :: es) (rule :: rules)
  | off {e : CodePoints × Json.Value} {es : Entries} {rules : List PlannedRule}
    (he : ∀ rule, ¬TurnsOn handlers e rule) (hes : Plans handlers es rules) :
    Plans handlers (e :: es) rules

theorem TurnsOn.unique {handlers : Handlers} {e : CodePoints × Json.Value}
    {rule rule' : PlannedRule} (h : TurnsOn handlers e rule) (h' : TurnsOn handlers e rule') :
    rule = rule' := by
  obtain ⟨name, setting, handler, details⟩ := rule
  obtain ⟨name', setting', handler', details'⟩ := rule'
  obtain rfl : name = name' := Option.some.inj (h.name.symm.trans h'.name)
  obtain rfl : setting = setting' := Except.ok.inj (h.setting.symm.trans h'.setting)
  obtain rfl : handler = handler' := Option.some.inj (h.handler.symm.trans h'.handler)
  obtain rfl : details = details' := h.details.trans h'.details.symm
  rfl

/-- The rules that entries turn on are determined by the entries. -/
theorem Plans.unique {handlers : Handlers} {es : Entries} {rules rules' : List PlannedRule}
    (h : Plans handlers es rules) (h' : Plans handlers es rules') : rules = rules' := by
  induction h generalizing rules' with
  | nil =>
    cases h'
    rfl
  | on he _ ih =>
    cases h' with
    | on he' hes' => rw [he.unique he', ih hes']
    | off he' _ => exact absurd he (he' _)
  | off he _ ih =>
    cases h' with
    | on he' _ => exact absurd he' (he _)
    | off _ hes' => exact ih hes'

/-- Planning one rule decides whether an entry turns it on. -/
theorem planRule_eq_ok {handlers : Handlers} {e : CodePoints × Json.Value} {rule : PlannedRule} :
    planRule handlers e.1 e.2 = .ok rule ↔ TurnsOn handlers e rule := by
  constructor
  · intro h
    unfold planRule at h
    split at h
    · cases h
    · next setting hsetting =>
      split at h
      · cases h
      · next hlevel =>
        split at h
        · cases h
        · next name handler hfound =>
          cases h
          obtain ⟨name', hname, hfound⟩ := Option.bind_eq_some_iff.1 hfound
          obtain ⟨handler', hhandler, heq⟩ := Option.map_eq_some_iff.1 hfound
          cases heq
          exact ⟨hname, hsetting, hlevel, hhandler, rfl⟩
  · intro h
    simp only [planRule, h.setting, if_neg h.level, h.name, Option.bind_some, h.handler,
      Option.map_some, ← h.details]

/-- Planning leaves everything but the log alone, and plans the rules that are turned on. -/
theorem plans_planRules (handlers : Handlers) (es : Entries) (w : Workspace) :
    ∃ rules told, (planRules handlers es).run w = (rules, { w with log := w.log ++ told }) ∧
      Plans handlers es rules := by
  induction es generalizing w with
  | nil => exact ⟨[], [], by rw [List.append_nil]; rfl, .nil⟩
  | cons e es ih =>
    cases hrule : planRule handlers e.1 e.2 with
    | ok rule =>
      obtain ⟨rules, told, hrun, hplans⟩ := ih w
      refine ⟨rule :: rules, told, ?_, .on (planRule_eq_ok.1 hrule) hplans⟩
      simp only [planRules, hrule, StateT.run_bind, hrun]
      rfl
    | error event =>
      have hoff : ∀ rule, ¬TurnsOn handlers e rule := by
        intro rule h
        rw [planRule_eq_ok.2 h] at hrule
        cases hrule
      cases event with
      | none =>
        obtain ⟨rules, told, hrun, hplans⟩ := ih w
        refine ⟨rules, told, ?_, .off hoff hplans⟩
        simp only [planRules, hrule]
        exact hrun
      | some event =>
        obtain ⟨rules, told, hrun, hplans⟩ := ih (w.tell event)
        refine ⟨rules, event :: told, ?_, .off hoff hplans⟩
        rw [List.append_cons]
        simp only [planRules, hrule]
        exact hrun

/-! ### Running -/

/-- The handlers of rules are called, each once and one after the other, and their results are
collected.  Where one breaks down the run has failed and has no violations, that is told, and the
others are called as if it had returned. -/
inductive Invokes (q : RunRequest) :
    List PlannedRule → Workspace → List RuleRun → Workspace → Prop
  | nil {w : Workspace} : Invokes q [] w [] w
  | result {rule : PlannedRule} {rules : List PlannedRule} {w w₁ w₂ : Workspace}
    {result : RunResult} {runs : List RuleRun}
    (h : (rule.handler ⟨q.directory, q.config, rule.setting.options, q.fix⟩).run w =
      (.ok result, w₁))
    (hrest : Invokes q rules w₁ runs w₂) :
    Invokes q (rule :: rules) w (⟨rule.name, result⟩ :: runs) w₂
  | failure {rule : PlannedRule} {rules : List PlannedRule} {w w₁ w₂ : Workspace}
    {message : String} {runs : List RuleRun}
    (h : (rule.handler ⟨q.directory, q.config, rule.setting.options, q.fix⟩).run w =
      (.error message, w₁))
    (hrest : Invokes q rules (w₁.tell (.ruleFailed rule.name)) runs w₂) :
    Invokes q (rule :: rules) w
      (⟨rule.name, { success := false, violations := [], message := "Error: " ++ message }⟩ :: runs)
      w₂

theorem runRule_of_ok {q : RunRequest} {rule : PlannedRule} {w w₁ : Workspace} {result : RunResult}
    (h : (rule.handler ⟨q.directory, q.config, rule.setting.options, q.fix⟩).run w =
      (.ok result, w₁)) : (runRule q rule).run w = (⟨rule.name, result⟩, w₁) := by
  simp only [runRule, StateT.run_bind, h]
  rfl

theorem runRule_of_error {q : RunRequest} {rule : PlannedRule} {w w₁ : Workspace}
    {message : String}
    (h : (rule.handler ⟨q.directory, q.config, rule.setting.options, q.fix⟩).run w =
      (.error message, w₁)) :
    (runRule q rule).run w =
      (⟨rule.name, { success := false, violations := [], message := "Error: " ++ message }⟩,
        w₁.tell (.ruleFailed rule.name)) := by
  simp only [runRule, StateT.run_bind, h]
  rfl

theorem mapM_runRule_cons {q : RunRequest} {rule : PlannedRule} {rules : List PlannedRule}
    {w w₁ w₂ : Workspace} {run : RuleRun} {runs : List RuleRun}
    (h : (runRule q rule).run w = (run, w₁)) (hrest : (rules.mapM (runRule q)).run w₁ = (runs, w₂)) :
    ((rule :: rules).mapM (runRule q)).run w = (run :: runs, w₂) := by
  rw [List.mapM_cons, StateT.run_bind, h]
  show ((rules.mapM (runRule q)) >>= fun runs => pure (run :: runs)).run w₁ = _
  rw [StateT.run_bind, hrest]
  rfl

/-- Running planned rules calls their handlers. -/
theorem invokes_mapM_runRule (q : RunRequest) (rules : List PlannedRule) (w : Workspace) :
    ∃ runs w', (rules.mapM (runRule q)).run w = (runs, w') ∧ Invokes q rules w runs w' := by
  induction rules generalizing w with
  | nil => exact ⟨[], w, rfl, .nil⟩
  | cons rule rules ih =>
    rcases h : (rule.handler ⟨q.directory, q.config, rule.setting.options, q.fix⟩).run w with
      ⟨message | result, w₁⟩
    · obtain ⟨runs, w₂, hrun, hinvokes⟩ := ih (w₁.tell (.ruleFailed rule.name))
      exact ⟨_, w₂, mapM_runRule_cons (runRule_of_error h) hrun, .failure h hinvokes⟩
    · obtain ⟨runs, w₂, hrun, hinvokes⟩ := ih w₁
      exact ⟨_, w₂, mapM_runRule_cons (runRule_of_ok h) hrun, .result h hinvokes⟩

/-- What is done with configured rules: those that are turned on are run, after something has been
told about the others. -/
def Dispatches (handlers : Handlers) (q : RunRequest) (es : Entries) (w : Workspace)
    (runs : List RuleRun) (w' : Workspace) : Prop :=
  ∃ rules told, Plans handlers es rules ∧
    Invokes q rules { w with log := w.log ++ told } runs w'

theorem dispatches_runRules (handlers : Handlers) (q : RunRequest) (es : Entries) (w : Workspace) :
    Dispatches handlers q es w ((runRules handlers q es).run w).1
      ((runRules handlers q es).run w).2 := by
  obtain ⟨rules, told, hplan, hplans⟩ := plans_planRules handlers es w
  obtain ⟨runs, w', hrun, hinvokes⟩ :=
    invokes_mapM_runRule q rules { w with log := w.log ++ told }
  have hruns : (runRules handlers q es).run w = (runs, w') := by
    simp only [runRules, StateT.run_bind, hplan]
    exact hrun
  rw [hruns]
  exact ⟨rules, told, hplans, hinvokes⟩

end RouteLint
