/-!
# Runs of a step function

A system is a step function from a state and an action to the next state
and an observation. `Run ok step s₀ log s` is a sequence of steps, each
allowed by `ok`, from `s₀` to `s`, with the observations in order in `log`.
A property of every reachable state is proved once per step (`Run.inv`).
-/

namespace Chamelio.Lib

section

variable {σ α β : Type}

/-- Runs of `step` whose steps all satisfy `ok`. -/
inductive Run (ok : σ → α → Prop) (step : σ → α → σ × β) (s₀ : σ) : List β → σ → Prop
  | nil : Run ok step s₀ [] s₀
  | snoc {log : List β} {s : σ} {a : α} (hr : Run ok step s₀ log s) (h : ok s a) :
    Run ok step s₀ (log ++ [(step s a).2]) (step s a).1

/-- **The invariant rule**: what holds at the start and is kept by every
allowed step holds of every run. -/
theorem Run.inv {ok : σ → α → Prop} {step : σ → α → σ × β} {s₀ : σ}
    {I : List β → σ → Prop} (h₀ : I [] s₀)
    (hstep : ∀ log s a, I log s → ok s a → I (log ++ [(step s a).2]) (step s a).1)
    {log : List β} {s : σ} (hr : Run ok step s₀ log s) : I log s := by
  induction hr with
  | nil => exact h₀
  | snoc _ h ih => exact hstep _ _ _ ih h

/-- A weaker condition on steps allows the same run. -/
theorem Run.mono {ok ok' : σ → α → Prop} {step : σ → α → σ × β} {s₀ : σ}
    (hok : ∀ s a, ok s a → ok' s a) {log : List β} {s : σ}
    (hr : Run ok step s₀ log s) : Run ok' step s₀ log s := by
  induction hr with
  | nil => exact Run.nil
  | snoc _ h ih => exact Run.snoc ih (hok _ _ h)

/-- The observations and the last state of a list of actions. -/
def execAll (step : σ → α → σ × β) : List α → σ → List β × σ
  | [], s => ([], s)
  | a :: acts, s =>
    let (log, s') := execAll step acts (step s a).1
    ((step s a).2 :: log, s')

/-- A list of actions each of which is allowed wherever `I` holds, and keeps
`I` there, is a run. -/
theorem Run.execInv {ok : σ → α → Prop} {step : σ → α → σ × β} {s₀ : σ}
    {I : List β → σ → Prop} {acts : List α}
    (hok : ∀ a ∈ acts, ∀ log s, I log s → ok s a)
    (hstep : ∀ log s a, I log s → ok s a → I (log ++ [(step s a).2]) (step s a).1)
    {log : List β} {s : σ} (hI : I log s) (hr : Run ok step s₀ log s) :
    Run ok step s₀ (log ++ (Lib.execAll step acts s).1) (Lib.execAll step acts s).2 := by
  induction acts generalizing log s with
  | nil =>
    rw [show (Lib.execAll step [] s).1 = [] from rfl, List.append_nil]
    exact hr
  | cons a acts ih =>
    have ha := hok a List.mem_cons_self log s hI
    have h := ih (fun b hb => hok b (List.mem_cons_of_mem a hb)) (hstep log s a hI ha)
      (Run.snoc hr ha)
    rw [List.append_assoc] at h
    exact h

/-- Where every step is allowed, any list of actions is a run. -/
theorem Run.execAll {step : σ → α → σ × β} {s₀ : σ} (acts : List α) {log : List β} {s : σ}
    (hr : Run (fun _ _ => True) step s₀ log s) :
    Run (fun _ _ => True) step s₀ (log ++ (Lib.execAll step acts s).1)
      (Lib.execAll step acts s).2 :=
  Run.execInv (I := fun _ _ => True) (fun _ _ _ _ _ => trivial) (fun _ _ _ _ _ => trivial)
    trivial hr

/-- Every step of a list of actions is allowed. -/
def Allowed (ok : σ → α → Prop) (step : σ → α → σ × β) : List α → σ → Prop
  | [], _ => True
  | a :: acts, s => ok s a ∧ Allowed ok step acts (step s a).1

/-- A list of allowed actions, as a run. -/
theorem Run.execAllowed {ok : σ → α → Prop} {step : σ → α → σ × β} {s₀ : σ} (acts : List α)
    {log : List β} {s : σ} (hr : Run ok step s₀ log s) (h : Allowed ok step acts s) :
    Run ok step s₀ (log ++ (Lib.execAll step acts s).1) (Lib.execAll step acts s).2 := by
  induction acts generalizing log s with
  | nil =>
    rw [show (Lib.execAll step [] s).1 = [] from rfl, List.append_nil]
    exact hr
  | cons a acts ih =>
    have hr' := ih (Run.snoc (a := a) hr h.1) h.2
    rw [List.append_assoc] at hr'
    exact hr'

/-- The test for it. -/
def allOk (ok : σ → α → Prop) [∀ s a, Decidable (ok s a)] (step : σ → α → σ × β) :
    List α → σ → Bool
  | [], _ => true
  | a :: acts, s => decide (ok s a) && allOk ok step acts (step s a).1

theorem allowed_of_allOk {ok : σ → α → Prop} [∀ s a, Decidable (ok s a)] {step : σ → α → σ × β}
    {acts : List α} {s : σ} (h : allOk ok step acts s = true) : Allowed ok step acts s := by
  induction acts generalizing s with
  | nil => trivial
  | cons a acts ih =>
    obtain ⟨ha, hrest⟩ := Bool.and_eq_true_iff.mp h
    exact ⟨of_decide_eq_true ha, ih hrest⟩

/-- A list of actions that pass the test is a run. -/
theorem Run.execOk {ok : σ → α → Prop} [∀ s a, Decidable (ok s a)] {step : σ → α → σ × β}
    {s₀ : σ} (acts : List α) {log : List β} {s : σ} (hr : Run ok step s₀ log s)
    (h : allOk ok step acts s = true) :
    Run ok step s₀ (log ++ (Lib.execAll step acts s).1) (Lib.execAll step acts s).2 :=
  hr.execAllowed acts (allowed_of_allOk h)

end

end Chamelio.Lib
