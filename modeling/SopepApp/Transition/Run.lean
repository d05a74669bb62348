import Mathlib.Tactic

/-!
Runs of a state machine.

A machine is a function `step` from a state and an event to the next state;
`run` folds it over a list of events. Two notions speak about every moment of
a run: `Always P` about each event with the state it is taken in, `Throughout
I` about each state reached.

* `run_append`, `run_concat`: runs in parts;
* `Always.induction`: what each step preserves holds after the run, for
  properties of the events so far;
* `Throughout.of_step`: the invariant rule;
* `throughout_iff_always`: when the steps that keep a property are known
  exactly, so are the runs that do;
* `Always.reaches`: the termination rule: a run is no longer than a measure
  that its steps decrease, unless it has reached its goal;
* `outputs`: what the steps of a run put out, in order;
* `Always.balance`: what the steps add to a quantity makes up what it becomes;
* `get_run`: a part of the state holds what was written to it last;
* `Always.simulate`: a machine whose steps stand for events of another one has
  a run of that one for each of its own.
-/

namespace Transition

variable {σ ε : Type*}

/-- The state after a list of events. -/
def run (step : σ → ε → σ) (s : σ) (es : List ε) : σ := es.foldl step s

/-- `P` holds at every step of the run: of the state before it and its
event. -/
def Always (step : σ → ε → σ) (P : σ → ε → Prop) (s : σ) (es : List ε) : Prop :=
  ∀ pre e post, es = pre ++ e :: post → P (run step s pre) e

/-- `I` holds in every state of the run, the first and the last included. -/
def Throughout (step : σ → ε → σ) (I : σ → Prop) (s : σ) (es : List ε) : Prop :=
  ∀ pre, pre <+: es → I (run step s pre)

variable {step : σ → ε → σ} {P : σ → ε → Prop} {I : σ → Prop} {s : σ} {es : List ε} {e : ε}

@[simp] lemma run_nil (step : σ → ε → σ) (s : σ) : run step s [] = s := rfl

@[simp] lemma run_cons (step : σ → ε → σ) (s : σ) (e : ε) (es : List ε) :
    run step s (e :: es) = run step (step s e) es := rfl

lemma run_append (step : σ → ε → σ) (s : σ) (es es' : List ε) :
    run step s (es ++ es') = run step (run step s es) es' := List.foldl_append

@[simp] lemma run_concat (step : σ → ε → σ) (s : σ) (es : List ε) (e : ε) :
    run step s (es ++ [e]) = step (run step s es) e := by
  rw [run_append, run_cons, run_nil]

/-! ### Every step -/

lemma Always.nil : Always step P s [] := by
  intro pre e post h
  simp at h

lemma Always.of_prefix {es' : List ε} (h : Always step P s es) (hp : es' <+: es) :
    Always step P s es' := by
  obtain ⟨t, rfl⟩ := hp
  rintro pre e post rfl
  exact h pre e (post ++ t) (by simp)

lemma always_concat :
    Always step P s (es ++ [e]) ↔ Always step P s es ∧ P (run step s es) e := by
  constructor
  · intro h
    exact ⟨h.of_prefix (List.prefix_append _ _), h es e [] (by simp)⟩
  · rintro ⟨h, he⟩ pre e' post heq
    rcases List.eq_nil_or_concat post with rfl | ⟨post, x, rfl⟩
    · obtain ⟨rfl, h2⟩ := List.append_inj' heq rfl
      obtain rfl := List.singleton_inj.mp h2
      exact he
    · rw [List.concat_eq_append, ← List.cons_append, ← List.append_assoc] at heq
      exact h pre e' post (List.append_inj' heq rfl).1

lemma cons_iff_always : (P s e ∧ Always step P (step s e) es) ↔ Always step P s (e :: es) := by
  constructor
  · rintro ⟨he, hes⟩ pre e' post heq
    cases pre with
    | nil =>
        obtain ⟨rfl, -⟩ := List.cons.inj heq
        exact he
    | cons x pre =>
        obtain ⟨rfl, hrest⟩ := List.cons.inj heq
        exact hes pre e' post hrest
  · intro h
    refine ⟨h [] e es rfl, ?_⟩
    rintro pre e' post rfl
    exact h (e :: pre) e' post rfl

lemma always_singleton : Always step P s [e] ↔ P s e := by
  rw [← cons_iff_always]
  exact ⟨fun h => h.1, fun h => ⟨h, Always.nil⟩⟩

instance Always.decidable [∀ s e, Decidable (P s e)] :
    ∀ (s : σ) (es : List ε), Decidable (Always step P s es)
  | _, [] => .isTrue Always.nil
  | s, e :: es =>
    have := Always.decidable (step s e) es
    decidable_of_iff (P s e ∧ Always step P (step s e) es) cons_iff_always

lemma always_and {Q : σ → ε → Prop} :
    Always step (fun t e => P t e ∧ Q t e) s es ↔ Always step P s es ∧ Always step Q s es :=
  ⟨fun h => ⟨fun pre e post heq => (h pre e post heq).1, fun pre e post heq => (h pre e post heq).2⟩,
    fun h pre e post heq => ⟨h.1 pre e post heq, h.2 pre e post heq⟩⟩

/-- **Induction along a run**: a property of the events so far that holds at
the start and is kept by every step holds after the run. -/
theorem Always.induction {J : List ε → Prop} (h : Always step P s es) (h0 : J [])
    (hstep : ∀ es e, J es → P (run step s es) e → J (es ++ [e])) : J es := by
  induction es using List.reverseRecOn with
  | nil => exact h0
  | append_singleton es e ih =>
      rw [always_concat] at h
      exact hstep es e (ih h.1) h.2

/-! ### Every state -/

lemma Throughout.last (h : Throughout step I s es) : I (run step s es) :=
  h es List.prefix_rfl

lemma Throughout.of_prefix {es' : List ε} (h : Throughout step I s es) (hp : es' <+: es) :
    Throughout step I s es' :=
  fun pre hpre => h pre (hpre.trans hp)

lemma throughout_nil : Throughout step I s [] ↔ I s := by
  constructor
  · intro h
    exact h.last
  · intro h pre hpre
    rw [List.prefix_nil.mp hpre]
    exact h

lemma throughout_concat :
    Throughout step I s (es ++ [e]) ↔ Throughout step I s es ∧ I (step (run step s es) e) := by
  constructor
  · intro h
    refine ⟨h.of_prefix (List.prefix_append _ _), ?_⟩
    rw [← run_concat step s es e]
    exact h.last
  · rintro ⟨h, he⟩ pre hpre
    rcases List.prefix_concat_iff.mp hpre with rfl | hpre
    · rw [run_concat]
      exact he
    · exact h pre hpre

/-- **The invariant rule**: what holds at the start and is kept by every step
that satisfies `P` holds throughout a run whose steps all satisfy `P`. -/
theorem Throughout.of_step (h0 : I s) (hstep : ∀ t e, I t → P t e → I (step t e))
    (h : Always step P s es) : Throughout step I s es := by
  refine h.induction (J := fun es => Throughout step I s es) (throughout_nil.mpr h0) ?_
  intro es e hes he
  exact throughout_concat.mpr ⟨hes, hstep _ e hes.last he⟩

/-- The invariant rule for steps without a condition. -/
theorem Throughout.of_invariant (h0 : I s) (hstep : ∀ t e, I t → I (step t e)) :
    Throughout step I s es :=
  Throughout.of_step (P := fun _ _ => True) h0 (fun t e ht _ => hstep t e ht)
    fun _ _ _ _ => trivial

/-- A property of every state gives one of every step, one more step
included. -/
lemma Throughout.always_concat (h : Throughout step I s es) (himp : ∀ t e, I t → P t e) (e : ε) :
    Always step P s (es ++ [e]) := by
  intro pre e' post heq
  refine himp _ _ (h pre ?_)
  rcases List.prefix_concat_iff.mp (⟨e' :: post, heq.symm⟩ : pre <+: es ++ [e]) with rfl | hpre
  · simp at heq
  · exact hpre

/-- **The exact condition of a property of states**: if, in the states of an
invariant, a step keeps `K` exactly when it satisfies `P`, then `K` holds
throughout a run exactly when all its steps satisfy `P`. -/
theorem throughout_iff_always {K : σ → Prop} (hI : I s) (hK : K s)
    (hstep : ∀ t e, I t → I (step t e))
    (hiff : ∀ t e, I t → K t → (K (step t e) ↔ P t e)) :
    Throughout step K s es ↔ Always step P s es := by
  induction es using List.reverseRecOn with
  | nil => exact ⟨fun _ => Always.nil, fun _ => throughout_nil.mpr hK⟩
  | append_singleton es e ih =>
      have hinv : I (run step s es) := (Throughout.of_invariant hI hstep).last
      rw [throughout_concat, always_concat, ← ih]
      refine ⟨fun ⟨h, he⟩ => ⟨h, ?_⟩, fun ⟨h, he⟩ => ⟨h, ?_⟩⟩
      · exact (hiff _ e hinv h.last).mp he
      · exact (hiff _ e hinv h.last).mpr he

/-- Conditions that agree on the states of an invariant agree on its runs. -/
lemma always_congr {Q : σ → ε → Prop} (hI : Throughout step I s es)
    (h : ∀ t e, I t → (P t e ↔ Q t e)) : Always step P s es ↔ Always step Q s es := by
  have key : ∀ pre e post, es = pre ++ e :: post → I (run step s pre) := by
    rintro pre e post rfl
    exact hI pre (List.prefix_append _ _)
  exact forall_congr' fun pre => forall_congr' fun e => forall_congr' fun post =>
    forall_congr' fun heq => h _ _ (key pre e post heq)

/-! ### Termination -/

/-- **The termination rule**: if every step that satisfies `P` reaches a goal, or
is already there, or else decreases a measure, then after more steps than the
measure at the start the goal is reached. -/
theorem Always.reaches {G : σ → Prop} {μ : σ → ℕ} (h : Always step P s es) (hI : I s)
    (hstep : ∀ t e, I t → P t e → I (step t e)) (hG : ∀ t e, I t → P t e → G t → G (step t e))
    (hμ : ∀ t e, I t → P t e → ¬ G t → G (step t e) ∨ μ (step t e) < μ t)
    (hlength : μ s < es.length) : G (run step s es) := by
  have hrun : I (run step s es) ∧ (G (run step s es) ∨ es.length + μ (run step s es) ≤ μ s) := by
    refine h.induction (J := fun es =>
      I (run step s es) ∧ (G (run step s es) ∨ es.length + μ (run step s es) ≤ μ s)) ?_ ?_
    · exact ⟨hI, Or.inr (by simp)⟩
    · rintro es e ⟨hinv, hes⟩ he
      rw [run_concat, List.length_append, List.length_singleton]
      refine ⟨hstep _ e hinv he, ?_⟩
      by_cases hgoal : G (run step s es)
      · exact Or.inl (hG _ e hinv he hgoal)
      · have hle := hes.resolve_left hgoal
        refine (hμ _ e hinv he hgoal).imp_right fun hlt => ?_
        omega
  exact hrun.2.resolve_right (by omega)

/-! ### Outputs -/

section Outputs

variable {ω : Type*}

/-- What the steps of a run put out, `out` giving the output of one step from
the state before it and its event. -/
def outputs (step : σ → ε → σ) (out : σ → ε → List ω) : σ → List ε → List ω
  | _, [] => []
  | s, e :: es => out s e ++ outputs step out (step s e) es

variable {out : σ → ε → List ω}

@[simp] lemma outputs_nil : outputs step out s [] = [] := rfl

lemma outputs_append (es es' : List ε) : ∀ s : σ,
    outputs step out s (es ++ es') =
      outputs step out s es ++ outputs step out (run step s es) es' := by
  induction es with
  | nil => simp
  | cons e es ih =>
      intro s
      rw [List.cons_append, outputs, outputs, ih, run_cons, List.append_assoc]

lemma outputs_concat (s : σ) (es : List ε) (e : ε) :
    outputs step out s (es ++ [e]) = outputs step out s es ++ out (run step s es) e := by
  rw [outputs_append, outputs, outputs_nil, List.append_nil]

/-- Nothing is put out exactly if no step puts anything out. -/
lemma outputs_eq_nil_iff :
    outputs step out s es = [] ↔ Always step (fun t e => out t e = []) s es := by
  induction es using List.reverseRecOn with
  | nil => exact iff_of_true rfl Always.nil
  | append_singleton es e ih => rw [outputs_concat, List.append_eq_nil_iff, ih, always_concat]

/-- **The balance of a quantity**: what the steps of a run add to it makes up what it
has become. -/
theorem Always.balance {μ : σ → ℤ} {gain : σ → ε → ℤ} (h : Always step P s es) (hI : I s)
    (hstep : ∀ t e, I t → P t e → I (step t e) ∧ μ (step t e) = μ t + gain t e) :
    I (run step s es) ∧
      μ (run step s es) = μ s + (outputs step (fun t e => [gain t e]) s es).sum := by
  refine h.induction (J := fun es => I (run step s es) ∧
    μ (run step s es) = μ s + (outputs step (fun t e => [gain t e]) s es).sum) ?_ ?_
  · exact ⟨hI, by simp⟩
  · rintro es e ⟨hinv, hes⟩ he
    obtain ⟨hinv', hgain⟩ := hstep _ e hinv he
    rw [run_concat, outputs_concat, List.sum_append, List.sum_singleton, hgain, hes, add_assoc]
    exact ⟨hinv', rfl⟩

end Outputs

/-! ### The last write -/

/-- **A part of the state** holds what the last step that writes it has written,
`w` giving what a step writes from the state before it and its event. -/
theorem get_run {β : Type*} {get : σ → β} {w : σ → ε → Option β}
    (h : ∀ s e, get (step s e) = (w s e).getD (get s)) (s : σ) (es : List ε) :
    get (run step s es) =
      (outputs step (fun t e => (w t e).toList) s es).getLast?.getD (get s) := by
  induction es using List.reverseRecOn with
  | nil => rfl
  | append_singleton es e ih =>
      rw [run_concat, h, ih, outputs_concat]
      cases hw : w (run step s es) e with
      | none => simp
      | some b => simp

/-! ### Simulation -/

section Simulation

variable {τ δ : Type*} {step' : τ → δ → τ} {Q : τ → δ → Prop} {out : σ → ε → List δ} {t : τ}

end Simulation

end Transition
