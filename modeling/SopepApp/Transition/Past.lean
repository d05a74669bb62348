import SopepApp.Transition.Run

/-!
Runs seen from their last state.

* `Since P Q`: at some step of the run `P` held, and `Q` at no later one;
* `since_concat`: its recursion along the run;
* `iff_since`: a property of states that is set by the steps in `P` and cleared
  by the steps in `Q` holds after a run exactly when `Since P Q` does;
* `iff_always`: a property of states that is lost at the steps outside `P`, for
  good, holds after a run exactly when all its steps are in `P`;
* `EachEvent R`: every event of a run with the events before it.
-/

namespace Transition

variable {σ ε : Type*}

/-- `P` held at a step of the run, and `Q` has held at none since. -/
def Since (step : σ → ε → σ) (P Q : σ → ε → Prop) (s : σ) (es : List ε) : Prop :=
  ∃ pre e post, es = pre ++ e :: post ∧ P (run step s pre) e ∧
    Always step (fun t e' => ¬ Q t e') (run step s (pre ++ [e])) post

variable {step : σ → ε → σ} {P Q : σ → ε → Prop} {I K : σ → Prop} {s : σ} {es : List ε} {e : ε}

lemma not_since_nil : ¬ Since step P Q s [] := by
  rintro ⟨pre, e, post, h, -⟩
  simp at h

/-- One step more. -/
theorem since_concat :
    Since step P Q s (es ++ [e]) ↔
      P (run step s es) e ∨ Since step P Q s es ∧ ¬ Q (run step s es) e := by
  constructor
  · rintro ⟨pre, x, post, heq, hP, hQ⟩
    rcases List.eq_nil_or_concat post with rfl | ⟨post, y, rfl⟩
    · obtain ⟨rfl, hx⟩ := List.append_inj' heq rfl
      obtain rfl := List.singleton_inj.mp hx
      exact Or.inl hP
    · rw [List.concat_eq_append, ← List.cons_append, ← List.append_assoc] at heq
      obtain ⟨rfl, hy⟩ := List.append_inj' heq rfl
      obtain rfl := List.singleton_inj.mp hy
      rw [List.concat_eq_append, always_concat, ← run_append, List.append_assoc,
        List.singleton_append] at hQ
      exact Or.inr ⟨⟨pre, x, post, rfl, hP, hQ.1⟩, hQ.2⟩
  · rintro (hP | ⟨⟨pre, x, post, rfl, hP, hQ⟩, hnot⟩)
    · exact ⟨es, e, [], rfl, hP, Always.nil⟩
    · refine ⟨pre, x, post ++ [e], by simp, hP, always_concat.mpr ⟨hQ, ?_⟩⟩
      rwa [← run_append, List.append_assoc, List.singleton_append]

/-- **A property that steps set and clear**: if, in the states of an invariant, a
step leads to `K` exactly when it satisfies `P`, or `K` held and it does not
satisfy `Q`, then after a run `K` says that `P` held since the last `Q`. -/
theorem iff_since (hI : I s) (hK : ¬ K s) (hstep : ∀ t e, I t → I (step t e))
    (hiff : ∀ t e, I t → (K (step t e) ↔ P t e ∨ K t ∧ ¬ Q t e)) :
    K (run step s es) ↔ Since step P Q s es := by
  induction es using List.reverseRecOn with
  | nil => exact iff_of_false hK not_since_nil
  | append_singleton es e ih =>
      have hinv : I (run step s es) := (Throughout.of_invariant hI hstep).last
      rw [run_concat, hiff _ e hinv, ih, since_concat]

/-- **A property that steps lose for good**: if, in the states of an invariant, a
step leads to `K` exactly when `K` held and it satisfies `P`, then `K` holds after
a run exactly when all its steps satisfy `P`. -/
theorem iff_always (hI : I s) (hK : K s) (hstep : ∀ t e, I t → I (step t e))
    (hiff : ∀ t e, I t → (K (step t e) ↔ K t ∧ P t e)) :
    K (run step s es) ↔ Always step P s es := by
  induction es using List.reverseRecOn with
  | nil => exact iff_of_true hK Always.nil
  | append_singleton es e ih =>
      have hinv : I (run step s es) := (Throughout.of_invariant hI hstep).last
      rw [run_concat, hiff _ e hinv, ih, always_concat]

/-! ### Events with their past -/

/-- `R` holds of every event and the events before it. -/
def EachEvent (R : List ε → ε → Prop) (es : List ε) : Prop :=
  ∀ pre e post, es = pre ++ e :: post → R pre e

variable {R : List ε → ε → Prop}

/-- The events so far, as the state of a machine. -/
lemma run_history (pre es : List ε) : run (fun h e => h ++ [e]) pre es = pre ++ es := by
  induction es using List.reverseRecOn with
  | nil => exact (List.append_nil pre).symm
  | append_singleton es e ih => rw [run_concat, ih, List.append_assoc]

lemma eachEvent_nil : EachEvent R [] := by
  intro pre e post h
  simp at h

/-- One event more. -/
theorem eachEvent_concat : EachEvent R (es ++ [e]) ↔ EachEvent R es ∧ R es e := by
  have hhist : ∀ es, EachEvent R es ↔ Always (fun h e => h ++ [e]) R [] es := fun es => by
    simp only [EachEvent, Always, run_history, List.nil_append]
  rw [hhist, hhist, always_concat, run_history, List.nil_append]

end Transition
