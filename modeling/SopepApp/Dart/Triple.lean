import SopepApp.Dart.Effect

/-!
Rules of pre- and postconditions for Dart function bodies.

* `Triple P x Q E`: from fields with `P` the body `x` returns with `Q` or throws
  with `E`;
* `Keeps R x`: the body keeps `R` either way;
* one rule for each statement, and `Triple.bind` for two in sequence;
* `Triple.finalState`: a property of the fields that holds either way.
-/

namespace Dart.Effect

variable {σ α β : Type} {P P' R : σ → Prop} {Q Q' : α → σ → Prop} {E E' : σ → Prop}

/-- From fields with `P` the body returns with `Q` or throws with `E`. -/
def Triple (P : σ → Prop) (x : Effect σ α) (Q : α → σ → Prop) (E : σ → Prop) : Prop :=
  ∀ s, P s → (∀ a s', x.run s = .ok a s' → Q a s') ∧ (∀ e s', x.run s = .error e s' → E s')

/-- The body keeps `R`, whether it returns or throws. -/
abbrev Keeps (R : σ → Prop) (x : Effect σ α) : Prop := Triple R x (fun _ => R) R

namespace Triple

/-- The rule of consequence. -/
lemma weaken {x : Effect σ α} (h : Triple P x Q E) (hpre : ∀ s, P' s → P s)
    (hpost : ∀ a s, Q a s → Q' a s) (hthrow : ∀ s, E s → E' s) : Triple P' x Q' E' := by
  intro s hs
  obtain ⟨hok, herror⟩ := h s (hpre s hs)
  exact ⟨fun a s' hrun => hpost a s' (hok a s' hrun), fun e s' hrun => hthrow s' (herror e s' hrun)⟩

lemma pure {a : α} (h : ∀ s, P s → Q a s) : Triple P (pure a) Q E := by
  intro s hs
  refine ⟨fun a' s' hrun => ?_, fun e s' hrun => ?_⟩
  · obtain ⟨rfl, rfl⟩ := EStateM.Result.ok.inj hrun
    exact h s hs
  · exact absurd hrun (by simp)

lemma modify {f : σ → σ} {Q : PUnit → σ → Prop} (h : ∀ s, P s → Q ⟨⟩ (f s)) :
    Triple P (modify f) Q E := by
  intro s hs
  refine ⟨fun a s' hrun => ?_, fun e s' hrun => ?_⟩
  · obtain ⟨rfl, rfl⟩ := EStateM.Result.ok.inj hrun
    exact h s hs
  · exact absurd hrun (by simp)

lemma get {Q : σ → σ → Prop} (h : ∀ s, P s → Q s s) : Triple P get Q E := by
  intro s hs
  refine ⟨fun a s' hrun => ?_, fun e s' hrun => ?_⟩
  · obtain ⟨rfl, rfl⟩ := EStateM.Result.ok.inj hrun
    exact h s hs
  · exact absurd hrun (by simp)

lemma lift {x : Except Error α} (hok : ∀ a s, x = .ok a → P s → Q a s)
    (hthrow : ∀ s, P s → E s) : Triple P (lift x) Q E := by
  intro s hs
  refine ⟨fun a s' hrun => ?_, fun e s' hrun => ?_⟩
  · obtain ⟨ha, rfl⟩ := run_lift_eq_ok.mp hrun
    exact hok a s ha hs
  · cases x with
    | ok a => exact absurd hrun (by simp)
    | error e' =>
        obtain ⟨-, rfl⟩ := EStateM.Result.error.inj hrun
        exact hthrow s hs

/-- **Two bodies in sequence.** -/
lemma bind {x : Effect σ α} {f : α → Effect σ β} {S : α → σ → Prop} {Q : β → σ → Prop}
    (hx : Triple P x S E) (hf : ∀ a, Triple (S a) (f a) Q E) : Triple P (x >>= f) Q E := by
  intro s hs
  obtain ⟨hok, herror⟩ := hx s hs
  refine ⟨fun b s' hrun => ?_, fun e s' hrun => ?_⟩
  · obtain ⟨a, t, ha, hb⟩ := run_bind_eq_ok.mp hrun
    exact (hf a t (hok a t ha)).1 b s' hb
  · rw [EStateM.run_bind] at hrun
    cases hcase : x.run s with
    | ok a t =>
        rw [hcase] at hrun
        exact (hf a t (hok a t hcase)).2 e s' hrun
    | error e' t =>
        rw [hcase] at hrun
        obtain ⟨-, rfl⟩ := EStateM.Result.error.inj hrun
        exact herror e' t hcase

/-- A computation that may throw, and the rest with its value known. -/
lemma lift_bind {x : Except Error α} {f : α → Effect σ β} {Q : β → σ → Prop}
    (hthrow : ∀ s, P s → E s) (hf : ∀ a, x = .ok a → Triple P (f a) Q E) :
    Triple P (Effect.lift x >>= f) Q E := by
  refine .bind (S := fun a s => x = .ok a ∧ P s) (lift (fun a s ha hs => ⟨ha, hs⟩) hthrow) ?_
  rintro a s ⟨ha, hs⟩
  exact hf a ha s hs

/-- The fields read, and the rest with them known. -/
lemma get_bind {f : σ → Effect σ β} {Q : β → σ → Prop}
    (hf : ∀ s, Triple (fun s' => s' = s ∧ P s') (f s) Q E) : Triple P (MonadState.get >>= f) Q E :=
  .bind (S := fun s s' => s' = s ∧ P s') (get fun _ hs => ⟨rfl, hs⟩) hf

lemma ite {c : Prop} [Decidable c] {x y : Effect σ α} (hx : c → Triple P x Q E)
    (hy : ¬ c → Triple P y Q E) : Triple P (if c then x else y) Q E := by
  split_ifs with h
  · exact hx h
  · exact hy h

/-- What holds whether the body returns or throws. -/
lemma finalState {x : Effect σ α} (h : Triple P x (fun _ => R) R) {s : σ} (hs : P s) :
    R (x.finalState s) := by
  obtain ⟨hok, herror⟩ := h s hs
  rw [Effect.finalState]
  split
  · next a s' hrun => exact hok a s' hrun
  · next e s' hrun => exact herror e s' hrun

end Triple

end Dart.Effect
