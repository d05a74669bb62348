import Mathlib.Tactic

/-!
Dart function bodies over mutable fields.

A Dart function reads and assigns fields and may throw; the assignments made
before a throw stay. `Effect σ α` is such a body over the fields `σ`, and the
core-library operations that can throw are given here with their errors.

* `Effect.finalState`, `Effect.outcome`: the fields after the body, and the
  value or error it ends with;
* `Effect.lift`: a pure computation that may throw, inside a body;
* `getRange`: `List.getRange`, `List.sublist` and `Uint8List.sublist`, with
  `getRange_ok` for the ranges that do not throw;
* `ceilDiv`: `(a / b).ceil()` on two ints, with `ceilDiv_pos` for a positive
  divisor;
* `doubleToInt?`: the int a double is equal to under Dart's `==`.
-/

namespace Dart

/-- The errors and exceptions thrown by the modelled code. -/
inductive Error where
  /-- an index or a range out of bounds -/
  | rangeError
  /-- the operator `!` applied to `null` -/
  | nullCheck
  /-- a failed cast -/
  | typeError
  /-- malformed input of a parser -/
  | formatException
  /-- `ceil` of an infinity or a NaN -/
  | unsupportedError
  /-- a `late` field read before its first assignment -/
  | lateInitialization
  /-- `setState` on a widget that is no longer mounted -/
  | unmounted
  /-- `first` of an empty collection -/
  | stateError
  deriving DecidableEq, Repr

/-- The errors that `on Exception` catches; the others are `Error`s. -/
def Error.isException : Error → Bool
  | .formatException => true
  | _ => false

/-- A function body over the mutable fields `σ`; a throw keeps the
assignments made so far. -/
abbrev Effect (σ α : Type) := EStateM Error σ α

namespace Effect

variable {σ α β : Type}

/-- The fields after the body, whether it returned or threw. -/
def finalState (x : Effect σ α) (s : σ) : σ :=
  match x.run s with
  | .ok _ s' => s'
  | .error _ s' => s'

/-- The value returned or the error thrown. -/
def outcome (x : Effect σ α) (s : σ) : Except Error α :=
  match x.run s with
  | .ok a _ => .ok a
  | .error e _ => .error e

lemma finalState_of_ok {x : Effect σ α} {s s' : σ} {a : α} (h : x.run s = .ok a s') :
    x.finalState s = s' := by
  rw [finalState, h]

lemma finalState_of_error {x : Effect σ α} {s s' : σ} {e : Error} (h : x.run s = .error e s') :
    x.finalState s = s' := by
  rw [finalState, h]

lemma outcome_of_ok {x : Effect σ α} {s s' : σ} {a : α} (h : x.run s = .ok a s') :
    x.outcome s = .ok a := by
  rw [outcome, h]

lemma outcome_of_error {x : Effect σ α} {s s' : σ} {e : Error} (h : x.run s = .error e s') :
    x.outcome s = .error e := by
  rw [outcome, h]

/-- A pure computation that may throw, as a body that touches no field. -/
def lift (x : Except Error α) : Effect σ α :=
  match x with
  | .ok a => pure a
  | .error e => throw e

@[simp] lemma run_lift_ok (a : α) (s : σ) : (lift (.ok a) : Effect σ α).run s = .ok a s := rfl

@[simp] lemma run_lift_error (e : Error) (s : σ) :
    (lift (.error e) : Effect σ α).run s = .error e s := rfl

/-- A body over one field, in a body over all of them. -/
def onField {τ : Type} (field : σ → τ) (put : τ → σ → σ) (x : Effect τ α) : Effect σ α := fun s =>
  match x.run (field s) with
  | .ok a t => .ok a (put t s)
  | .error e t => .error e (put t s)

lemma run_onField_of_ok {τ : Type} {field : σ → τ} {put : τ → σ → σ} {x : Effect τ α} {s : σ}
    {t : τ} {a : α} (h : x.run (field s) = .ok a t) :
    (onField field put x).run s = .ok a (put t s) := by
  rw [EStateM.run, onField, h]

lemma run_onField_of_error {τ : Type} {field : σ → τ} {put : τ → σ → σ} {x : Effect τ α} {s : σ}
    {t : τ} {e : Error} (h : x.run (field s) = .error e t) :
    (onField field put x).run s = .error e (put t s) := by
  rw [EStateM.run, onField, h]

/-- Sequencing after a body that returns. -/
lemma run_bind_of_ok {x : Effect σ α} {f : α → Effect σ β} {s s' : σ} {a : α}
    (h : x.run s = .ok a s') : (x >>= f).run s = (f a).run s' := by
  rw [EStateM.run_bind, h]

/-- Sequencing after a body that throws. -/
lemma run_bind_of_error {x : Effect σ α} {f : α → Effect σ β} {s s' : σ} {e : Error}
    (h : x.run s = .error e s') : (x >>= f).run s = .error e s' := by
  rw [EStateM.run_bind, h]

/-- What a sequence that returns went through. -/
lemma run_bind_eq_ok {x : Effect σ α} {f : α → Effect σ β} {s s' : σ} {b : β} :
    (x >>= f).run s = .ok b s' ↔ ∃ a t, x.run s = .ok a t ∧ (f a).run t = .ok b s' := by
  rw [EStateM.run_bind]
  cases x.run s with
  | ok a t => simp
  | error e t => simp

lemma run_lift_eq_ok {x : Except Error α} {s s' : σ} {a : α} :
    (lift x : Effect σ α).run s = .ok a s' ↔ x = .ok a ∧ s = s' := by
  cases x with
  | ok b => simp
  | error e => simp

/-! The fields after a body, statement by statement. -/

lemma finalState_bind_of_ok {x : Effect σ α} {f : α → Effect σ β} {s s' : σ} {a : α}
    (h : x.run s = .ok a s') : (x >>= f).finalState s = (f a).finalState s' := by
  rw [finalState, finalState, run_bind_of_ok h]

lemma finalState_bind_of_error {x : Effect σ α} {f : α → Effect σ β} {s s' : σ} {e : Error}
    (h : x.run s = .error e s') : (x >>= f).finalState s = s' := by
  rw [finalState, run_bind_of_error h]

@[simp] lemma finalState_pure (a : α) (s : σ) : (pure a : Effect σ α).finalState s = s := rfl

@[simp] lemma finalState_throw (e : Error) (s : σ) :
    (throw e : Effect σ α).finalState s = s := rfl

@[simp] lemma finalState_modify (f : σ → σ) (s : σ) :
    (modify f : Effect σ PUnit).finalState s = f s := rfl

@[simp] lemma finalState_modify_bind (f : σ → σ) (g : PUnit → Effect σ β) (s : σ) :
    (modify f >>= g).finalState s = (g ⟨⟩).finalState (f s) := rfl

@[simp] lemma finalState_get_bind (g : σ → Effect σ β) (s : σ) :
    (get >>= g).finalState s = (g s).finalState s := rfl

@[simp] lemma finalState_lift_ok_bind (a : α) (g : α → Effect σ β) (s : σ) :
    (lift (.ok a) >>= g).finalState s = (g a).finalState s := rfl

@[simp] lemma finalState_lift_error_bind (e : Error) (g : α → Effect σ β) (s : σ) :
    (lift (.error e) >>= g).finalState s = s := rfl

/-! The value or the error of a body, statement by statement. -/

@[simp] lemma outcome_pure (a : α) (s : σ) : (pure a : Effect σ α).outcome s = .ok a := rfl

@[simp] lemma outcome_modify (f : σ → σ) (s : σ) :
    (modify f : Effect σ PUnit).outcome s = .ok ⟨⟩ := rfl

@[simp] lemma outcome_modify_bind (f : σ → σ) (g : PUnit → Effect σ β) (s : σ) :
    (modify f >>= g).outcome s = (g ⟨⟩).outcome (f s) := rfl

@[simp] lemma outcome_get_bind (g : σ → Effect σ β) (s : σ) :
    (get >>= g).outcome s = (g s).outcome s := rfl

@[simp] lemma outcome_lift_ok_bind (a : α) (g : α → Effect σ β) (s : σ) :
    (lift (.ok a) >>= g).outcome s = (g a).outcome s := rfl

@[simp] lemma outcome_lift_error_bind (e : Error) (g : α → Effect σ β) (s : σ) :
    (lift (.error e) >>= g).outcome s = .error e := rfl

/-- A call of an `async` function that is not awaited, up to its first `await`:
an error ends in its future and does not reach the caller. -/
def unawaited (body : Effect σ Unit) : Effect σ Unit := fun s => .ok () (body.finalState s)

@[simp] lemma finalState_unawaited (body : Effect σ Unit) (s : σ) :
    (unawaited body).finalState s = body.finalState s := rfl

@[simp] lemma finalState_unawaited_bind (body : Effect σ Unit) (g : Unit → Effect σ β) (s : σ) :
    (unawaited body >>= g).finalState s = (g ()).finalState (body.finalState s) := rfl

/-- `try body on Exception catch (e) { … }` with a handler that only logs. -/
def catchException (body : Effect σ Unit) : Effect σ Unit :=
  tryCatch body fun e => if e.isException then pure () else throw e

/-- A body that returns is not affected by its `catch`. -/
lemma run_catchException_of_ok {body : Effect σ Unit} {s s' : σ} (h : body.run s = .ok () s') :
    (catchException body).run s = .ok () s' := by
  have hb : body s = .ok () s' := h
  simp [catchException, tryCatch, tryCatchThe, MonadExceptOf.tryCatch, EStateM.tryCatch,
    EStateM.run, hb]

end Effect

/-- What a computation that returns went through. -/
lemma bind_eq_ok {α β : Type} {x : Except Error α} {f : α → Except Error β} {b : β} :
    (x >>= f) = .ok b ↔ ∃ a, x = .ok a ∧ f a = .ok b := by
  cases x with
  | error e => simp [bind, Except.bind]
  | ok a => simp [bind, Except.bind]

/-- The operator `!` on a nullable field. -/
def nonNull {α : Type} : Option α → Except Error α
  | some a => .ok a
  | none => .error .nullCheck

@[simp] lemma nonNull_some {α : Type} (a : α) : nonNull (some a) = .ok a := rfl

@[simp] lemma nonNull_none {α : Type} : nonNull (none : Option α) = .error .nullCheck := rfl

/-! ### Ranges of lists -/

section Range

variable {α : Type}

/-- `xs[i]` for an index that may be negative. -/
def elementAt (xs : List α) (i : ℤ) : Except Error α :=
  if i < 0 then .error .rangeError
  else match xs[i.toNat]? with
    | some a => .ok a
    | none => .error .rangeError

/-- An index inside the list. -/
lemma elementAt_natCast (xs : List α) {i : ℕ} {a : α} (h : xs[i]? = some a) :
    elementAt xs (i : ℤ) = .ok a := by
  rw [elementAt, if_neg (by omega), Int.toNat_natCast, h]

/-- An element that is read is one of the list. -/
lemma mem_of_elementAt {xs : List α} {i : ℤ} {a : α} (h : elementAt xs i = .ok a) : a ∈ xs := by
  rw [elementAt] at h
  split_ifs at h
  cases hget : xs[i.toNat]? with
  | none =>
      rw [hget] at h
      exact absurd h (by simp)
  | some b =>
      rw [hget] at h
      obtain rfl : b = a := by injection h
      exact List.mem_of_getElem? hget

/-- `xs.getRange(start, end)` and `xs.sublist(start, end)`: the elements from
`start` up to `end`, a `RangeError` unless `0 ≤ start ≤ end ≤ xs.length`. -/
def getRange (xs : List α) (start stop : ℤ) : Except Error (List α) :=
  if 0 ≤ start ∧ start ≤ stop ∧ stop ≤ xs.length then
    .ok ((xs.drop start.toNat).take (stop - start).toNat)
  else .error .rangeError

/-- A range inside the list does not throw. -/
lemma getRange_ok {xs : List α} {i j : ℕ} (hij : i ≤ j) (hj : j ≤ xs.length) :
    getRange xs i j = .ok ((xs.drop i).take (j - i)) := by
  rw [getRange, if_pos ⟨by omega, by omega, by omega⟩]
  congr 2
  omega

/-- A range that does not throw lies inside the list. -/
lemma getRange_eq_ok_iff {xs ys : List α} {start stop : ℤ} :
    getRange xs start stop = .ok ys ↔
      (0 ≤ start ∧ start ≤ stop ∧ stop ≤ xs.length) ∧
        (xs.drop start.toNat).take (stop - start).toNat = ys := by
  rw [getRange]
  split_ifs with h
  · simp [h]
  · simp [h]

end Range

/-! ### Numbers -/

/-- The value of an int expression: ints have 64 bits and wrap around. -/
def int64 (n : ℤ) : ℤ := n.bmod (2 ^ 64)

lemma int64_int64_add (n m : ℤ) : int64 (int64 n + m) = int64 (n + m) := Int.bmod_add_bmod

/-- `(a / b).ceil()` for two ints. The quotient is a double: for `b = 0` it is
an infinity or a NaN and `ceil` throws an `UnsupportedError`. The quotient is
taken exactly; below `2^53` its rounding does not change the ceiling. -/
def ceilDiv (a b : ℤ) : Except Error ℤ :=
  if b = 0 then .error .unsupportedError else .ok ⌈(a : ℚ) / (b : ℚ)⌉

/-- The ceiling of a quotient by a positive divisor, from its two bounds. -/
lemma ceilDiv_pos {a b q : ℤ} (hb : 0 < b) (hlt : b * (q - 1) < a) (hle : a ≤ b * q) :
    ceilDiv a b = .ok q := by
  have hbq : (0 : ℚ) < (b : ℚ) := by exact_mod_cast hb
  rw [ceilDiv, if_neg (by omega)]
  congr 1
  rw [Int.ceil_eq_iff, lt_div_iff₀ hbq, div_le_iff₀ hbq]
  constructor
  · have h : (b : ℚ) * ((q : ℚ) - 1) < a := by exact_mod_cast hlt
    linarith
  · have h : (a : ℚ) ≤ (b : ℚ) * q := by exact_mod_cast hle
    linarith

/-- The two bounds of a ceiling by a positive divisor. -/
lemma bounds_of_ceilDiv {a b q : ℤ} (hb : 0 < b) (h : ceilDiv a b = .ok q) :
    b * (q - 1) < a ∧ a ≤ b * q := by
  have hbq : (0 : ℚ) < (b : ℚ) := by exact_mod_cast hb
  rw [ceilDiv, if_neg (by omega)] at h
  have hq : ⌈(a : ℚ) / (b : ℚ)⌉ = q := by injection h
  rw [Int.ceil_eq_iff, lt_div_iff₀ hbq, div_le_iff₀ hbq] at hq
  constructor
  · have h1 : (b : ℚ) * ((q : ℚ) - 1) < a := by linarith [hq.1]
    exact_mod_cast h1
  · have h2 : (a : ℚ) ≤ (b : ℚ) * q := by linarith [hq.2]
    exact_mod_cast h2

/-- A quotient of a natural number by a negative divisor has no positive
ceiling. -/
lemma ceilDiv_neg {a b q : ℤ} (ha : 0 ≤ a) (hb : b < 0) (h : ceilDiv a b = .ok q) : q ≤ 0 := by
  rw [ceilDiv, if_neg (by omega)] at h
  have hq : ⌈(a : ℚ) / (b : ℚ)⌉ = q := by injection h
  rw [← hq, Int.ceil_le, Int.cast_zero]
  have haq : (0 : ℚ) ≤ a := by exact_mod_cast ha
  have hbq : (b : ℚ) ≤ 0 := by exact_mod_cast hb.le
  exact div_nonpos_of_nonneg_of_nonpos haq hbq

/-- The int equal to the double with the IEEE 754 bits `bits`, if there is
one: Dart's `==` compares an int and a double by their values. -/
def doubleToInt? (bits : UInt64) : Option ℤ :=
  let n := bits.toNat
  let sign : ℤ := if n / 2 ^ 63 = 1 then -1 else 1
  let expo := n / 2 ^ 52 % 2 ^ 11
  let frac := n % 2 ^ 52
  let mant := if expo = 0 then frac else 2 ^ 52 + frac
  let scale := if expo = 0 then 1 else expo
  if expo = 2047 then none
  else if 1075 ≤ scale then some (sign * (mant * 2 ^ (scale - 1075) : ℕ))
  else if mant % 2 ^ (1075 - scale) = 0 then some (sign * (mant / 2 ^ (1075 - scale) : ℕ))
  else none

example : doubleToInt? 0x4014000000000000 = some 5 ∧ doubleToInt? 0x4014000000000001 = none := by
  decide +kernel

end Dart
