import SopepApp.Codec.Message

/-!
The configure dialog, `_SopepConfigureInteractionDialogState` of
`sopep_configure_dialog.dart`.

* `Form`: the eight settings of the form, and `listener`, which assigns them one
  after the other from a response, with a cast at the first and at the last;
* `Shows`: the form shows the settings of a message;
* `configure_all_or_nothing_iff`: whatever the form showed before, a response
  `configure` replaces all eight settings or none exactly if the first cast
  fails, or all the settings are there and no cast fails.
-/

namespace SopepApp.ConfigureDialog

open Dart

/-- The settings of the form; a text field by the text of its controller. -/
@[ext] structure Form where
  ledToggle : Bool := true
  ledIntensity : String := "50"
  thresholdGood : String := "8.5"
  thresholdHigh : String := "15.2"
  targetTreatmentTime : String := "200.0"
  targetExhalationCount : String := "5"
  minBreathLength : String := "1.2"
  useExhaleCountToggle : Bool := false
  deriving DecidableEq

variable (p : Platform)

/-- The listener of `subscribeCharacteristic`: the body of its `setState`. -/
def listener (dataMap : Option DataMap) : Effect Form Unit := do
  let m ← Effect.lift (nonNull dataMap)
  if m.get "rsp" = .string "configure" then
    let ledToggle ← Effect.lift (m.get "led-toggle").asBool
    modify fun form => { form with ledToggle := ledToggle }
    modify fun form => { form with ledIntensity := (m.get "led-intensity").toText p }
    modify fun form => { form with thresholdGood := (m.get "good-zone-threshold").toText p }
    modify fun form => { form with thresholdHigh := (m.get "high-zone-threshold").toText p }
    modify fun form => { form with
      targetTreatmentTime := (m.get "target-treatment-time").toText p }
    modify fun form => { form with
      targetExhalationCount := (m.get "target-exhalation-count").toText p }
    modify fun form => { form with minBreathLength := (m.get "minimum-breath-length").toText p }
    let useExhaleCountToggle ← Effect.lift (m.get "use-exhalation-count").asBool
    modify fun form => { form with useExhaleCountToggle := useExhaleCountToggle }

/-- The keys of the settings shown as text. -/
def textKeys : List String :=
  ["led-intensity", "good-zone-threshold", "high-zone-threshold", "target-treatment-time",
    "target-exhalation-count", "minimum-breath-length"]

/-- The texts of the form, in the order of their keys. -/
def Form.texts (form : Form) : List String :=
  [form.ledIntensity, form.thresholdGood, form.thresholdHigh, form.targetTreatmentTime,
    form.targetExhalationCount, form.minBreathLength]

/-- The message has the eight settings, and the form shows them. -/
structure Shows (m : DataMap) (form : Form) : Prop where
  ledToggle : m.get "led-toggle" = .bool form.ledToggle
  containsKey : ∀ key ∈ textKeys, m.containsKey key
  texts : form.texts = textKeys.map fun key => (m.get key).toText p
  useExhaleCountToggle : m.get "use-exhalation-count" = .bool form.useExhaleCountToggle

/-- The form shows already what a message assigns to it. -/
structure ShowsAlready (m : DataMap) (form : Form) : Prop where
  ledToggle : m.get "led-toggle" = .bool form.ledToggle
  texts : form.texts = textKeys.map fun key => (m.get key).toText p
  useExhaleCountToggle : ∀ b, m.get "use-exhalation-count" = .bool b →
    b = form.useExhaleCountToggle

variable {p} {m : DataMap}

/-- The form after the assignments between the two casts. -/
def middle (p : Platform) (m : DataMap) (ledToggle : Bool) (form : Form) : Form where
  ledToggle := ledToggle
  ledIntensity := (m.get "led-intensity").toText p
  thresholdGood := (m.get "good-zone-threshold").toText p
  thresholdHigh := (m.get "high-zone-threshold").toText p
  targetTreatmentTime := (m.get "target-treatment-time").toText p
  targetExhalationCount := (m.get "target-exhalation-count").toText p
  minBreathLength := (m.get "minimum-breath-length").toText p
  useExhaleCountToggle := form.useExhaleCountToggle

lemma ext_texts {form form' : Form} (hled : form.ledToggle = form'.ledToggle)
    (htexts : form.texts = form'.texts)
    (huse : form.useExhaleCountToggle = form'.useExhaleCountToggle) : form = form' := by
  simp only [Form.texts, List.cons.injEq, and_true] at htexts
  obtain ⟨h1, h2, h3, h4, h5, h6⟩ := htexts
  exact Form.ext hled h1 h2 h3 h4 h5 h6 huse

/-- **What the listener assigns**: nothing if the first cast fails, all but the
last setting if the second one does. -/
lemma finalState_listener (h : m.get "rsp" = .string "configure") (form : Form) :
    (listener p (some m)).finalState form =
      match (m.get "led-toggle").asBool with
      | .error _ => form
      | .ok ledToggle =>
        match (m.get "use-exhalation-count").asBool with
        | .error _ => middle p m ledToggle form
        | .ok useExhaleCountToggle =>
          { middle p m ledToggle form with useExhaleCountToggle := useExhaleCountToggle } := by
  rw [listener, nonNull_some, Effect.finalState_lift_ok_bind, if_pos h]
  cases (m.get "led-toggle").asBool with
  | error err => rfl
  | ok ledToggle => cases (m.get "use-exhalation-count").asBool <;> rfl

/-- A cast that fails. -/
lemma not_bool_of_asBool {v : Value} {err : Error} (h : v.asBool = .error err) (b : Bool) :
    v ≠ .bool b := by
  intro hv
  rw [Value.asBool_eq_ok.mpr hv] at h
  exact absurd h (by simp)

/-- **A response `configure` replaces all the settings or none** exactly if
`led-toggle` is no bool, or the text settings are all there and
`use-exhalation-count` is a bool, or the form shows already what is assigned. -/
theorem configure_all_or_nothing_iff (hrsp : m.get "rsp" = .string "configure") (form : Form) :
    ((listener p (some m)).finalState form = form ∨
        Shows p m ((listener p (some m)).finalState form)) ↔
      (∀ b, m.get "led-toggle" ≠ .bool b) ∨
      ((∀ key ∈ textKeys, m.containsKey key) ∧ ∃ b, m.get "use-exhalation-count" = .bool b) ∨
      ShowsAlready p m form := by
  rw [finalState_listener hrsp]
  cases hled : (m.get "led-toggle").asBool with
  | error err => exact iff_of_true (Or.inl rfl) (Or.inl (not_bool_of_asBool hled))
  | ok ledToggle =>
      have hled := Value.asBool_eq_ok.mp hled
      rw [or_iff_right (fun h => h ledToggle hled : ¬ ∀ b, m.get "led-toggle" ≠ .bool b)]
      cases huse : (m.get "use-exhalation-count").asBool with
      | error err =>
          have huse := not_bool_of_asBool huse
          constructor
          · rintro (heq | hshows)
            · refine Or.inr ⟨?_, (congrArg Form.texts heq).symm, fun b hb => absurd hb (huse b)⟩
              exact hled.trans (congrArg (fun f => Value.bool f.ledToggle) heq)
            · exact absurd hshows.useExhaleCountToggle (huse _)
          · rintro (⟨-, b, hb⟩ | halready)
            · exact absurd hb (huse b)
            · have htoggle := Value.bool.inj (hled.symm.trans halready.ledToggle)
              exact Or.inl (ext_texts htoggle halready.texts.symm rfl)
      | ok useExhaleCountToggle =>
          have huse := Value.asBool_eq_ok.mp huse
          constructor
          · rintro (heq | hshows)
            · refine Or.inr ⟨?_, (congrArg Form.texts heq).symm, fun b hb => ?_⟩
              · exact hled.trans (congrArg (fun f => Value.bool f.ledToggle) heq)
              · rw [← Value.bool.inj (huse.symm.trans hb)]
                exact congrArg Form.useExhaleCountToggle heq
            · exact Or.inl ⟨hshows.containsKey, _, huse⟩
          · rintro (⟨hkeys, -⟩ | halready)
            · exact Or.inr ⟨hled, hkeys, rfl, huse⟩
            · have htoggle := Value.bool.inj (hled.symm.trans halready.ledToggle)
              exact Or.inl (ext_texts htoggle halready.texts.symm
                (halready.useExhaleCountToggle _ huse))

/-- A text platform for runs on fixed maps. -/
def plainText : Platform where
  doubleText _ := "0.5"
  formatDate _ _ := ""

/-- A response with all the settings but the last. -/
def shortResponse : DataMap :=
  ⟨[(.string "rsp", .string "configure"), (.string "led-toggle", .bool false),
    (.string "led-intensity", .int 80), (.string "good-zone-threshold", .int 9),
    (.string "high-zone-threshold", .int 16), (.string "target-treatment-time", .int 300),
    (.string "target-exhalation-count", .int 7), (.string "minimum-breath-length", .int 2)],
    by decide⟩

theorem configure_all_or_nothing_sample :
    ((listener plainText (some shortResponse)).finalState {} = {} ∨
        Shows plainText shortResponse ((listener plainText (some shortResponse)).finalState {})) ↔
      (∀ b, shortResponse.get "led-toggle" ≠ .bool b) ∨
      ((∀ key ∈ textKeys, shortResponse.containsKey key) ∧
        ∃ b, shortResponse.get "use-exhalation-count" = .bool b) ∨
      ShowsAlready plainText shortResponse {} :=
  configure_all_or_nothing_iff (by decide) {}

/-- The response replaces seven settings. -/
theorem configure_half_applied :
    ¬ ∀ (p : Platform) (m : DataMap) (form : Form), m.get "rsp" = .string "configure" →
      (listener p (some m)).finalState form = form ∨
        Shows p m ((listener p (some m)).finalState form) := by
  intro h
  rcases h plainText shortResponse {} (by decide) with heq | hshows
  · have hled := congrArg Form.ledToggle heq
    rw [finalState_listener (by decide)] at hled
    exact absurd hled (by decide)
  · exact absurd hshows.useExhaleCountToggle (by decide)

end SopepApp.ConfigureDialog
