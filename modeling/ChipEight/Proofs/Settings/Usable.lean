import ChipEight.Proofs.Image
import ChipEight.Proofs.Settings.Mistyped

/-!
# What can be done with settings that have been read

Settings that have been read from a document pass their own check, and with their zoom and colours
every image can be rendered that the imaging library makes.  The policy is the one entry that is not
looked at unless it is a text: a value of another kind is taken over, and the settings then cannot
be written.
-/

namespace ChipEight

open Settings (andThen_eq_ok_iff orUsual)

namespace PolicyEntry

/-- A text is read as one of the three policies, and of any other value the kind is kept. -/
theorem ofJson_cases {value : Json} {entry : PolicyEntry} (read : ofJson value = .ok entry) :
    (∃ name policy, value = .str name ∧ entry = .known policy) ∨
      (∀ name, value ≠ .str name) ∧ entry = .other value.kindName := by
  cases value with
  | str name =>
      simp only [ofJson] at read
      cases found : FaultPolicy.ofName? (Lowercase.ofText name) with
      | none => simp [found] at read
      | some policy =>
          simp only [found, Except.ok.injEq] at read
          exact .inl ⟨name, policy, rfl, read.symm⟩
  | _ =>
      cases read
      exact .inr ⟨fun name same => Json.noConfusion same, rfl⟩

end PolicyEntry

namespace Settings

variable {data : Json} {fields : List (Text × Json)} {settings : Settings}

/-! ## The policy -/

/-- A document that leaves the policy out or names it by a text. -/
def NamesPolicy : Json → Prop
  | .obj fields =>
      ∀ value, Draft.given? fields .faultPolicy = some value → ∃ name, value = .str name
  | _ => True

/-- The policy of settings is one of the three. -/
def HasPolicy (settings : Settings) : Prop :=
  ∃ policy, settings.policy = .known policy

theorem policy_of_ofFields (read : ofFields fields = .ok settings) :
    orUsual PolicyEntry.ofJson (.known .freeze) (Draft.given? fields .faultPolicy) =
      .ok settings.policy := by
  rw [ofFields_eq] at read
  simp only [andThen_eq_ok_iff, Except.ok.injEq] at read
  obtain ⟨cycles, -, timer, -, zoom, -, policy, given, onColor, -, offColor, -, _, -, rfl⟩ := read
  exact given

/-- Settings that have been read have a policy exactly if the document does not give them something
else for it. -/
theorem hasPolicy_iff_namesPolicy (read : ofJson data = .ok settings) :
    settings.HasPolicy ↔ NamesPolicy data := by
  cases data with
  | obj fields =>
      have policy := policy_of_ofFields read
      simp only [HasPolicy, NamesPolicy]
      cases given : Draft.given? fields .faultPolicy with
      | none =>
          rw [given] at policy
          have usual : settings.policy = .known .freeze := (Except.ok.inj policy).symm
          exact iff_of_true ⟨_, usual⟩ fun value missing => by cases missing
      | some value =>
          rw [given] at policy
          rcases PolicyEntry.ofJson_cases policy with ⟨name, known, rfl, same⟩ | ⟨unnamed, other⟩
          · refine iff_of_true ⟨known, same⟩ fun value found => ?_
            cases found
            exact ⟨name, rfl⟩
          · apply iff_of_false
            · rintro ⟨known, same⟩
              rw [other] at same
              cases same
            · intro names
              obtain ⟨name, same⟩ := names value rfl
              exact unnamed name same
  | _ => cases read

theorem toJson_of_known {policy : FaultPolicy} (known : settings.policy = .known policy) :
    settings.toJson = .ok (.obj (settings.fields policy)) := by
  rw [toJson, Draft.toJson, toFields_eq known]

/-- Settings can be written exactly if they have a policy. -/
theorem exists_toJson_eq_ok_iff (settings : Settings) :
    (∃ value, settings.toJson = .ok value) ↔ settings.HasPolicy := by
  cases entry : settings.policy with
  | known policy => exact iff_of_true ⟨_, toJson_of_known entry⟩ ⟨policy, entry⟩
  | other kind =>
      apply iff_of_false
      · rintro ⟨value, written⟩
        simp only [toJson, Draft.toJson, Draft.toFields, toDraft, entry, Draft.policyName,
          reduceCtorEq] at written
      · rintro ⟨policy, known⟩
        rw [entry] at known
        cases known

/-! ## The other entries -/

/-- The entries of settings, the policy apart, are what they should be. -/
structure Usable (settings : Settings) : Prop where
  cyclesPerSecond : 1 ≤ settings.cyclesPerSecond
  timerHz : 1 ≤ settings.timerHz
  zoom : 1 ≤ settings.zoom
  onColor : settings.onColor.Valid
  offColor : settings.offColor.Valid

theorem usable_of_validate (valid : settings.validate = .ok ()) : settings.Usable := by
  obtain ⟨cycles, timer, zoom, onColor, offColor⟩ := (validate_eq_ok_iff settings).mp valid
  exact ⟨cycles, timer, zoom, onColor, offColor⟩

/-- A grid in the colours of settings, magnified by their zoom. -/
def pictured (settings : Settings) (imaging : Imaging) {width height : Nat}
    (grid : Grid width height) : Except RenderError Image.Sized :=
  Image.render imaging grid settings.zoom settings.onColor.components settings.offColor.components

theorem Usable.pictured_eq_error (usable : settings.Usable) {imaging : Imaging}
    {width height : Nat} {grid : Grid width height} {failure : RenderError}
    (failed : settings.pictured imaging grid = .error failure) :
    ∃ refusal, failure = .imaging refusal := by
  rw [pictured, Image.render_of_valid imaging grid usable.zoom usable.onColor usable.offColor]
    at failed
  cases made : imaging.magnified _ settings.zoom.toNat with
  | error refusal =>
      rw [made] at failed
      exact ⟨refusal, (Except.error.inj failed).symm⟩
  | ok sized =>
      rw [made] at failed
      cases failed

/-- Settings that have been read from any value pass their check, and every entry but the policy is
in order.  The policy is one of the three, and the settings can be written, exactly if the document
leaves it out or gives a text for it.  With every imaging library, a grid is rendered with the zoom
and the colours exactly if the library makes the image, and otherwise the failure is one of the
library. -/
theorem read_settings_usable (read : ofJson data = .ok settings) :
    settings.Usable ∧ settings.validate = .ok () ∧
    (settings.HasPolicy ↔ NamesPolicy data) ∧
    ((∃ value, settings.toJson = .ok value) ↔ NamesPolicy data) ∧
    ∀ (imaging : Imaging) {width height : Nat} (grid : Grid width height),
      ((settings.pictured imaging grid).isOk ↔
        imaging.Makes (Image.ofGrid grid settings.onColor.rgb settings.offColor.rgb)
          settings.zoom.toNat) ∧
      ∀ failure, settings.pictured imaging grid = .error failure →
        ∃ refusal, failure = .imaging refusal := by
  have valid := validate_of_ofJson read
  have usable := usable_of_validate valid
  have named := hasPolicy_iff_namesPolicy read
  refine ⟨usable, valid, named, (exists_toJson_eq_ok_iff settings).trans named, ?_⟩
  intro imaging width height grid
  constructor
  · exact Image.isOk_render_iff imaging grid usable.zoom usable.onColor usable.offColor
  · intro failure failed
    exact usable.pictured_eq_error failed

/-- Null in place of a policy is read without complaint, and the settings cannot be written. -/
theorem read_settings_usable_null_policy :
    ∃ settings, ofJson (.obj [("fault_policy", .null)]) = .ok settings ∧
      settings.validate = .ok () ∧ ¬ settings.HasPolicy ∧
        ¬ ∃ value, settings.toJson = .ok value := by
  have unnamed : ¬ NamesPolicy (.obj [("fault_policy", .null)]) := by
    intro names
    obtain ⟨name, same⟩ := names .null rfl
    cases same
  obtain ⟨-, valid, policy, written, -⟩ :=
    read_settings_usable (show ofJson (.obj [("fault_policy", .null)]) =
      .ok { policy := .other "NoneType" } from rfl)
  exact ⟨_, rfl, valid, mt policy.mp unnamed, mt written.mp unnamed⟩

end Settings

end ChipEight
