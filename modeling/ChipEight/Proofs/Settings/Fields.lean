import ChipEight.Settings.Document

/-!
# Settings as fields and back

Checked settings can be written as the fields of an object, and the object gives the same settings
again.  A colour is written with two digits for each component; that is enough because the
components of checked settings are bytes.
-/

namespace ChipEight

namespace Color

/-- Every component is a byte. -/
def Valid (color : Color) : Prop :=
  ∀ component ∈ color.components, 0 ≤ component ∧ component ≤ 255

instance (color : Color) : Decidable color.Valid :=
  inferInstanceAs (Decidable (∀ component ∈ color.components, 0 ≤ component ∧ component ≤ 255))

/-- A colour in hexadecimal, after a hash mark. -/
def text (color : Color) : String :=
  "#" ++ (Hexadecimal.padded 2 color.red ++
    (Hexadecimal.padded 2 color.green ++ (Hexadecimal.padded 2 color.blue ++ "")))

theorem colorText_eq (color : Color) : Draft.colorText color.toEntryValue = .ok (.str color.text) :=
  rfl

/-- An upper-case hexadecimal digit. -/
def digit (n : Nat) : Char :=
  (Nat.digitChar n).toUpper

theorem padded_byte (n : Fin 256) :
    (Hexadecimal.padded 2 (n.val : Int)).toList = [digit (n.val / 16), digit (n.val % 16)] ∧
      digit (n.val / 16) ≠ '#' ∧
      (ofDigits [.char (digit (n.val / 16)), .char (digit (n.val % 16))]).toOption =
        some (n.val : Int) := by
  revert n
  decide +kernel

/-- A byte has two digits, and they are read back. -/
theorem exists_digits {n : Int} (byte : 0 ≤ n ∧ n ≤ 255) :
    ∃ first second, (Hexadecimal.padded 2 n).toList = [first, second] ∧ first ≠ '#' ∧
      ofDigits [.char first, .char second] = .ok n := by
  obtain ⟨m, rfl⟩ := Int.eq_ofNat_of_zero_le byte.1
  obtain ⟨digits, unmarked, read⟩ := padded_byte ⟨m, by omega⟩
  refine ⟨_, _, digits, unmarked, ?_⟩
  cases result : ofDigits [.char (digit (m / 16)), .char (digit (m % 16))] with
  | ok value =>
      rw [result] at read
      exact congrArg Except.ok (Option.some.inj read)
  | error failure =>
      rw [result] at read
      cases read

/-- A colour of bytes is read back from its text. -/
theorem ofText_text {color : Color} (valid : color.Valid) :
    ofText (Text.ofString color.text) = .ok color := by
  obtain ⟨r, r', red, unmarked, readRed⟩ := exists_digits (valid color.red (by simp [components]))
  obtain ⟨g, g', green, -, readGreen⟩ := exists_digits (valid color.green (by simp [components]))
  obtain ⟨b, b', blue, -, readBlue⟩ := exists_digits (valid color.blue (by simp [components]))
  have points : (Text.ofString color.text).points =
      [.char '#', .char r, .char r', .char g, .char g', .char b, .char b'] := by
    simp [Text.ofString, Text.ofChars, text, red, green, blue]
  have digits : (Text.ofString color.text).points.dropWhile (· == .char '#') =
      [.char r, .char r', .char g, .char g', .char b, .char b'] := by
    rw [points]
    simp [unmarked]
  rw [ofText, digits]
  simp only [List.take, List.drop, readRed, readGreen, readBlue]

end Color

namespace Draft

theorem checkPositive_int (n : Int) (failure : SettingsError) :
    checkPositive (.json (.int n)) failure = .ok () ↔ 0 < n := by
  simp only [checkPositive, EntryValue.numeric?, Json.numeric?, Json.Numeric.atMost,
    decide_eq_true_eq]
  by_cases least : n ≤ 0
  · simp [least]
  · simp [least, Int.not_le.mp least]

theorem checkZoom_int (n : Int) : checkZoom (.json (.int n)) = .ok () ↔ 1 ≤ n := by
  simp only [checkZoom, EntryValue.numeric?, Json.numeric?, Json.Numeric.below,
    decide_eq_true_eq]
  by_cases least : n < 1
  · simp [least]
  · simp [least, Int.not_lt.mp least]

theorem checkComponents_int (color : List Json) (components : List Int) :
    checkComponents color (components.map Json.int) = .ok () ↔
      ∀ component ∈ components, 0 ≤ component ∧ component ≤ 255 := by
  induction components with
  | nil => simp [checkComponents]
  | cons component rest ih =>
      simp only [List.map_cons, checkComponents, Json.numeric?, Json.Numeric.atLeast,
        Json.Numeric.atMost, List.forall_mem_cons, Bool.and_eq_true, decide_eq_true_eq]
      by_cases byte : 0 ≤ component ∧ component ≤ 255
      · simp only [byte, and_self, if_true, true_and, ih]
      · simp only [byte, if_false, false_and, reduceCtorEq]

theorem checkColor_toEntryValue (color : Color) :
    checkColor color.toEntryValue = .ok () ↔ color.Valid :=
  checkComponents_int _ color.components

/-- A draft passes if all its entries do. -/
theorem validate_eq_ok_iff (draft : Draft) :
    draft.validate = .ok () ↔
      checkPositive draft.cyclesPerSecond .cyclesNotPositive = .ok () ∧
        checkPositive draft.timerHz .timerNotPositive = .ok () ∧ checkZoom draft.zoom = .ok () ∧
        checkColor draft.onColor = .ok () ∧ checkColor draft.offColor = .ok () := by
  unfold validate
  cases checkPositive draft.cyclesPerSecond .cyclesNotPositive with
  | error failure => simp
  | ok _ =>
      cases checkPositive draft.timerHz .timerNotPositive with
      | error failure => simp
      | ok _ =>
          cases checkZoom draft.zoom with
          | error failure => simp
          | ok _ => cases checkColor draft.onColor <;> simp

end Draft

namespace Settings

/-- What settings are checked for. -/
theorem validate_eq_ok_iff (settings : Settings) :
    settings.validate = .ok () ↔
      0 < settings.cyclesPerSecond ∧ 0 < settings.timerHz ∧ 1 ≤ settings.zoom ∧
        settings.onColor.Valid ∧ settings.offColor.Valid := by
  rw [← Draft.checkPositive_int settings.cyclesPerSecond .cyclesNotPositive,
    ← Draft.checkPositive_int settings.timerHz .timerNotPositive, ← Draft.checkZoom_int,
    ← Draft.checkColor_toEntryValue, ← Draft.checkColor_toEntryValue]
  exact settings.toDraft.validate_eq_ok_iff

/-- The fields of settings with a known policy. -/
def fields (settings : Settings) (policy : FaultPolicy) : List (Text × Json) :=
  [(Entry.name.key, settings.name),
    (Entry.cyclesPerSecond.key, .int settings.cyclesPerSecond),
    (Entry.timerHz.key, .int settings.timerHz),
    (Entry.faultPolicy.key, .str policy.name),
    (Entry.shiftUsesVy.key, .bool settings.shiftUsesVy),
    (Entry.zoom.key, .int settings.zoom),
    (Entry.onColor.key, .str settings.onColor.text),
    (Entry.offColor.key, .str settings.offColor.text)]

theorem toFields_eq {settings : Settings} {policy : FaultPolicy}
    (known : settings.policy = .known policy) :
    settings.toDraft.toFields = .ok (settings.fields policy) := by
  simp only [Draft.toFields, toDraft, known, Draft.policyName, Color.colorText_eq]
  rfl

theorem ofJson_name (policy : FaultPolicy) :
    PolicyEntry.ofJson (.str policy.name) = .ok (.known policy) := by
  cases policy <;> rfl

/-- Checked settings come back from their fields. -/
theorem ofFields_fields {settings : Settings} {policy : FaultPolicy}
    (known : settings.policy = .known policy) (valid : settings.validate = .ok ()) :
    ofFields (settings.fields policy) = .ok settings := by
  obtain ⟨-, -, -, onValid, offValid⟩ := (validate_eq_ok_iff settings).mp valid
  have cycles : intEntry (settings.fields policy) .cyclesPerSecond 700 =
      .ok settings.cyclesPerSecond := rfl
  have timer : intEntry (settings.fields policy) .timerHz 60 = .ok settings.timerHz := rfl
  have zoom : intEntry (settings.fields policy) .zoom 15 = .ok settings.zoom := rfl
  have policyGiven : Draft.givenPolicy (settings.fields policy) (.known .freeze) =
      .ok settings.policy := (ofJson_name policy).trans (congrArg Except.ok known.symm)
  have onColor : Draft.givenColor (settings.fields policy) .onColor ⟨0, 0x64, 0⟩ =
      .ok settings.onColor := Color.ofText_text onValid
  have offColor : Draft.givenColor (settings.fields policy) .offColor ⟨0, 0, 0⟩ =
      .ok settings.offColor := Color.ofText_text offValid
  have name : Draft.given? (settings.fields policy) .name = some settings.name := rfl
  have shift : Draft.given? (settings.fields policy) .shiftUsesVy =
      some (.bool settings.shiftUsesVy) := rfl
  simp only [ofFields, cycles, timer, zoom, policyGiven, onColor, offColor, name, shift,
    Option.getD_some, Option.map_some, Json.truthy, valid]

end Settings

end ChipEight
