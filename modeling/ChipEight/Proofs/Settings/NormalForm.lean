import ChipEight.Proofs.Settings.Usable

/-!
# The written form of settings

An object may spell the entries of settings in many ways: numbers as texts, truth values or binary64
numbers, colours as texts of either case, as lists or as the keys of an object.  However they were
spelled, the settings are written in one form, and reading that form gives them back.
-/

namespace ChipEight

namespace Color

/-- The upper-case hexadecimal digits in order. -/
def upperDigits : List Char :=
  ['0', '1', '2', '3', '4', '5', '6', '7', '8', '9', 'A', 'B', 'C', 'D', 'E', 'F']

/-- Two upper-case digits spell a byte, the high one first. -/
def SpellsByte (first second : Char) (byte : Int) : Prop :=
  ∃ high low : Nat, upperDigits[high]? = some first ∧ upperDigits[low]? = some second ∧
    byte = 16 * high + low

/-- A text is a hash mark and six upper-case digits, two for each component of a colour. -/
def Spells (text : Text) (color : Color) : Prop :=
  ∃ r r' g g' b b' : Char, text = Text.ofChars ['#', r, r', g, g', b, b'] ∧
    SpellsByte r r' color.red ∧ SpellsByte g g' color.green ∧ SpellsByte b b' color.blue

theorem upperDigits_getElem? (n : Fin 16) : upperDigits[n.val]? = some (digit n.val) := by
  revert n
  decide

theorem exists_spellsByte {n : Int} (byte : 0 ≤ n ∧ n ≤ 255) :
    ∃ first second, (Hexadecimal.padded 2 n).toList = [first, second] ∧
      SpellsByte first second n := by
  obtain ⟨m, rfl⟩ := Int.eq_ofNat_of_zero_le byte.1
  obtain ⟨digits, -, -⟩ := padded_byte ⟨m, by omega⟩
  have high := upperDigits_getElem? ⟨m / 16, by omega⟩
  have low := upperDigits_getElem? ⟨m % 16, by omega⟩
  exact ⟨_, _, digits, m / 16, m % 16, high, low, by omega⟩

theorem spells_text {color : Color} (valid : color.Valid) :
    Spells (Text.ofString color.text) color := by
  obtain ⟨r, r', red, spellsRed⟩ := exists_spellsByte (valid color.red (by simp [components]))
  obtain ⟨g, g', green, spellsGreen⟩ := exists_spellsByte (valid color.green (by simp [components]))
  obtain ⟨b, b', blue, spellsBlue⟩ := exists_spellsByte (valid color.blue (by simp [components]))
  refine ⟨r, r', g, g', b, b', ?_, spellsRed, spellsGreen, spellsBlue⟩
  simp [Text.ofString, text, red, green, blue]

end Color

namespace Settings

/-- Settings that have been read from an object which names its policy, or leaves it out, can be
written.  What is written is read as the same settings again, which are written in the same way, and
it spells the colours with six upper-case digits. -/
theorem read_settings_normal_form {fields : List (Text × Json)} {settings : Settings}
    (named : NamesPolicy (.obj fields)) (read : ofJson (.obj fields) = .ok settings) :
    ∃ written : List (Text × Json), settings.toJson = .ok (.obj written) ∧
      ofJson (.obj written) = .ok settings ∧
      (∃ again, ofJson (.obj written) = .ok again ∧ again.toJson = .ok (.obj written)) ∧
      ∃ on off : Text, Json.field? written Entry.onColor.key = some (.str on) ∧
        Json.field? written Entry.offColor.key = some (.str off) ∧
        Color.Spells on settings.onColor ∧ Color.Spells off settings.offColor := by
  have valid := validate_of_ofJson read
  have usable := usable_of_validate valid
  obtain ⟨policy, known⟩ := (hasPolicy_iff_namesPolicy read).mpr named
  have written := toJson_of_known known
  have readAgain : ofJson (.obj (settings.fields policy)) = .ok settings :=
    ofFields_fields known valid
  exact ⟨settings.fields policy, written, readAgain, ⟨settings, readAgain, written⟩, _, _, rfl, rfl,
    Color.spells_text usable.onColor, Color.spells_text usable.offColor⟩

/-- Numbers as a text, as the binary64 number 60.5 and as a truth value, the policy in capitals, and
colours as a text of both cases with more than one hash mark and as the keys of an object. -/
theorem read_settings_normal_form_spellings :
    ∃ settings, ofJson (.obj [("cycles_per_second", .str " +1_000 "),
        ("timer_hz", .float (.finite false 8514618045497344 (-47))), ("zoom", .bool true),
        ("fault_policy", .str "HALT"), ("on_color", .str "##fFa0B1"),
        ("off_color", .obj [("1", .null), ("2_0", .null), ("+3", .null)])]) = .ok settings ∧
      ∃ written, settings.toJson = .ok (.obj written) ∧ ofJson (.obj written) = .ok settings ∧
        ∃ on, Json.field? written Entry.onColor.key = some (.str on) ∧
          Color.Spells on ⟨255, 160, 177⟩ := by
  have named : NamesPolicy (.obj [("cycles_per_second", .str " +1_000 "),
      ("timer_hz", .float (.finite false 8514618045497344 (-47))), ("zoom", .bool true),
      ("fault_policy", .str "HALT"), ("on_color", .str "##fFa0B1"),
      ("off_color", .obj [("1", .null), ("2_0", .null), ("+3", .null)])]) := by
    intro value found
    cases found
    exact ⟨_, rfl⟩
  obtain ⟨written, encoded, decoded, -, on, -, spelled, -, spells, -⟩ :=
    read_settings_normal_form named (show _ = Except.ok
      { cyclesPerSecond := 1000, timerHz := 60, zoom := 1, policy := .known .halt,
        onColor := ⟨255, 160, 177⟩, offColor := ⟨1, 20, 3⟩ } from rfl)
  exact ⟨_, rfl, written, encoded, decoded, on, spelled, spells⟩

end Settings

end ChipEight
