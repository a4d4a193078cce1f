import ChipEight.CommandLine.Command
import ChipEight.Proofs.Json.RoundTrip
import ChipEight.Proofs.Settings.Fields

/-!
# Saved settings

Settings that pass their check are saved as a document and load back as they were.  The document
holds printable ASCII and new lines only, so that nothing happens to it on its way through a file.
-/

namespace ChipEight

namespace Utf8

/-! ## Files of ASCII characters -/

theorem encodeChar_of_lt {c : Char} (ascii : c.toNat < 128) :
    encodeChar c = [UInt8.ofNat c.toNat] := by
  have each : ∀ n : Fin 128, encodeChar (Char.ofNat n.val) = [UInt8.ofNat n.val] := by
    decide +kernel
  have own := each ⟨c.toNat, ascii⟩
  rwa [Char.ofNat_toNat] at own

theorem encodeFrom_of_lt (single? : CodePoint → Option UInt8) (position : Nat) {chars : List Char}
    (ascii : ∀ c ∈ chars, c.toNat < 128) :
    encodeFrom single? position (chars.map .char) =
      .ok (chars.map fun c => UInt8.ofNat c.toNat) := by
  induction chars generalizing position with
  | nil => rfl
  | cons c rest ih =>
      rw [List.forall_mem_cons] at ascii
      rw [List.map_cons, encodeFrom, ih (position + 1) ascii.2, encodeChar_of_lt ascii.1]
      rfl

theorem decodeFrom_of_lt (position : Nat) {chars : List Char}
    (ascii : ∀ c ∈ chars, c.toNat < 128) :
    decodeFrom position (chars.map fun c => UInt8.ofNat c.toNat) = .ok chars := by
  induction chars generalizing position with
  | nil => rfl
  | cons c rest ih =>
      rw [List.forall_mem_cons] at ascii
      have number : (UInt8.ofNat c.toNat).toNat = c.toNat :=
        UInt8.toNat_ofNat_of_lt (Nat.lt_trans ascii.1 (by decide))
      have low : UInt8.ofNat c.toNat < 0x80 := by
        rw [UInt8.lt_iff_toNat_lt, number]
        exact ascii.1
      rw [List.map_cons, decodeFrom.eq_def]
      simp only [low, if_true, ih (position + 1) ascii.2, number, Char.ofNat_toNat, cons]

theorem plainLines_of_notMem {chars : List Char} (plain : '\r' ∉ chars) :
    plainLines chars = chars := by
  induction chars with
  | nil => rfl
  | cons c rest ih =>
      rw [List.mem_cons, not_or] at plain
      rw [plainLines, ih plain.2]
      · exact fun _ same => absurd same.symm plain.1
      · exact fun same => absurd same.symm plain.1

/-- A file of printable ASCII characters and new lines is read as it was written. -/
theorem exists_encode_of_plain {chars : List Char} (plain : Json.Plain chars) :
    ∃ bytes, encode (Text.ofChars chars) = .ok bytes ∧ decode bytes = .ok chars ∧
      plainLines chars = chars := by
  have ascii : ∀ c ∈ chars, c.toNat < 128 := by
    intro c member
    rcases plain c member with rfl | printable
    · decide
    · exact Nat.lt_succ_of_le (Nat.le_succ_of_le printable.2)
  refine ⟨_, encodeFrom_of_lt _ 0 ascii, decodeFrom_of_lt 0 ascii, plainLines_of_notMem ?_⟩
  intro member
  exact absurd (plain '\r' member) (by decide)

end Utf8

namespace Settings

open Json

variable {settings : Settings} {policy : FaultPolicy} {limit : Option Nat}

/-- The integers among the entries. -/
def integers (settings : Settings) : List Int :=
  [settings.cyclesPerSecond, settings.timerHz, settings.zoom]

theorem toDocument_eq (known : settings.policy = .known policy) :
    settings.toDocument = .ok (document (.obj (settings.fields policy))) := by
  rw [toDocument, Draft.toDocument, Draft.toJson, toFields_eq known]

theorem joined_keys (settings : Settings) (policy : FaultPolicy) :
    ∀ field ∈ settings.fields policy, field.1.Joined := by
  have each : ∀ key ∈ Entry.all.map Entry.key, key.Joined := by decide
  exact fun field member => each field.1 (List.mem_map_of_mem member)

theorem distinct_keys (settings : Settings) (policy : FaultPolicy) :
    ((settings.fields policy).map Prod.fst).Nodup := by
  have each : (Entry.all.map Entry.key).Nodup := by decide
  exact each

theorem restorable_fields {name : String} (named : settings.name = .str name)
    (fits : ∀ n ∈ settings.integers, Fits limit n) (depth : Nat) :
    Restorable limit (depth + 1) (.obj (settings.fields policy)) := by
  have text : ∀ string : String, Restorable limit depth (.str string) := fun string =>
    .str depth (Text.joined_ofChars string.toList)
  refine .obj (settings.distinct_keys policy) (settings.joined_keys policy) ?_
  simp only [integers, List.forall_mem_cons] at fits
  simp only [fields, List.forall_mem_cons, named]
  exact ⟨text name, .int depth fits.1, .int depth fits.2.1, text policy.name, .bool depth _,
    .int depth fits.2.2.1, text _, text _, fun _ member => by cases member⟩

/-- The document of checked settings gives them back. -/
theorem ofDocumentWithin_document {name : String} (named : settings.name = .str name)
    (known : settings.policy = .known policy) (valid : settings.validate = .ok ())
    (fits : ∀ n ∈ settings.integers, Fits limit n) (depth : Nat) :
    ofDocumentWithin limit (depth + 1) (document (.obj (settings.fields policy))) =
      .ok settings := by
  rw [ofDocumentWithin, document, String.toList_ofList,
    readText_write (restorable_fields named fits depth)]
  simp only [ofJson, ofFields_fields known valid]

/-- Checked settings load back as they were saved, whatever characters are in their name and however
large their integers are, and also through a file.  A reader may limit how deep values lie to any
number of levels but none; one that limits the digits of integers has to allow for those of the
settings. -/
theorem saved_settings_load_back (settings : Settings) (policy : FaultPolicy) (name : String)
    (depth : Nat) (named : settings.name = .str name) (known : settings.policy = .known policy)
    (valid : settings.validate = .ok ()) :
    ∃ document bytes,
      settings.toDocument = .ok document ∧ Utf8.encode document = .ok bytes ∧
      (∀ c ∈ document.toList, c = '\n' ∨ 0x20 ≤ c.toNat ∧ c.toNat ≤ 0x7e) ∧
      ofDocumentWithin none (depth + 1) document = .ok settings ∧
      (∃ chars, Utf8.decode bytes = .ok chars ∧ String.ofList (Utf8.plainLines chars) = document) ∧
      ((∀ n ∈ settings.integers, Fits (some Literal.maxDigits) n) →
        ofDocument (depth + 1) document = .ok settings ∧
        Options.settingsOfFile (depth + 1) (.ok bytes) = .ok settings) := by
  have free : ∀ n ∈ settings.integers, Fits none n := by
    intro n _ most given
    cases given
  have plain : Plain (write 0 (.obj (settings.fields policy))) :=
    (restorable_fields named free depth).plain 0
  obtain ⟨bytes, encoded, decoded, lines⟩ := Utf8.exists_encode_of_plain plain
  refine ⟨document (.obj (settings.fields policy)), bytes, toDocument_eq known, ?_, ?_,
    ofDocumentWithin_document named known valid free depth, ⟨_, decoded, ?_⟩, ?_⟩
  · rw [Text.ofString, document, String.toList_ofList]
    exact encoded
  · rw [document, String.toList_ofList]
    exact plain
  · rw [lines, document]
  · intro fits
    have loaded :
        ofDocument (depth + 1) (document (.obj (settings.fields policy))) = .ok settings :=
      ofDocumentWithin_document named known valid fits depth
    refine ⟨loaded, ?_⟩
    simp only [Options.settingsOfFile, decoded, lines]
    rw [document] at loaded
    rw [loaded]

/-- The name has a quote, a backslash, control characters, an accent and a character beyond U+FFFF;
one of the integers has thirty digits. -/
theorem saved_settings_load_back_escapes :
    let settings : Settings :=
      { name := .str ("\"\\\n\x07é😀" : String)
        cyclesPerSecond := 123456789012345678901234567890
        policy := .known .halt
        shiftUsesVy := true
        zoom := 1
        onColor := ⟨255, 0, 10⟩ }
    settings.validate = .ok () ∧
      ∃ document bytes, settings.toDocument = .ok document ∧ Utf8.encode document = .ok bytes ∧
        ofDocumentWithin none 1 document = .ok settings ∧
        Options.settingsOfFile 1 (.ok bytes) = .ok settings := by
  intro settings
  have valid : settings.validate = .ok () := rfl
  have fits : ∀ n ∈ settings.integers, Fits (some Literal.maxDigits) n := by decide +kernel
  obtain ⟨document, bytes, saved, encoded, -, loaded, -, fromFile⟩ :=
    saved_settings_load_back settings .halt _ 0 rfl rfl valid
  exact ⟨valid, document, bytes, saved, encoded, loaded, (fromFile fits).2⟩

end Settings

end ChipEight
