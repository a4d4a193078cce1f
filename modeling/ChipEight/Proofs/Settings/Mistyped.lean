import ChipEight.Proofs.Settings.Fields

/-!
# Entries of the wrong type

Settings are not read from a document for one of two reasons: a value is wrong, or a value has a
type from which nothing can be read.  Entries are read in a fixed order and the first failure
counts.  This module tells the second reason from the document itself.
-/

namespace ChipEight

/-! ## Reading in steps -/

namespace Settings

variable {α β : Type}

/-- Two steps of reading, the second of which is taken if the first succeeds. -/
def andThen (result : Except SettingsError α) (next : α → Except SettingsError β) :
    Except SettingsError β :=
  match result with
  | .error failure => .error failure
  | .ok a => next a

@[simp]
theorem andThen_ok (a : α) (next : α → Except SettingsError β) : andThen (.ok a) next = next a :=
  rfl

theorem andThen_eq_ok_iff (result : Except SettingsError α) (next : α → Except SettingsError β)
    (b : β) : andThen result next = .ok b ↔ ∃ a, result = .ok a ∧ next a = .ok b := by
  cases result <;> simp [andThen]

/-- What is read from a value if there is one, or else the usual. -/
def orUsual (read : Json → Except SettingsError α) (usual : α) :
    Option Json → Except SettingsError α
  | some value => read value
  | none => .ok usual

theorem exists_orUsual_eq_ok_iff (read : Json → Except SettingsError α) (usual : α)
    (given : Option Json) :
    (∃ a, orUsual read usual given = .ok a) ↔
      ∀ value, given = some value → ∃ a, read value = .ok a := by
  cases given <;> simp [orUsual]

end Settings

open Settings (andThen orUsual)

/-- A result is a failure that does not blame a value. -/
def Miscast {α : Type} (result : Except SettingsError α) : Prop :=
  ∃ failure, result = .error failure ∧ failure.blamesValue = false

namespace Miscast

variable {α β : Type}

@[simp]
theorem ok_iff (a : α) : Miscast (.ok a) ↔ False := by
  simp [Miscast]

@[simp]
theorem error_iff (failure : SettingsError) :
    Miscast (.error failure : Except SettingsError α) ↔ failure.blamesValue = false := by
  simp [Miscast]

theorem andThen_iff (result : Except SettingsError α) (next : α → Except SettingsError β) :
    Miscast (andThen result next) ↔ Miscast result ∨ ∃ a, result = .ok a ∧ Miscast (next a) := by
  cases result <;> simp [andThen]

theorem orUsual_iff (read : Json → Except SettingsError α) (usual : α) (given : Option Json) :
    Miscast (orUsual read usual given) ↔ ∃ value, given = some value ∧ Miscast (read value) := by
  cases given <;> simp [orUsual]

end Miscast

/-- The first value that cannot be read is mistyped. -/
def FirstMistyped {α : Type} (readable mistyped : α → Prop) : List α → Prop
  | [] => False
  | value :: rest => mistyped value ∨ readable value ∧ FirstMistyped readable mistyped rest

theorem not_firstMistyped {α : Type} {readable mistyped : α → Prop} {list : List α}
    (none : ∀ value ∈ list, ¬ mistyped value) : ¬ FirstMistyped readable mistyped list := by
  induction list with
  | nil => exact id
  | cons value rest ih =>
      rintro (first | ⟨-, later⟩)
      · exact none value List.mem_cons_self first
      · exact ih (fun value member => none value (List.mem_cons_of_mem _ member)) later

/-! ## Numbers, policies and colours -/

/-- No integer can be read from values of this type; an infinite number counts as one of them. -/
def Json.Mistyped : Json → Prop
  | .null | .arr _ | .obj _ | .float (.infinite _) => True
  | _ => False

/-- A text that is no literal is a wrong value, whatever the base. -/
theorem Text.blamesValue_of_toInt {base : Nat} {text : Text} {failure : IntError}
    (failed : text.toInt base = .error failure) :
    (SettingsError.number failure).blamesValue = true := by
  unfold Text.toInt at failed
  split at failed
  · cases failed
  · cases failed
    rfl
  · cases failed
    rfl

namespace Json

theorem toSetting_eq_ok_iff (value : Json) (n : Int) :
    value.toSetting = .ok n ↔ value.toInt = .ok n := by
  simp only [toSetting, EntryValue.toSetting, EntryValue.toInt]
  cases value.toInt <;> simp

theorem miscast_toSetting (value : Json) : Miscast value.toSetting ↔ value.Mistyped := by
  simp only [toSetting, EntryValue.toSetting, EntryValue.toInt]
  cases value with
  | null | arr | obj | int => simp [toInt, Mistyped, SettingsError.blamesValue]
  | bool b => cases b <;> simp [toInt, Mistyped]
  | float x => cases x <;> simp [toInt, Binary64.toInt, Mistyped, SettingsError.blamesValue]
  | str text =>
      simp only [toInt, Mistyped, iff_false]
      cases read : text.toInt 10 with
      | ok n => simp
      | error failure => simp [Text.blamesValue_of_toInt read]

end Json

/-- Every value stands for a policy, or is a text that names none. -/
theorem PolicyEntry.not_miscast_ofJson (value : Json) : ¬ Miscast (ofJson value) := by
  cases value with
  | str text =>
      simp only [ofJson]
      cases FaultPolicy.ofName? (Lowercase.ofText text) <;> simp [SettingsError.blamesValue]
  | _ => simp [ofJson]

namespace Color

/-- No colour can be read from values of this type.  Of a list with three items, the first one that
cannot be read decides. -/
def Mistyped : Json → Prop
  | .str _ | .obj _ => False
  | .arr items =>
      items.length = 3 ∧ FirstMistyped (fun item => ∃ n, item.toInt = .ok n) Json.Mistyped items
  | _ => True

theorem not_miscast_ofDigits (digits : List CodePoint) : ¬ Miscast (ofDigits digits) := by
  unfold ofDigits
  cases read : Text.toInt 16 ⟨digits⟩ with
  | ok n => simp
  | error failure => simp [Text.blamesValue_of_toInt read]

theorem ofText_eq (text : Text) :
    ofText text =
      let digits := text.points.dropWhile (· == .char '#')
      andThen (ofDigits (digits.take 2)) fun red =>
        andThen (ofDigits ((digits.drop 2).take 2)) fun green =>
          andThen (ofDigits ((digits.drop 4).take 2)) fun blue => .ok ⟨red, green, blue⟩ := by
  simp only [ofText]
  generalize text.points.dropWhile (· == .char '#') = digits
  cases ofDigits (digits.take 2) with
  | error failure => rfl
  | ok red =>
  cases ofDigits ((digits.drop 2).take 2) with
  | error failure => rfl
  | ok green => cases ofDigits ((digits.drop 4).take 2) <;> rfl

theorem not_miscast_ofText (text : Text) : ¬ Miscast (ofText text) := by
  simp [ofText_eq, Miscast.andThen_iff, not_miscast_ofDigits]

theorem ofItems_three (first second third : Json) :
    ofItems [first, second, third] =
      andThen first.toSetting fun red => andThen second.toSetting fun green =>
        andThen third.toSetting fun blue => .ok ⟨red, green, blue⟩ := by
  simp only [ofItems]
  cases first.toSetting with
  | error failure => rfl
  | ok red =>
  cases second.toSetting with
  | error failure => rfl
  | ok green => cases third.toSetting <;> rfl

theorem miscast_ofItems (items : List Json) :
    Miscast (ofItems items) ↔
      items.length = 3 ∧
        FirstMistyped (fun item => ∃ n, item.toInt = .ok n) Json.Mistyped items := by
  rcases items with _ | ⟨first, _ | ⟨second, _ | ⟨third, _ | ⟨fourth, rest⟩⟩⟩⟩
  case cons.cons.cons.nil =>
    simp [ofItems_three, Miscast.andThen_iff, Json.miscast_toSetting, Json.toSetting_eq_ok_iff,
      FirstMistyped]
  case cons.cons.cons.cons =>
    have more : ¬ rest.length + 1 + 1 + 1 + 1 < 3 := by omega
    simp [ofItems, more, SettingsError.blamesValue]
  all_goals simp [ofItems, SettingsError.blamesValue]

theorem miscast_ofJson (value : Json) : Miscast (ofJson value) ↔ Mistyped value := by
  cases value with
  | str text => simpa [Mistyped, ofJson] using not_miscast_ofText text
  | arr items => exact miscast_ofItems items
  | obj fields =>
      simp only [ofJson, miscast_ofItems, Mistyped, iff_false]
      rintro ⟨-, first⟩
      apply not_firstMistyped _ first
      intro value member
      obtain ⟨field, -, rfl⟩ := List.mem_map.mp member
      exact id
  | _ => simp [ofJson, Mistyped, SettingsError.blamesValue]

end Color

/-! ## Checks -/

namespace Draft

theorem validate_eq (draft : Draft) :
    draft.validate =
      andThen (checkPositive draft.cyclesPerSecond .cyclesNotPositive) fun _ =>
        andThen (checkPositive draft.timerHz .timerNotPositive) fun _ =>
          andThen (checkZoom draft.zoom) fun _ =>
            andThen (checkColor draft.onColor) fun _ => checkColor draft.offColor := by
  unfold validate
  cases checkPositive draft.cyclesPerSecond .cyclesNotPositive with
  | error failure => rfl
  | ok _ =>
  cases checkPositive draft.timerHz .timerNotPositive with
  | error failure => rfl
  | ok _ =>
  cases checkZoom draft.zoom with
  | error failure => rfl
  | ok _ => cases checkColor draft.onColor <;> rfl

/-- A number that fails a check is a wrong value. -/
theorem not_miscast_checkPositive (n : Int) (failure : SettingsError)
    (blames : failure.blamesValue = true) : ¬ Miscast (checkPositive (.json (.int n)) failure) := by
  simp only [checkPositive, EntryValue.numeric?, Json.numeric?]
  split <;> simp [blames]

@[inherit_doc not_miscast_checkPositive]
theorem not_miscast_checkZoom (n : Int) : ¬ Miscast (checkZoom (.json (.int n))) := by
  simp only [checkZoom, EntryValue.numeric?, Json.numeric?]
  split <;> simp [SettingsError.blamesValue]

@[inherit_doc not_miscast_checkPositive]
theorem not_miscast_checkComponents (color : List Json) (components : List Int) :
    ¬ Miscast (checkComponents color (components.map Json.int)) := by
  induction components with
  | nil => simp [checkComponents]
  | cons component rest ih =>
      simp only [List.map_cons, checkComponents, Json.numeric?]
      split
      · exact ih
      · simp [SettingsError.blamesValue]

end Draft

/-! ## Documents -/

namespace Settings

namespace Entry

/-- Something can be read from the value of an entry. -/
def Readable (value : Json) : Entry → Prop
  | .cyclesPerSecond | .timerHz | .zoom => ∃ n, value.toInt = .ok n
  | .faultPolicy => ∃ policy, PolicyEntry.ofJson value = .ok policy
  | .onColor | .offColor => ∃ color, Color.ofJson value = .ok color
  | .name | .shiftUsesVy => True

/-- The value of an entry has a type from which nothing can be read. -/
def Mistyped (value : Json) : Entry → Prop
  | .cyclesPerSecond | .timerHz | .zoom => value.Mistyped
  | .onColor | .offColor => Color.Mistyped value
  | .name | .faultPolicy | .shiftUsesVy => False

/-- The entries that are converted, in the order in which that is done. -/
def readingOrder : List Entry :=
  [.cyclesPerSecond, .timerHz, .zoom, .faultPolicy, .onColor, .offColor]

end Entry

/-- A document from which no settings can be read because of a type: it is no object, or the first
of its entries that cannot be read is mistyped. -/
def MistypedDocument : Json → Prop
  | .obj fields =>
      FirstMistyped (fun entry => ∀ value, Draft.given? fields entry = some value →
          entry.Readable value)
        (fun entry => ∃ value, Draft.given? fields entry = some value ∧ entry.Mistyped value)
        Entry.readingOrder
  | _ => True

theorem intEntry_eq (fields : List (Text × Json)) (entry : Entry) (usual : Int) :
    intEntry fields entry usual = orUsual Json.toSetting usual (Draft.given? fields entry) := by
  unfold intEntry
  cases Draft.given? fields entry <;> rfl

theorem givenColor_eq (fields : List (Text × Json)) (entry : Entry) (usual : Color) :
    Draft.givenColor fields entry usual =
      orUsual Color.ofJson usual (Draft.given? fields entry) := by
  unfold Draft.givenColor
  cases Draft.given? fields entry <;> rfl

theorem givenPolicy_eq (fields : List (Text × Json)) (usual : PolicyEntry) :
    Draft.givenPolicy fields usual =
      orUsual PolicyEntry.ofJson usual (Draft.given? fields .faultPolicy) := by
  unfold Draft.givenPolicy
  cases Draft.given? fields .faultPolicy <;> rfl

/-- Settings from the entries that have been converted. -/
def assembled (fields : List (Text × Json)) (cyclesPerSecond timerHz zoom : Int)
    (policy : PolicyEntry) (onColor offColor : Color) : Settings :=
  { name := (Draft.given? fields .name).getD (.str "CHIP-8")
    cyclesPerSecond := cyclesPerSecond
    timerHz := timerHz
    policy := policy
    shiftUsesVy := ((Draft.given? fields .shiftUsesVy).map Json.truthy).getD false
    zoom := zoom
    onColor := onColor
    offColor := offColor }

/-- Reading the fields of an object, step by step. -/
theorem ofFields_eq (fields : List (Text × Json)) :
    ofFields fields =
      andThen (orUsual Json.toSetting 700 (Draft.given? fields .cyclesPerSecond)) fun cycles =>
      andThen (orUsual Json.toSetting 60 (Draft.given? fields .timerHz)) fun timer =>
      andThen (orUsual Json.toSetting 15 (Draft.given? fields .zoom)) fun zoom =>
      andThen (orUsual PolicyEntry.ofJson (.known .freeze) (Draft.given? fields .faultPolicy))
        fun policy =>
      andThen (orUsual Color.ofJson ⟨0, 0x64, 0⟩ (Draft.given? fields .onColor)) fun onColor =>
      andThen (orUsual Color.ofJson ⟨0, 0, 0⟩ (Draft.given? fields .offColor)) fun offColor =>
      let settings := assembled fields cycles timer zoom policy onColor offColor
      andThen settings.validate fun _ => .ok settings := by
  simp only [ofFields, intEntry_eq, givenColor_eq, givenPolicy_eq]
  -- One case split for each entry, in reading order; a failure ends both sides at once.
  cases orUsual Json.toSetting 700 (Draft.given? fields .cyclesPerSecond) with
  | error failure => rfl
  | ok cycles =>
  cases orUsual Json.toSetting 60 (Draft.given? fields .timerHz) with
  | error failure => rfl
  | ok timer =>
  cases orUsual Json.toSetting 15 (Draft.given? fields .zoom) with
  | error failure => rfl
  | ok zoom =>
  cases orUsual PolicyEntry.ofJson (.known .freeze) (Draft.given? fields .faultPolicy) with
  | error failure => rfl
  | ok policy =>
  cases orUsual Color.ofJson ⟨0, 0x64, 0⟩ (Draft.given? fields .onColor) with
  | error failure => rfl
  | ok onColor =>
  cases orUsual Color.ofJson ⟨0, 0, 0⟩ (Draft.given? fields .offColor) with
  | error failure => rfl
  | ok offColor =>
  simp only [andThen_ok, assembled]
  split <;> simp [andThen, *]

/-- Settings that have been read are in order. -/
theorem validate_of_ofJson {value : Json} {settings : Settings}
    (read : ofJson value = .ok settings) : settings.validate = .ok () := by
  cases value with
  | obj fields =>
      rw [ofJson, ofFields_eq] at read
      simp only [andThen_eq_ok_iff, Except.ok.injEq] at read
      obtain ⟨cycles, -, timer, -, zoom, -, policy, -, onColor, -, offColor, -, _, valid, rfl⟩ :=
        read
      exact valid
  | _ => cases read

/-- The entries of settings are numbers, so that a check which fails blames a value. -/
theorem not_miscast_validate (settings : Settings) : ¬ Miscast settings.validate := by
  have colors (color : Color) : ¬ Miscast (Draft.checkColor color.toEntryValue) :=
    Draft.not_miscast_checkComponents _ color.components
  have cycles := Draft.not_miscast_checkPositive settings.cyclesPerSecond .cyclesNotPositive rfl
  have timer := Draft.not_miscast_checkPositive settings.timerHz .timerNotPositive rfl
  simp [validate, Draft.validate_eq, Miscast.andThen_iff, toDraft, cycles, timer, colors,
    Draft.not_miscast_checkZoom]

/-- Reading settings from a document blames a type exactly if the document is mistyped. -/
theorem miscast_ofJson (value : Json) : Miscast (ofJson value) ↔ MistypedDocument value := by
  cases value with
  | obj fields =>
      simp only [ofJson, ofFields_eq, Miscast.andThen_iff, Miscast.orUsual_iff, Miscast.ok_iff,
        not_miscast_validate, PolicyEntry.not_miscast_ofJson, and_false, exists_false, or_false,
        exists_and_right, exists_orUsual_eq_ok_iff, Json.toSetting_eq_ok_iff,
        Json.miscast_toSetting, Color.miscast_ofJson, MistypedDocument, Entry.readingOrder,
        FirstMistyped, Entry.Readable, Entry.Mistyped]
  | _ => simp [ofJson, MistypedDocument, SettingsError.blamesValue]

end Settings

end ChipEight
