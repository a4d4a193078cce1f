import ChipEight.Json.Display
import ChipEight.Settings.Rate
import ChipEight.Text.Lowercase

/-!
# Drafts of settings

A draft is settings whose entries may hold any values, as they stand after they have been assigned
one by one.  Checking a draft, and writing it as an object, may fail for every entry that has the
wrong type; entries are looked at in a fixed order and the first failure counts.
-/

namespace ChipEight

/-- Settings with unchecked entries. -/
structure Draft where
  name : Json
  cyclesPerSecond : EntryValue
  timerHz : EntryValue
  policy : PolicyEntry
  shiftUsesVy : Json
  zoom : EntryValue
  onColor : EntryValue
  offColor : EntryValue

/-- A colour as the value of an entry. -/
def Color.toEntryValue (color : Color) : EntryValue :=
  .tuple (color.components.map Json.int)

/-- Settings as a draft. -/
def Settings.toDraft (settings : Settings) : Draft :=
  { name := settings.name
    cyclesPerSecond := .json (.int settings.cyclesPerSecond)
    timerHz := .json (.int settings.timerHz)
    policy := settings.policy
    shiftUsesVy := .bool settings.shiftUsesVy
    zoom := .json (.int settings.zoom)
    onColor := settings.onColor.toEntryValue
    offColor := settings.offColor.toEntryValue }

/-! ## Entries -/

/-- Resolve the entry for the policy: a text names a policy, in letters of any case. -/
def PolicyEntry.ofJson : Json → Except SettingsError PolicyEntry
  | .str text =>
      let name := Lowercase.ofText text
      match FaultPolicy.ofName? name with
      | some policy => .ok (.known policy)
      | none => .error (.unknownPolicy (Quoted.ofText name))
  | value => .ok (.other value.kindName)

/-- Take an integer for a settings entry. -/
def EntryValue.toSetting (value : EntryValue) : Except SettingsError Int :=
  match value.toInt with
  | .ok n => .ok n
  | .error failure => .error (.number failure)

/-- Take an integer for a settings entry. -/
def Json.toSetting (value : Json) : Except SettingsError Int :=
  (EntryValue.json value).toSetting

namespace Color

/-- The component in two code points of a colour text. -/
def ofDigits (digits : List CodePoint) : Except SettingsError Int :=
  match Text.toInt 16 ⟨digits⟩ with
  | .ok n => .ok n
  | .error failure => .error (.number failure)

/-- A colour text: hash marks, then two characters for each component; the rest is ignored. -/
def ofText (text : Text) : Except SettingsError Color :=
  let digits := text.points.dropWhile (· == .char '#')
  match ofDigits (digits.take 2) with
  | .error failure => .error failure
  | .ok red =>
      match ofDigits ((digits.drop 2).take 2) with
      | .error failure => .error failure
      | .ok green =>
          match ofDigits ((digits.drop 4).take 2) with
          | .error failure => .error failure
          | .ok blue => .ok ⟨red, green, blue⟩

/-- A colour from exactly three values. -/
def ofItems : List Json → Except SettingsError Color
  | [first, second, third] =>
      match first.toSetting with
      | .error failure => .error failure
      | .ok red =>
          match second.toSetting with
          | .error failure => .error failure
          | .ok green =>
              match third.toSetting with
              | .error failure => .error failure
              | .ok blue => .ok ⟨red, green, blue⟩
  | items =>
      if items.length < 3 then .error (.tooFewComponents items.length)
      else .error .tooManyComponents

/-- The colour of an entry: a text, a list, or an object whose keys count. -/
def ofJson : Json → Except SettingsError Color
  | .str text => ofText text
  | .arr items => ofItems items
  | .obj fields => ofItems (fields.map fun field => .str field.1)
  | value => .error (.notComponents value.kindName)

end Color

namespace Draft

/-! ## Checking -/

/-- Check that every component is a number from 0 to 255; the whole colour is blamed. -/
def checkComponents (color : List Json) : List Json → Except SettingsError Unit
  | [] => .ok ()
  | component :: rest =>
      match component.numeric? with
      | none => .error (.componentNotComparable component.kindName)
      | some number =>
          if number.atLeast 0 && number.atMost 255 then checkComponents color rest
          else .error (.invalidColor (Json.tupleShown color))

/-- Check a colour. -/
def checkColor (color : EntryValue) : Except SettingsError Unit :=
  match color.components with
  | .error failure => .error failure
  | .ok components => checkComponents components components

/-- Check a rate: a number that is not zero or less. -/
def checkPositive (value : EntryValue) (failure : SettingsError) : Except SettingsError Unit :=
  match value.numeric? with
  | none => .error (.notComparable "<=" value.kindName)
  | some number => if number.atMost 0 then .error failure else .ok ()

/-- Check the zoom: a number that is not below one. -/
def checkZoom (value : EntryValue) : Except SettingsError Unit :=
  match value.numeric? with
  | none => .error (.notComparable "<" value.kindName)
  | some number => if number.below 1 then .error .zoomTooSmall else .ok ()

/-- Check the entries in order: the two rates, the zoom, the two colours. -/
def validate (draft : Draft) : Except SettingsError Unit :=
  match checkPositive draft.cyclesPerSecond .cyclesNotPositive with
  | .error failure => .error failure
  | .ok () =>
      match checkPositive draft.timerHz .timerNotPositive with
      | .error failure => .error failure
      | .ok () =>
          match checkZoom draft.zoom with
          | .error failure => .error failure
          | .ok () =>
              match checkColor draft.onColor with
              | .error failure => .error failure
              | .ok () => checkColor draft.offColor

/-- The number of cycles for a frame. -/
def cyclesPerFrame (draft : Draft) : Except RateError Nat :=
  Rate.ofValues draft.cyclesPerSecond draft.timerHz

/-! ## Writing -/

/-- A component in at least two hexadecimal digits. -/
def componentHex (component : Json) : Except SettingsError String :=
  match component.hexadecimal 2 with
  | .ok digits => .ok digits
  | .error failure => .error (.componentFormat failure)

/-- The digits of the components from a place on, up to the third. -/
def componentsHex (place : Nat) : Nat → List Json → Except SettingsError String
  | 0, _ => .ok ""
  | _ + 1, [] => .error (.missingComponent place)
  | count + 1, component :: rest =>
      match componentHex component with
      | .error failure => .error failure
      | .ok first =>
          match componentsHex (place + 1) count rest with
          | .error failure => .error failure
          | .ok others => .ok (first ++ others)

/-- A colour as a text: a hash mark and the digits of the first three components. -/
def colorText (color : EntryValue) : Except SettingsError Json :=
  match color.components with
  | .error failure => .error failure
  | .ok components =>
      match componentsHex 0 3 components with
      | .error failure => .error failure
      | .ok digits => .ok (.str ("#" ++ digits : String))

/-- The name of the policy.  An entry of another kind has none. -/
def policyName : PolicyEntry → Except SettingsError Json
  | .known policy => .ok (.str policy.name)
  | .other kind => .error (.policyWithoutName kind)

/-- The draft as fields of an object. -/
def toFields (draft : Draft) : Except SettingsError (List (Text × Json)) :=
  match policyName draft.policy with
  | .error failure => .error failure
  | .ok policy =>
      match colorText draft.onColor with
      | .error failure => .error failure
      | .ok onColor =>
          match colorText draft.offColor with
          | .error failure => .error failure
          | .ok offColor =>
              .ok [("name", draft.name),
                ("cycles_per_second", draft.cyclesPerSecond.toJson),
                ("timer_hz", draft.timerHz.toJson),
                ("fault_policy", policy),
                ("shift_uses_vy", draft.shiftUsesVy),
                ("zoom", draft.zoom.toJson),
                ("on_color", onColor),
                ("off_color", offColor)]

/-- The draft as an object. -/
def toJson (draft : Draft) : Except SettingsError Json :=
  match draft.toFields with
  | .error failure => .error failure
  | .ok fields => .ok (.obj fields)

/-! ## Making and changing drafts -/

/-- What is wrong with the name of an entry, if anything is. -/
def nameError? (name : Text) : Option SettingsError :=
  if name = "self" then some .reservedName
  else
    match Settings.Entry.ofKey? name with
    | some _ => none
    | none => some (.unknownName name)

/-- The value given for an entry. -/
def given? (entries : List (Text × Json)) (entry : Settings.Entry) : Option Json :=
  Json.field? entries entry.key

/-- The colour given for an entry, or its usual value. -/
def givenColor (entries : List (Text × Json)) (entry : Settings.Entry) (usual : Color) :
    Except SettingsError Color :=
  match given? entries entry with
  | some value => Color.ofJson value
  | none => .ok usual

/-- The policy given for its entry, or its usual value. -/
def givenPolicy (entries : List (Text × Json)) (usual : PolicyEntry) :
    Except SettingsError PolicyEntry :=
  match given? entries .faultPolicy with
  | some value => PolicyEntry.ofJson value
  | none => .ok usual

/-- A draft from named entries, with the usual values for the others.  Only the policy and the
colours are converted; the draft is checked. -/
def ofEntries (entries : List (Text × Json)) : Except SettingsError Draft :=
  match entries.findSome? fun entry => nameError? entry.1 with
  | some failure => .error failure
  | none =>
      let usual : Settings := {}
      let number (entry : Settings.Entry) (value : Int) : EntryValue :=
        .json ((given? entries entry).getD (.int value))
      match givenPolicy entries usual.policy with
      | .error failure => .error failure
      | .ok policy =>
          match givenColor entries .onColor usual.onColor with
          | .error failure => .error failure
          | .ok onColor =>
              match givenColor entries .offColor usual.offColor with
              | .error failure => .error failure
              | .ok offColor =>
                  let draft : Draft :=
                    { name := (given? entries .name).getD usual.name
                      cyclesPerSecond := number .cyclesPerSecond usual.cyclesPerSecond
                      timerHz := number .timerHz usual.timerHz
                      policy := policy
                      shiftUsesVy :=
                        (given? entries .shiftUsesVy).getD (.bool usual.shiftUsesVy)
                      zoom := number .zoom usual.zoom
                      onColor := onColor.toEntryValue
                      offColor := offColor.toEntryValue }
                  match draft.validate with
                  | .error failure => .error failure
                  | .ok () => .ok draft

/-- Assign an entry without any check. -/
def set (draft : Draft) (value : EntryValue) : Settings.Entry → Draft
  | .name => { draft with name := value.toJson }
  | .cyclesPerSecond => { draft with cyclesPerSecond := value }
  | .timerHz => { draft with timerHz := value }
  | .faultPolicy => { draft with policy := .other value.kindName }
  | .shiftUsesVy => { draft with shiftUsesVy := value.toJson }
  | .zoom => { draft with zoom := value }
  | .onColor => { draft with onColor := value }
  | .offColor => { draft with offColor := value }

/-- Assign an entry by its name.  The number of cycles of a frame follows from the rates and cannot
be assigned; other names change nothing. -/
def assign (draft : Draft) (name : Text) (value : Json) : Except SettingsError Draft :=
  match Settings.Entry.ofKey? name with
  | some entry => .ok (draft.set (EntryValue.ofAssigned value) entry)
  | none => if name = "cycles_per_frame" then .error .derivedEntry else .ok draft

/-- Assign entries one after the other. -/
def assignAll (draft : Draft) : List (Text × Json) → Except SettingsError Draft
  | [] => .ok draft
  | (name, value) :: rest =>
      match draft.assign name value with
      | .error failure => .error failure
      | .ok next => next.assignAll rest

end Draft

end ChipEight
