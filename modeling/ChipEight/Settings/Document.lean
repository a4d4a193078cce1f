import ChipEight.Settings.Draft
import ChipEight.Json.Reader
import ChipEight.Json.Writer

/-!
# Settings documents

Settings are kept in JSON documents.  An object need not have every entry, and the numbers in it
may be given in any form that stands for an integer.
-/

namespace ChipEight

namespace Settings

/-- The integer of an entry, or its usual value. -/
def intEntry (fields : List (Text × Json)) (entry : Entry) (usual : Int) :
    Except SettingsError Int :=
  match Draft.given? fields entry with
  | some value => value.toSetting
  | none => .ok usual

/-- Check settings. -/
def validate (settings : Settings) : Except SettingsError Unit :=
  settings.toDraft.validate

/-- Settings from the fields of an object.  The rates and the zoom are read first, then the policy
and the colours, and in the end everything is checked. -/
def ofFields (fields : List (Text × Json)) : Except SettingsError Settings :=
  let usual : Settings := {}
  match intEntry fields .cyclesPerSecond usual.cyclesPerSecond with
  | .error failure => .error failure
  | .ok cyclesPerSecond =>
  match intEntry fields .timerHz usual.timerHz with
  | .error failure => .error failure
  | .ok timerHz =>
  match intEntry fields .zoom usual.zoom with
  | .error failure => .error failure
  | .ok zoom =>
  match Draft.givenPolicy fields usual.policy with
  | .error failure => .error failure
  | .ok policy =>
  match Draft.givenColor fields .onColor usual.onColor with
  | .error failure => .error failure
  | .ok onColor =>
  match Draft.givenColor fields .offColor usual.offColor with
  | .error failure => .error failure
  | .ok offColor =>
    let settings : Settings :=
      { name := (Draft.given? fields .name).getD usual.name
        cyclesPerSecond := cyclesPerSecond
        timerHz := timerHz
        policy := policy
        shiftUsesVy :=
          ((Draft.given? fields .shiftUsesVy).map Json.truthy).getD usual.shiftUsesVy
        zoom := zoom
        onColor := onColor
        offColor := offColor }
    match settings.validate with
    | .error failure => .error failure
    | .ok () => .ok settings

/-- Settings from a JSON value, which has to be an object. -/
def ofJson : Json → Except SettingsError Settings
  | .obj fields => ofFields fields
  | value => .error (.notObject value.kindName)

/-- Settings as a JSON object. -/
def toJson (settings : Settings) : Except SettingsError Json :=
  settings.toDraft.toJson

end Settings

/-- Why a document gives no settings. -/
inductive DocumentError where
  | malformed (failure : Json.ReadError)
  | refused (failure : SettingsError)

/-- Settings from the text of a document in which the digits of an integer may be limited in number,
and at most `depth` arrays and objects may lie within each other. -/
def Settings.ofDocumentWithin (limit : Option Nat) (depth : Nat) (text : String) :
    Except DocumentError Settings :=
  match Json.readText limit depth text.toList with
  | .error failure => .error (.malformed failure)
  | .ok value =>
      match Settings.ofJson value with
      | .error failure => .error (.refused failure)
      | .ok settings => .ok settings

/-- Settings from the text of a document. -/
def Settings.ofDocument (depth : Nat) (text : String) : Except DocumentError Settings :=
  ofDocumentWithin (some Literal.maxDigits) depth text

namespace Draft

/-- The text of the document that a draft is saved as. -/
def toDocument (draft : Draft) : Except SettingsError String :=
  match draft.toJson with
  | .error failure => .error failure
  | .ok value => .ok value.document

/-- Whether the components of a colour are the numbers of a list. -/
def sameComponents : List Json → List Int → Bool
  | [], [] => true
  | component :: rest, n :: numbers => component.equalsInt n && sameComponents rest numbers
  | _, _ => false

/-- Whether a value is a colour: a tuple of its components. -/
def sameColor (value : EntryValue) (color : Color) : Bool :=
  match value with
  | .tuple items => sameComponents items color.components
  | .json _ => false

/-- Whether the entries other than the name are those of settings; truth values and integral
binary64 numbers count as integers. -/
def agrees (draft : Draft) (settings : Settings) : Bool :=
  draft.cyclesPerSecond.equalsInt settings.cyclesPerSecond &&
    draft.timerHz.equalsInt settings.timerHz &&
    (match draft.policy, settings.policy with
      | .known mine, .known other => mine == other
      | _, _ => false) &&
    draft.shiftUsesVy.equalsInt settings.shiftUsesVy.toNat &&
    draft.zoom.equalsInt settings.zoom &&
    sameColor draft.onColor settings.onColor && sameColor draft.offColor settings.offColor

/-- Whether the entries that have to be integers stand for some, in the order in which they are
read. -/
def checkIntegers : List EntryValue → Except SettingsError Unit
  | [] => .ok ()
  | value :: rest =>
      match value.toSetting with
      | .error failure => .error failure
      | .ok _ => checkIntegers rest

/-- Whether a draft comes back unchanged from its object.  The name always does.  The object is not
written in between, so that a tuple in it is still one. -/
def survivesReload (draft : Draft) : Except SettingsError Bool :=
  match draft.toFields with
  | .error failure => .error failure
  | .ok fields =>
      match checkIntegers [draft.cyclesPerSecond, draft.timerHz, draft.zoom] with
      | .error failure => .error failure
      | .ok () =>
          match Settings.ofFields fields with
          | .error failure => .error failure
          | .ok settings => .ok (draft.agrees settings)

end Draft

/-- The text of the document that settings are saved as. -/
def Settings.toDocument (settings : Settings) : Except SettingsError String :=
  settings.toDraft.toDocument

end ChipEight
