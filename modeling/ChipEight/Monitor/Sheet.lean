import ChipEight.Monitor.Operand
import ChipEight.Settings.Document

/-!
# Settings under the monitor

Entries of settings are assigned by their names, without any check.  A value that is assigned to the
name of an operation hides it.
-/

namespace ChipEight.Monitor

/-- Settings with assigned entries, and the operations that are hidden, each with the kind of the
value that hides it. -/
structure Sheet where
  draft : Draft
  hidden : List (Text × String)

namespace Sheet

/-- The names of the operations. -/
def operations : List Text :=
  ["validate", "to_dict", "save"]

/-- Fail if an operation is hidden. -/
def checkOperation (sheet : Sheet) (name : Text) : Except Refusal Unit :=
  match sheet.hidden.find? fun entry => entry.1 == name with
  | some entry => mismatched (.noOperation entry.2)
  | none => .ok ()

/-- Check the entries. -/
def validate (sheet : Sheet) : Except Refusal Unit := do
  sheet.checkOperation "validate"
  sheet.draft.validate.mapError .settings

/-- The settings as an object. -/
def toJson (sheet : Sheet) : Except Refusal Json := do
  sheet.checkOperation "to_dict"
  sheet.draft.toJson.mapError .settings

/-- The text of the document as which the settings are saved. -/
def toDocument (sheet : Sheet) : Except Refusal String := do
  sheet.checkOperation "save"
  sheet.checkOperation "to_dict"
  sheet.draft.toDocument.mapError .settings

/-- Whether the settings come back unchanged from their object. -/
def survivesReload (sheet : Sheet) : Except Refusal Bool := do
  sheet.checkOperation "to_dict"
  sheet.draft.survivesReload.mapError .settings

/-- Assign the second item of a value to the entry that the first one names. -/
def assign (sheet : Sheet) (assignment : Json) : Except Refusal Sheet := do
  let (target, value) ← pair assignment
  match target with
  | .str name =>
      let draft ← (sheet.draft.assign name value).mapError Refusal.settings
      let kind := (EntryValue.ofAssigned value).kindName
      return ⟨draft, if operations.contains name then (name, kind) :: sheet.hidden
        else sheet.hidden⟩
  | _ => mismatched (.noName target.kindName)

/-- Assign entries one after the other. -/
def assignAll (sheet : Sheet) (assignments : Json) : Except Refusal Sheet := do
  (← items assignments).foldlM assign sheet

end Sheet

end ChipEight.Monitor
