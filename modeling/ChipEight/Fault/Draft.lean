import ChipEight.Fault
import ChipEight.Json.Display
import ChipEight.Json.Format
import ChipEight.Json.Number

/-!
# Drafts of faults

A draft is a fault that is made from values of any kind.  It has the fields and the words of a fault
of its kind, as far as the values can be put into words.
-/

namespace ChipEight.Fault

/-- The parameters from which a fault of a kind is made, in order. -/
def Kind.parameters : Kind → List String
  | .general => ["message"]
  | .romTooLarge => ["size", "limit"]
  | .memoryOutOfBounds => ["address", "count"]
  | .fetchOutOfBounds => ["pc"]
  | .unmappedOpcode => ["opcode", "pc"]
  | .stack => ["message"]
  | .stackOverflow => ["depth"]
  | .stackUnderflow => []

/-- How many of the parameters have to be given. -/
def Kind.required : Kind → Nat
  | .memoryOutOfBounds => 1
  | .unmappedOpcode => 1
  | kind => kind.parameters.length

/-- The kind whose maker makes faults of a kind. -/
def Kind.maker : Kind → Kind
  | .stack => .general
  | kind => kind

/-- Whether the program counter is given by its name alone. -/
def Kind.namesPc (kind : Kind) : Bool :=
  kind.maker == .general

/-- Why no fault can be made from values, or why it cannot be put into words. -/
inductive DraftError where
  | unexpectedPc (maker : Kind)
  | repeatedPc (maker : Kind)
  | tooMany (maker : Kind) (count : Nat) (pcNamed : Bool)
  | missing (maker : Kind) (parameters : List String)
  | format (failure : Json.FormatError)
deriving DecidableEq

namespace DraftError

/-- How many values a maker takes, itself included. -/
def capacity (maker : Kind) : String :=
  let most := maker.parameters.length + 1
  let least := maker.required + 1
  if least < most then s!"from {least} to {most} positional arguments"
  else if most = 1 then "1 positional argument"
  else s!"{most} positional arguments"

/-- The error in words. -/
def message : DraftError → String
  | .unexpectedPc maker => s!"{maker.name}.__init__() got an unexpected keyword argument 'pc'"
  | .repeatedPc maker => s!"{maker.name}.__init__() got multiple values for argument 'pc'"
  | .tooMany maker count pcNamed =>
      let given :=
        if pcNamed then s!"{count + 1} positional arguments (and 1 keyword-only argument)"
        else s!"{count + 1}"
      s!"{maker.name}.__init__() takes {capacity maker} but {given} were given"
  | .missing maker parameters =>
      let quoted := String.intercalate " and " (parameters.map fun name => s!"'{name}'")
      let count := parameters.length
      let noun := if count = 1 then "argument" else "arguments"
      s!"{maker.name}.__init__() missing {count} required positional {noun}: {quoted}"
  | .format failure => failure.message

end DraftError

/-- A fault with fields of any kind. -/
structure Draft where
  kind : Kind
  fields : List (Text × Json)
  message : Text
  pc : Json

namespace Draft

/-- Check that as many values are given as a maker takes. -/
def check (maker : Kind) (values : List Json) (pc : Option Json) : Except DraftError Unit :=
  let parameters := maker.parameters
  let given := if pc.isSome then ["pc"] else []
  let missing := ((parameters.take maker.required).drop values.length).filter fun name =>
    !given.contains name
  if pc.isSome && !maker.namesPc && !parameters.contains "pc" then .error (.unexpectedPc maker)
  else if pc.isSome && (parameters.take values.length).contains "pc" then
    .error (.repeatedPc maker)
  else if parameters.length < values.length then
    .error (.tooMany maker values.length (pc.isSome && maker.namesPc))
  else if missing.isEmpty then .ok ()
  else .error (.missing maker missing)

/-- An address as faults show it. -/
def address (value : Json) : Except DraftError Text :=
  match value.hexadecimal 4 with
  | .ok digits => .ok ("0x" ++ digits : String)
  | .error failure => .error (.format failure)

/-- What a fault of a kind says of its fields. -/
def describe (kind : Kind) (field : String → Json) : Except DraftError Text :=
  match kind with
  | .general => .ok (field "message").plainText
  | .stack => .ok (field "message").plainText
  | .romTooLarge =>
      .ok ("ROM is " ++ (field "size").plainText ++ " bytes, limit is " ++
        (field "limit").plainText)
  | .memoryOutOfBounds =>
      (address (field "address")).map fun place =>
        if (field "count").equalsInt 1 then "memory access out of bounds at " ++ place
        else "memory access out of bounds: " ++ place ++ "+" ++ (field "count").plainText ++
          " bytes"
  | .fetchOutOfBounds => .ok "instruction fetch past end of memory"
  | .unmappedOpcode => (address (field "opcode")).map fun word => "unmapped opcode " ++ word
  | .stackOverflow =>
      .ok ("call stack overflow (depth " ++ (field "depth").plainText ++ ")")
  | .stackUnderflow => .ok "return with empty call stack"

/-- Make a fault from values in order, and a program counter that is given by its name. -/
def ofValues (kind : Kind) (values : List Json) (pc : Option Json) : Except DraftError Draft :=
  match check kind.maker values pc with
  | .error failure => .error failure
  | .ok () =>
      let entries := kind.parameters.zip values
      let field (name : String) : Json :=
        match entries.find? fun entry => entry.1 == name with
        | some entry => entry.2
        | none => if name = "count" then .int 1 else if name = "pc" then pc.getD .null else .null
      match describe kind field with
      | .error failure => .error failure
      | .ok message =>
          let shown := kind.parameters.filter fun name => name != "message" && name != "pc"
          .ok
            { kind := kind
              fields := shown.map fun (name : String) => (Text.ofString name, field name)
              message := message
              pc := field "pc" }

/-- The fault in words, with the program counter when it is known. -/
def text (draft : Draft) : Except DraftError Text :=
  match draft.pc with
  | .null => .ok draft.message
  | pc => (address pc).map fun place => draft.message ++ " (pc=" ++ place ++ ")"

end Draft

end ChipEight.Fault
