import AbiBindings.Json.Value
import AbiBindings.Text.Blank

/-!
# Templates

The skeletons of the three kinds of class: fixed text with slots. Filling puts a text into every
slot as it is and drops white space at the end; it always succeeds when a text is at hand for
every slot, and from loose data exactly when the data name every slot of the template.
-/

namespace AbiBindings

/-- A place in a template. -/
inductive Slot where
  | className
  | methods
  | fields
  | members
  | constructorParameters
  | assignments
  | componentCount
  | parseLines
  | decodeLines
  | constructorArguments
  | encodings
  deriving DecidableEq

/-- The name of a slot in loose data. -/
def Slot.name : Slot → String
  | className => "class_name"
  | methods => "methods"
  | fields => "fields"
  | members => "members"
  | constructorParameters => "constructor_params"
  | assignments => "assignments"
  | componentCount => "component_count"
  | parseLines => "parse_lines"
  | decodeLines => "decode_lines"
  | constructorArguments => "constructor_args"
  | encodings => "encode_params"

/-- A part of a template. -/
inductive Piece where
  | text (s : String)
  | slot (s : Slot)

/-- A named skeleton. -/
structure Template where
  name : String
  pieces : List Piece

/-- Why loose data do not give a text. -/
inductive TemplateFault where
  | unknownTemplate (name : String)
  | missingField (template field : String)

/-- The wording of a fault. -/
def TemplateFault.message : TemplateFault → String
  | unknownTemplate name => "Failed to render template " ++ name ++ ": there is no such template"
  | missingField template field =>
    "Failed to render template " ++ template ++ ": field " ++ field ++ " is missing"

namespace Template

/-! ## The skeletons -/

/-- The class of a contract. -/
def contractClass : Template where
  name := "contract_class"
  pieces := [
    .text "export class ", .slot .className, .text " \x7b\n",
    .text "  private address: Address\n",
    .text "  private chainId: ChainId\n",
    .text "  private timestamp: Date | null\n",
    .text "  private feeAmount: TokenAmount | null\n",
    .text "\n",
    .text "  constructor(address: Address, chainId: ChainId, timestamp: Date | null = null, ",
    .text "feeAmount: TokenAmount | null = null) \x7b\n",
    .text "    this.address = address\n",
    .text "    this.chainId = chainId\n",
    .text "    this.timestamp = timestamp\n",
    .text "    this.feeAmount = feeAmount\n",
    .text "  \x7d", .slot .methods, .text "\n\x7d\n"]

/-- The class of a struct. -/
def structClass : Template where
  name := "tuple_class"
  pieces := [
    .text "export class ", .slot .className, .text " \x7b\n",
    .slot .fields, .text "\n\n",
    .text "  constructor(", .slot .constructorParameters, .text ") \x7b\n",
    .slot .assignments, .text "\n  \x7d\n\n",
    .text "  static parse(data: string): ", .slot .className, .text " \x7b\n",
    .text "    const parts = parseCSVNotNullable(data)\n",
    .text "    if (parts.length !== ", .slot .componentCount,
    .text ") throw new Error('Invalid data for tuple parsing')\n",
    .slot .parseLines, .text "\n",
    .text "    return new ", .slot .className, .text "(", .slot .constructorArguments,
    .text ")\n  \x7d\n\n",
    .text "  toEvmEncodeParams(): EvmEncodeParam[] \x7b\n    return [\n",
    .slot .encodings, .text "\n    ]\n  \x7d\n\x7d\n"]

/-- The class of an event. -/
def eventClass : Template where
  name := "event_class"
  pieces := [
    .text "export class ", .slot .className, .text " \x7b\n",
    .slot .members, .text "\n",
    .text "  constructor(", .slot .constructorParameters, .text ") \x7b\n",
    .slot .assignments, .text "  \x7d\n\n",
    .text "  static decode(topics: string[], data: string): ", .slot .className, .text " \x7b\n",
    .slot .decodeLines, .text "\n",
    .text "    return new ", .slot .className, .text "(", .slot .constructorArguments,
    .text ")\n  \x7d\n\x7d\n"]

/-- Every template. -/
def all : List Template :=
  [contractClass, structClass, eventClass]

/-! ## Filling -/

/-- The text of one part. -/
def pieceText (value : Slot → String) : Piece → String
  | .text s => s
  | .slot s => value s

/-- The template with a text in every slot. -/
def fill (t : Template) (value : Slot → String) : String :=
  Text.trimEnd ("".intercalate (t.pieces.map (pieceText value)))

/-- The slots of a template in order, repetitions included. -/
def slots (t : Template) : List Slot :=
  t.pieces.filterMap fun
    | .slot s => some s
    | .text _ => none

end Template

/-! ## Loose data -/

mutual

/-- How a JSON value is written into a slot. -/
def Json.slotText : Json → String
  | .null => ""
  | .bool b => if b then "true" else "false"
  | .number n => n.text
  | .string s => s
  | .array items => "[" ++ itemsText items ++ "]"
  | .object _ => "[object]"

/-- How the items of an array are written into a slot, a comma behind each. -/
def itemsText : List Json → String
  | [] => ""
  | v :: rest => v.slotText ++ ", " ++ itemsText rest

end

/-- The named template, filled from loose data. -/
def renderTemplate (name : String) (data : Json) : Except TemplateFault String :=
  match Template.all.find? (·.name == name) with
  | none => .error (.unknownTemplate name)
  | some t =>
    match t.slots.find? fun s => (data.get? s.name).isNone with
    | some s => .error (.missingField name s.name)
    | none => .ok (t.fill fun s => ((data.get? s.name).map Json.slotText).getD "")

end AbiBindings
