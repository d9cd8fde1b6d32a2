import AbiBindings.Emit.StructClass

/-!
# Event classes

The class of an event has a field for each input, and `decode` reads them from the topics and the
data of a log entry. Indexed inputs take the topics in order, behind the hash of the signature
unless the event is anonymous; of composite values and texts a topic holds only the hash. The
other inputs share the data: one of them fills it alone, several are split into parts.
-/

namespace AbiBindings

/-- Where the value of an event's field comes from. -/
inductive EventSource where
  /-- A topic that holds the hash of the value. -/
  | hash (topic : Nat)
  /-- A topic that holds the value. -/
  | topic (topic : Nat) (signature : String) (conversion : Conversion)
  /-- The data. -/
  | data (decoding : Decoding)

namespace EventSource

/-- Whether the value is among the topics. -/
def isTopic : EventSource → Bool
  | hash _ => true
  | topic _ _ _ => true
  | data _ => false

/-- The expression for a topic. -/
def topicText (index : Nat) : String :=
  "topics[" ++ toString index ++ "]"

/-- The expression for the value. -/
def text : EventSource → String
  | hash index => "Bytes.fromHexString(" ++ topicText index ++ ")"
  | topic index signature conversion =>
    conversion.text ("evm.decode(new EvmDecodeParam('" ++ signature ++ "', " ++ topicText index
      ++ "))")
  | data decoding => decoding.text

/-- The library symbols that the expression and its decoding ask for. -/
def symbols : EventSource → List LibrarySymbol
  | hash _ => [.bytes]
  | topic _ _ _ => [.evm, .decodeParam]
  | data decoding => [.evm, .decodeParam] ++ decoding.symbols

end EventSource

/-- A field of an event class. -/
structure EventField where
  field : String
  /-- The variable that stands for the field in the constructor and while decoding. -/
  variableName : String
  type : ValueType
  source : EventSource

namespace EventField

/-- The line that declares the variable. -/
def declaration (f : EventField) : String :=
  "    const " ++ f.variableName ++ ": " ++ f.type.text ++ " = " ++ f.source.text

end EventField

/-- The class of an event. -/
structure EventClass where
  name : String
  /-- The name that the interface gives the event. -/
  eventName : String
  /-- The hash of the signature, unless the event is anonymous. -/
  topic? : Option String
  fields : List EventField
  /-- The canonical text of what the data hold. -/
  dataSignature : String

namespace EventClass

/-- How many topics come before those of the fields. -/
def firstTopic (c : EventClass) : Nat :=
  if c.topic?.isSome then 1 else 0

/-- The fields whose values are among the topics. -/
def topicFields (c : EventClass) : List EventField :=
  c.fields.filter (·.source.isTopic)

/-- The fields whose values are in the data. -/
def dataFields (c : EventClass) : List EventField :=
  c.fields.filter fun f => !f.source.isTopic

/-- The lines that read the topics. -/
def topicLines (c : EventClass) : List String :=
  if c.topicFields.isEmpty then []
  else
    ("    if (topics.length < " ++ toString (c.topicFields.length + c.firstTopic)
      ++ ") throw new Error('Invalid topics for event " ++ c.eventName ++ "')")
    :: c.topicFields.map EventField.declaration

/-- The lines that read the data. -/
def dataLines (c : EventClass) : List String :=
  let decoded :=
    "    const decodedData = evm.decode(new EvmDecodeParam('" ++ c.dataSignature ++ "', data))"
  let split :=
    ["    const parts = parseCSVNotNullable(decodedData)",
     "    if (parts.length !== " ++ toString c.dataFields.length
       ++ ") throw new Error('Invalid data for event " ++ c.eventName ++ "')"]
  if c.dataFields.isEmpty then []
  else
    decoded :: (if c.dataFields.length = 1 then [] else split)
      ++ c.dataFields.map EventField.declaration

/-- The class as it is written. -/
def text (c : EventClass) : String :=
  Template.eventClass.fill fun
    | .className => c.name
    | .members =>
      (match c.topic? with
        | some hash => "  static readonly TOPIC: string = '" ++ hash ++ "'\n"
        | none => "")
      ++ "".intercalate (c.fields.map fun f =>
        "  readonly " ++ f.field ++ ": " ++ f.type.text ++ "\n")
    | .constructorParameters =>
      ", ".intercalate (c.fields.map fun f => f.variableName ++ ": " ++ f.type.text)
    | .assignments =>
      "".intercalate (c.fields.map fun f =>
        "    this." ++ f.field ++ " = " ++ f.variableName ++ "\n")
    | .decodeLines => "\n".intercalate (c.topicLines ++ c.dataLines)
    | .constructorArguments => ", ".intercalate (c.fields.map EventField.variableName)
    | _ => ""

/-- The library symbols that the class asks for. -/
def symbols (c : EventClass) : List LibrarySymbol :=
  (c.fields.flatMap fun f => f.type.symbols ++ f.source.symbols)
    ++ (if c.dataFields.length ≤ 1 then [] else [.parseCsv])

/-- What there is to warn of. -/
def warnings (c : EventClass) : List Warning :=
  c.fields.flatMap (·.type.warnings)

end EventClass

/-! ## The class of an event -/

/-- The type of an event's field: bytes where only the hash of the value is known. -/
def StructRegistry.fieldType (r : StructRegistry) (p : Parameter) : ValueType :=
  if p.isHashedTopic then .ofElementary .bytes else r.valueType p

/-- Where the values of an event's inputs come from; `topic` and `position` number the topics and
the parts of the data from there on. -/
def StructRegistry.eventSources (r : StructRegistry) (shared : Bool) (topic position : Nat) :
    List Parameter → List EventSource
  | [] => []
  | p :: rest =>
    if p.isHashedTopic then .hash topic :: r.eventSources shared (topic + 1) position rest
    else if p.indexed then
      .topic topic p.canonicalType (r.conversion (r.fieldType p).text)
        :: r.eventSources shared (topic + 1) position rest
    else
      .data (r.decode (r.fieldType p) (if shared then partText position else "decodedData"))
        :: r.eventSources shared topic (position + 1) rest

/-- The inputs that are in the data of an event. -/
def ContractEvent.dataInputs (e : ContractEvent) : List Parameter :=
  e.inputs.filter fun p => !p.indexed

/-- The class of an event under a given name. -/
def StructRegistry.eventClass (r : StructRegistry) (e : ContractEvent) (name : String) :
    EventClass :=
  let named := NameScope.property.nameParameters "param" e.inputs
  let variableNames := NameScope.bodyLocal.resolve (named.map NamedParameter.name)
  let sources :=
    r.eventSources (1 < e.dataInputs.length) (if e.anonymous then 0 else 1) 0 e.inputs
  { name
    eventName := e.name
    topic? := if e.anonymous then none else some e.topic
    fields := ((named.zip variableNames).zip sources).map fun ((p, variableName), source) =>
      { field := p.name, variableName, type := r.fieldType p.parameter, source }
    dataSignature :=
      match e.dataInputs with
      | [p] => p.canonicalType
      | inputs => tupleSignature inputs }

/-- The classes of several events in order, each under a name that no class has before it. -/
def StructRegistry.eventClasses (r : StructRegistry) (events : List ContractEvent) :
    List EventClass :=
  List.zipWith r.eventClass events (uniqueNames r.taken (events.map ContractEvent.classStem))

end AbiBindings
