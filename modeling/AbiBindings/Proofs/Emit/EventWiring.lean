import AbiBindings.Proofs.Abi.Levels
import AbiBindings.Proofs.Emit.ClassShapes
import AbiBindings.Proofs.Emit.Locality
import AbiBindings.Proofs.Emit.Operands
import AbiBindings.Proofs.Names.Distinct

/-! # How event decoders are wired

One pass over the inputs of an event lays out where their values come from, counting topics and
parts of the data as it goes. The fields among the topics are those of the indexed inputs and read
consecutive topics, the other fields read consecutive parts of the data
(`filter_isTopic_eventFields`, `filter_not_isTopic_eventFields`). What a field reads is written from
the name and the type of its input (`text_topicSource`, `text_dataSource`), so the text of a class
is what the inputs give in two passes, one for the topics and one for the data
(`wired_eventClass`). -/

namespace AbiBindings
set_option autoImplicit false

/-! ## What is to be emitted -/

/-- An input of an event with the names that it has in the class. -/
structure NamedInput where
  input : Parameter
  field : String
  variableName : String

namespace NamedInput

/-- The inputs whose values are among the topics. -/
def amongTopics (ws : List NamedInput) : List NamedInput :=
  ws.filter (·.input.indexed)

/-- The inputs whose values are in the data. -/
def inData (ws : List NamedInput) : List NamedInput :=
  ws.filter fun w => !w.input.indexed

variable {w : NamedInput} (ws : List NamedInput)

theorem amongTopics_cons_of_indexed (h : w.input.indexed = true) :
    amongTopics (w :: ws) = w :: amongTopics ws :=
  List.filter_cons_of_pos h

theorem amongTopics_cons_of_not_indexed (h : w.input.indexed = false) :
    amongTopics (w :: ws) = amongTopics ws :=
  List.filter_cons_of_neg (by simp [h])

theorem inData_cons_of_indexed (h : w.input.indexed = true) :
    inData (w :: ws) = inData ws :=
  List.filter_cons_of_neg (by simp [h])

theorem inData_cons_of_not_indexed (h : w.input.indexed = false) :
    inData (w :: ws) = w :: inData ws :=
  List.filter_cons_of_pos (by simp [h])

end NamedInput

namespace ContractEvent

/-- How many topics come before those of the inputs. -/
def firstTopic (e : ContractEvent) : Nat :=
  if e.anonymous then 0 else 1

/-- The inputs with the names of their fields and of their variables. -/
def namedInputs (e : ContractEvent) : List NamedInput :=
  let named := NameScope.property.nameParameters "param" e.inputs
  List.zipWith (fun p variableName => ⟨p.parameter, p.name, variableName⟩) named
    (NameScope.bodyLocal.resolve (named.map NamedParameter.name))

end ContractEvent

namespace StructRegistry

/-- The type that an input is declared with. -/
def declaredType (r : StructRegistry) (p : Parameter) : String :=
  if p.isHashedTopic then "Bytes" else (r.valueType p).text

/-- The line that declares the variable of an input. -/
def declaring (r : StructRegistry) (w : NamedInput) (value : String) : String :=
  "    const " ++ w.variableName ++ ": " ++ r.declaredType w.input ++ " = " ++ value

/-- The value of an indexed input: the topic itself where that is a hash. -/
def topicReading (r : StructRegistry) (p : Parameter) (topic : String) : String :=
  if p.isHashedTopic then "Bytes.fromHexString(" ++ topic ++ ")"
  else r.conversionText (r.valueType p).text
    ("evm.decode(new EvmDecodeParam('" ++ p.canonicalType ++ "', " ++ topic ++ "))")

/-- The lines that read indexed inputs. -/
def topicReadings (r : StructRegistry) (e : ContractEvent) : List NamedInput → List String
  | [] => []
  | ws =>
    ("    if (topics.length < " ++ toString (ws.length + e.firstTopic)
      ++ ") throw new Error('Invalid topics for event " ++ e.name ++ "')")
    :: ws.mapIdx fun k w =>
      r.declaring w (r.topicReading w.input ("topics[" ++ toString (e.firstTopic + k) ++ "]"))

/-- The line that decodes the data. -/
def dataDecoding (signature : String) : String :=
  "    const decodedData = evm.decode(new EvmDecodeParam('" ++ signature ++ "', data))"

/-- The lines that read inputs in the data. -/
def dataReadings (r : StructRegistry) (e : ContractEvent) : List NamedInput → List String
  | [] => []
  | [w] =>
    [dataDecoding w.input.canonicalType, r.declaring w (r.decodedText w.input "decodedData")]
  | ws =>
    [dataDecoding ("(" ++ ",".intercalate (ws.map fun w => w.input.canonicalType) ++ ")"),
     "    const parts = parseCSVNotNullable(decodedData)",
     "    if (parts.length !== " ++ toString ws.length
       ++ ") throw new Error('Invalid data for event " ++ e.name ++ "')"]
    ++ ws.mapIdx fun j w =>
      r.declaring w (r.decodedText w.input ("parts[" ++ toString j ++ "]"))

/-- The text of an event's class. -/
def eventText (r : StructRegistry) (e : ContractEvent) (name : String) (ws : List NamedInput) :
    String :=
  "export class " ++ name ++ " \x7b\n"
    ++ (if e.anonymous then "" else "  static readonly TOPIC: string = '" ++ e.topic ++ "'\n")
    ++ "".intercalate (ws.map fun w =>
      "  readonly " ++ w.field ++ ": " ++ r.declaredType w.input ++ "\n")
    ++ "\n" ++ "  constructor("
    ++ ", ".intercalate (ws.map fun w => w.variableName ++ ": " ++ r.declaredType w.input)
    ++ ") \x7b\n"
    ++ "".intercalate (ws.map fun w => "    this." ++ w.field ++ " = " ++ w.variableName ++ "\n")
    ++ "  \x7d\n\n"
    ++ "  static decode(topics: string[], data: string): " ++ name ++ " \x7b\n"
    ++ "\n".intercalate (r.topicReadings e (NamedInput.amongTopics ws)
      ++ r.dataReadings e (NamedInput.inData ws))
    ++ "\n" ++ "    return new " ++ name ++ "("
    ++ ", ".intercalate (ws.map NamedInput.variableName) ++ ")\n  \x7d\n\x7d"

end StructRegistry

namespace EventSource

/-- The number of the topic that a value is read from. -/
def topicNumber? : EventSource → Option Nat
  | hash index => some index
  | topic index _ _ => some index
  | data _ => none

/-- What a value in the data is read from. -/
def dataAccess? : EventSource → Option String
  | data decoding => some decoding.access
  | _ => none

end EventSource

/-- A class decodes an event whose inputs have the given names. -/
structure EventClass.Wired (r : StructRegistry) (e : ContractEvent) (ws : List NamedInput)
    (c : EventClass) : Prop where
  /-- Every input has one field and one variable. -/
  inputs : ws.map NamedInput.input = e.inputs
  fieldsApart : (ws.map NamedInput.field).Nodup
  variablesApart : (ws.map NamedInput.variableName).Nodup
  /-- No variable of an input is one of the decoder's own. -/
  freeOfOwn : ∀ w ∈ ws, w.variableName ∉ ["topics", "data", "decodedData", "parts"]
  /-- Each input is read once. -/
  once : (NamedInput.amongTopics ws ++ NamedInput.inData ws).Perm ws
  /-- A topic holds no more than the hash of an array, of a struct and of a text of any length. -/
  hashes : ∀ w ∈ ws, w.input.isHashedTopic = true ↔ w.input.indexed = true ∧
    (0 < TypeText.depth w.input.typeText ∨ w.input.isTuple = true ∨
      w.input.typeText ∈ ["string", "bytes"])
  /-- The topics are read in turn, and each is among those that the length is tested for. -/
  inTurn : c.fields.filterMap (·.source.topicNumber?) =
    List.range' e.firstTopic (NamedInput.amongTopics ws).length
  inRange : ∀ f ∈ c.fields, ∀ k ∈ f.source.topicNumber?,
    k < (NamedInput.amongTopics ws).length + e.firstTopic
  /-- One input in the data is all of them, and several are their parts in turn. -/
  dataInTurn : c.fields.filterMap (·.source.dataAccess?) =
    if (NamedInput.inData ws).length = 1 then ["decodedData"]
    else (List.range (NamedInput.inData ws).length).map fun j => "parts[" ++ toString j ++ "]"
  text : c.text = r.eventText e c.name ws

/-! ## Names -/

theorem map_zipWith_of_left {α β γ δ : Type} {f : α → β → γ} {g : γ → δ} {h : α → δ}
    (hg : ∀ a b, g (f a b) = h a) {as : List α} {bs : List β} (hlength : as.length = bs.length) :
    (List.zipWith f as bs).map g = as.map h := by
  rw [List.map_zipWith]
  apply List.ext_getElem
  · simp [hlength]
  · intro i _ _
    simp [hg]

theorem map_zipWith_of_right {α β γ : Type} {f : α → β → γ} {g : γ → β}
    (hg : ∀ a b, g (f a b) = b) {as : List α} {bs : List β} (hlength : as.length = bs.length) :
    (List.zipWith f as bs).map g = bs := by
  rw [List.map_zipWith]
  apply List.ext_getElem
  · simp [hlength]
  · intro i _ _
    simp [hg]

theorem map_mapIdx {α β γ : Type} {f : Nat → α → β} {g : β → γ} (as : List α) :
    (as.mapIdx f).map g = as.mapIdx fun i a => g (f i a) := by
  apply List.ext_getElem
  · simp
  · intro i _ _
    simp

namespace ContractEvent

variable (e : ContractEvent)

@[simp] theorem length_namedInputs : e.namedInputs.length = e.inputs.length := by
  simp [namedInputs]

@[simp] theorem map_input_namedInputs : e.namedInputs.map NamedInput.input = e.inputs := by
  rw [← NameScope.property.map_parameter_nameParameters "param" e.inputs]
  unfold namedInputs
  apply map_zipWith_of_left
  · intro _ _
    rfl
  · simp

@[simp] theorem map_field_namedInputs :
    e.namedInputs.map NamedInput.field =
      (NameScope.property.nameParameters "param" e.inputs).map NamedParameter.name := by
  unfold namedInputs
  apply map_zipWith_of_left
  · intro _ _
    rfl
  · simp

@[simp] theorem map_variableName_namedInputs :
    e.namedInputs.map NamedInput.variableName =
      NameScope.bodyLocal.resolve
        ((NameScope.property.nameParameters "param" e.inputs).map NamedParameter.name) := by
  unfold namedInputs
  apply map_zipWith_of_right
  · intro _ _
    rfl
  · simp

theorem nodup_fields_namedInputs : (e.namedInputs.map NamedInput.field).Nodup := by
  rw [map_field_namedInputs, NameScope.map_name_nameParameters]
  exact NameScope.property.nodup_resolve _

theorem nodup_variableNames_namedInputs : (e.namedInputs.map NamedInput.variableName).Nodup := by
  rw [map_variableName_namedInputs]
  exact NameScope.bodyLocal.nodup_resolve _

theorem not_mem_of_mem_namedInputs {w : NamedInput} (h : w ∈ e.namedInputs) :
    w.variableName ∉ ["topics", "data", "decodedData", "parts"] := by
  have hresolved := List.mem_map_of_mem (f := NamedInput.variableName) h
  rw [map_variableName_namedInputs] at hresolved
  have hfree := NameScope.bodyLocal.conflicts_of_mem_resolve hresolved
  have hown : ∀ name ∈ ["topics", "data", "decodedData", "parts"],
      NameScope.bodyLocal.conflicts name = true := by decide +kernel
  intro hmem
  rw [hown _ hmem] at hfree
  exact absurd hfree (by decide)

end ContractEvent

/-! ## Fields -/

theorem Parameter.isArray_iff (p : Parameter) :
    p.isArray = true ↔ 0 < TypeText.depth p.typeText := by
  rw [← p.depth_shape, isArray]
  cases p.shape <;> simp [TypeShape.isArray, TypeShape.depth]

theorem Parameter.isHashedTopic_iff (p : Parameter) :
    p.isHashedTopic = true ↔ p.indexed = true ∧
      (0 < TypeText.depth p.typeText ∨ p.isTuple = true ∨ p.typeText ∈ ["string", "bytes"]) := by
  rw [isHashedTopic, ← isArray_iff]
  simp [or_assoc]

theorem Parameter.indexed_of_isHashedTopic {p : Parameter} (h : p.isHashedTopic = true) :
    p.indexed = true :=
  (p.isHashedTopic_iff.mp h).1

namespace StructRegistry

variable (r : StructRegistry)

theorem text_fieldType (p : Parameter) : (r.fieldType p).text = r.declaredType p := by
  rw [fieldType, declaredType]
  split
  · rfl
  · rfl

theorem fieldType_of_not_isHashedTopic {p : Parameter} (h : p.isHashedTopic = false) :
    r.fieldType p = r.valueType p := by
  rw [fieldType, if_neg (by simp [h])]

theorem fieldType_of_not_indexed {p : Parameter} (h : p.indexed = false) :
    r.fieldType p = r.valueType p := by
  refine r.fieldType_of_not_isHashedTopic ?_
  rw [Parameter.isHashedTopic, h, Bool.false_and]

/-- The source of an indexed input, given the number of its topic. -/
def topicSource (p : Parameter) (index : Nat) : EventSource :=
  if p.isHashedTopic then .hash index
  else .topic index p.canonicalType (r.conversion (r.fieldType p).text)

@[simp] theorem topicNumber?_topicSource (p : Parameter) (index : Nat) :
    (r.topicSource p index).topicNumber? = some index := by
  unfold topicSource
  split <;> rfl

@[simp] theorem dataAccess?_topicSource (p : Parameter) (index : Nat) :
    (r.topicSource p index).dataAccess? = none := by
  unfold topicSource
  split <;> rfl

@[simp] theorem isTopic_topicSource (p : Parameter) (index : Nat) :
    (r.topicSource p index).isTopic = true := by
  unfold topicSource
  split <;> rfl

theorem text_topicSource (p : Parameter) (index : Nat) :
    (r.topicSource p index).text = r.topicReading p ("topics[" ++ toString index ++ "]") := by
  unfold topicSource topicReading
  by_cases hhash : p.isHashedTopic = true
  · rw [if_pos hhash, if_pos hhash]
    rfl
  · have hplain : p.isHashedTopic = false := by simpa using hhash
    rw [if_neg hhash, if_neg hhash, r.fieldType_of_not_isHashedTopic hplain]
    exact r.text_conversion _ _

/-- The source of an input in the data, given what denotes its text. -/
def dataSource (p : Parameter) (access : String) : EventSource :=
  .data (r.decode (r.valueType p) access)

@[simp] theorem dataAccess?_dataSource (p : Parameter) (access : String) :
    (r.dataSource p access).dataAccess? = some access :=
  congrArg some (r.access_decode (r.valueType p) access)

theorem text_dataSource (p : Parameter) (access : String) :
    (r.dataSource p access).text = r.decodedText p access :=
  r.text_decode p access

/-- The field of an input whose value comes from a source. -/
def eventField (w : NamedInput) (source : EventSource) : EventField :=
  { field := w.field, variableName := w.variableName, type := r.fieldType w.input, source }

@[simp] theorem source_eventField (w : NamedInput) (source : EventSource) :
    (r.eventField w source).source = source :=
  rfl

@[simp] theorem field_eventField (w : NamedInput) (source : EventSource) :
    (r.eventField w source).field = w.field :=
  rfl

@[simp] theorem variableName_eventField (w : NamedInput) (source : EventSource) :
    (r.eventField w source).variableName = w.variableName :=
  rfl

@[simp] theorem text_type_eventField (w : NamedInput) (source : EventSource) :
    (r.eventField w source).type.text = r.declaredType w.input :=
  r.text_fieldType w.input

theorem declaration_eventField (w : NamedInput) (source : EventSource) :
    (r.eventField w source).declaration = r.declaring w source.text := by
  unfold declaring
  rw [← text_fieldType]
  rfl

theorem declarations_mapIdx (ws : List NamedInput) (source : Nat → NamedInput → EventSource) :
    (ws.mapIdx fun k w => r.eventField w (source k w)).map EventField.declaration =
      ws.mapIdx fun k w => r.declaring w (source k w).text := by
  rw [map_mapIdx]
  simp only [declaration_eventField]

/-- The fields of named inputs; `topic` and `position` number the topics and the parts of the data
from there on. -/
def eventFields (shared : Bool) (topic position : Nat) (ws : List NamedInput) : List EventField :=
  List.zipWith r.eventField ws (r.eventSources shared topic position (ws.map NamedInput.input))

theorem fields_eventClass (e : ContractEvent) (name : String) :
    (r.eventClass e name).fields =
      r.eventFields (1 < e.dataInputs.length) e.firstTopic 0 e.namedInputs := by
  unfold eventClass eventFields ContractEvent.firstTopic
  rw [ContractEvent.map_input_namedInputs]
  apply List.ext_getElem
  · simp
  · intro i _ _
    simp [ContractEvent.namedInputs, eventField]

variable (shared : Bool) (topic position : Nat) {w : NamedInput} (ws : List NamedInput)

theorem eventFields_cons_of_indexed (h : w.input.indexed = true) :
    r.eventFields shared topic position (w :: ws) =
      r.eventField w (r.topicSource w.input topic)
        :: r.eventFields shared (topic + 1) position ws := by
  unfold eventFields
  rw [List.map_cons, eventSources, topicSource]
  by_cases hhash : w.input.isHashedTopic = true
  · rw [if_pos hhash, if_pos hhash, List.zipWith_cons_cons]
  · rw [if_neg hhash, if_neg hhash, if_pos h, List.zipWith_cons_cons]

theorem eventFields_cons_of_not_indexed (h : w.input.indexed = false) :
    r.eventFields shared topic position (w :: ws) =
      r.eventField w (r.dataSource w.input (if shared then partText position else "decodedData"))
        :: r.eventFields shared topic (position + 1) ws := by
  have hhash : ¬w.input.isHashedTopic = true := fun hhash => by
    simp [Parameter.indexed_of_isHashedTopic hhash] at h
  unfold eventFields
  rw [List.map_cons, eventSources, if_neg hhash, if_neg (by simp [h]), List.zipWith_cons_cons,
    r.fieldType_of_not_indexed h, dataSource]

theorem filter_isTopic_eventFields :
    (r.eventFields shared topic position ws).filter (·.source.isTopic) =
      (NamedInput.amongTopics ws).mapIdx fun k w =>
        r.eventField w (r.topicSource w.input (topic + k)) := by
  -- from any topic on: an indexed input takes it and leaves the next one to those behind
  induction ws generalizing topic position with
  | nil => rfl
  | cons w ws ih =>
    cases hindexed : w.input.indexed with
    | true =>
      have hshift (k : Nat) : topic + 1 + k = topic + (k + 1) := by omega
      rw [r.eventFields_cons_of_indexed _ _ _ _ hindexed,
        List.filter_cons_of_pos (by simp), ih,
        NamedInput.amongTopics_cons_of_indexed ws hindexed, List.mapIdx_cons]
      simp only [hshift, Nat.add_zero]
    | false =>
      rw [r.eventFields_cons_of_not_indexed _ _ _ _ hindexed,
        List.filter_cons_of_neg Bool.false_ne_true, ih,
        NamedInput.amongTopics_cons_of_not_indexed ws hindexed]

theorem filter_not_isTopic_eventFields :
    (r.eventFields shared topic position ws).filter (fun f => !f.source.isTopic) =
      (NamedInput.inData ws).mapIdx fun j w =>
        r.eventField w (r.dataSource w.input
          (if shared then partText (position + j) else "decodedData")) := by
  induction ws generalizing topic position with
  | nil => rfl
  | cons w ws ih =>
    cases hindexed : w.input.indexed with
    | true =>
      rw [r.eventFields_cons_of_indexed _ _ _ _ hindexed,
        List.filter_cons_of_neg (by simp), ih,
        NamedInput.inData_cons_of_indexed ws hindexed]
    | false =>
      have hshift (j : Nat) : position + 1 + j = position + (j + 1) := by omega
      rw [r.eventFields_cons_of_not_indexed _ _ _ _ hindexed, List.filter_cons_of_pos rfl, ih,
        NamedInput.inData_cons_of_not_indexed ws hindexed, List.mapIdx_cons]
      simp only [hshift, Nat.add_zero]

theorem filterMap_topicNumber?_eventFields :
    (r.eventFields shared topic position ws).filterMap (·.source.topicNumber?) =
      List.range' topic (NamedInput.amongTopics ws).length := by
  induction ws generalizing topic position with
  | nil => rfl
  | cons w ws ih =>
    cases hindexed : w.input.indexed with
    | true =>
      rw [r.eventFields_cons_of_indexed _ _ _ _ hindexed,
        List.filterMap_cons_some (b := topic) (by simp), ih,
        NamedInput.amongTopics_cons_of_indexed ws hindexed, List.length_cons, List.range'_succ]
    | false =>
      rw [r.eventFields_cons_of_not_indexed _ _ _ _ hindexed, List.filterMap_cons_none rfl, ih,
        NamedInput.amongTopics_cons_of_not_indexed ws hindexed]

theorem filterMap_dataAccess?_eventFields :
    (r.eventFields shared topic position ws).filterMap (·.source.dataAccess?) =
      (List.range' position (NamedInput.inData ws).length).map fun j =>
        if shared then partText j else "decodedData" := by
  induction ws generalizing topic position with
  | nil => rfl
  | cons w ws ih =>
    cases hindexed : w.input.indexed with
    | true =>
      rw [r.eventFields_cons_of_indexed _ _ _ _ hindexed, List.filterMap_cons_none (by simp), ih,
        NamedInput.inData_cons_of_indexed ws hindexed]
    | false =>
      rw [r.eventFields_cons_of_not_indexed _ _ _ _ hindexed, List.filterMap_cons_some
          (b := if shared then partText position else "decodedData") (by simp), ih,
        NamedInput.inData_cons_of_not_indexed ws hindexed, List.length_cons, List.range'_succ,
        List.map_cons]

/-! ## Lines -/

variable (e : ContractEvent) (name : String)

theorem dataInputs_eq_map :
    e.dataInputs = (NamedInput.inData e.namedInputs).map NamedInput.input := by
  rw [ContractEvent.dataInputs, ← e.map_input_namedInputs, List.filter_map]
  rfl

theorem firstTopic_eventClass : (r.eventClass e name).firstTopic = e.firstTopic := by
  unfold EventClass.firstTopic ContractEvent.firstTopic eventClass
  cases e.anonymous <;> rfl

theorem topicFields_eventClass :
    (r.eventClass e name).topicFields =
      (NamedInput.amongTopics e.namedInputs).mapIdx fun k w =>
        r.eventField w (r.topicSource w.input (e.firstTopic + k)) := by
  rw [EventClass.topicFields, fields_eventClass, filter_isTopic_eventFields]

theorem dataFields_eventClass :
    (r.eventClass e name).dataFields =
      (NamedInput.inData e.namedInputs).mapIdx fun j w =>
        r.eventField w (r.dataSource w.input
          (if 1 < (NamedInput.inData e.namedInputs).length then partText j
            else "decodedData")) := by
  rw [EventClass.dataFields, fields_eventClass, filter_not_isTopic_eventFields, dataInputs_eq_map,
    List.length_map]
  simp

theorem topicLines_eventClass :
    (r.eventClass e name).topicLines =
      r.topicReadings e (NamedInput.amongTopics e.namedInputs) := by
  unfold EventClass.topicLines
  rw [topicFields_eventClass, firstTopic_eventClass, declarations_mapIdx, List.length_mapIdx]
  simp only [text_topicSource]
  cases NamedInput.amongTopics e.namedInputs with
  | nil => rfl
  | cons w ws =>
    rw [if_neg (by simp), topicReadings]
    · rfl
    · simp

theorem dataSignature_eventClass :
    (r.eventClass e name).dataSignature =
      match NamedInput.inData e.namedInputs with
      | [w] => w.input.canonicalType
      | ws => "(" ++ ",".intercalate (ws.map fun w => w.input.canonicalType) ++ ")" := by
  unfold eventClass
  dsimp only
  rw [dataInputs_eq_map]
  match NamedInput.inData e.namedInputs with
  | [] => rfl
  | [w] => rfl
  | w :: v :: ws =>
    simp only [List.map_cons, tupleSignature, typeList, canonicalTypes_eq_map, List.map_map]
    rfl

theorem dataLines_eventClass :
    (r.eventClass e name).dataLines =
      r.dataReadings e (NamedInput.inData e.namedInputs) := by
  unfold EventClass.dataLines
  dsimp only
  rw [dataFields_eventClass, dataSignature_eventClass, declarations_mapIdx, List.length_mapIdx]
  simp only [text_dataSource]
  -- nothing is in the data, or one input fills them, or several share them
  match NamedInput.inData e.namedInputs with
  | [] => rfl
  | [w] => rfl
  | w :: v :: ws =>
    have hshared : 1 < (w :: v :: ws).length := by simp
    have hone : ¬(w :: v :: ws).length = 1 := by simp
    simp only [if_pos hshared]
    rw [if_neg (by simp), if_neg hone, dataReadings]
    · rfl
    · simp
    · simp

/-! ## The class -/

theorem map_fields_eventClass {α : Type} {g : EventField → α} {h : NamedInput → α}
    (hg : ∀ w source, g (r.eventField w source) = h w) :
    (r.eventClass e name).fields.map g = e.namedInputs.map h := by
  rw [fields_eventClass]
  exact map_zipWith_of_left hg (by simp)

end StructRegistry

theorem Template.fill_eventClass (value : Slot → String) :
    eventClass.fill value =
      "export class " ++ value .className ++ " \x7b\n" ++ value .members ++ "\n"
        ++ "  constructor(" ++ value .constructorParameters ++ ") \x7b\n" ++ value .assignments
        ++ "  \x7d\n\n" ++ "  static decode(topics: string[], data: string): "
        ++ value .className ++ " \x7b\n" ++ value .decodeLines ++ "\n" ++ "    return new "
        ++ value .className ++ "(" ++ value .constructorArguments ++ ")\n  \x7d\n\x7d" := by
  have hend (s : String) : Text.trimEnd (s ++ ")\n  \x7d\n\x7d\n") = s ++ ")\n  \x7d\n\x7d" := by
    have hbrace := ContractClass.trimEnd_append_brace (s ++ ")\n  \x7d")
    simpa [String.append_assoc] using hbrace
  have hnil : "".intercalate [] = "" := rfl
  refine Eq.trans (congrArg Text.trimEnd ?_) (hend _)
  simp only [eventClass, List.map_cons, List.map_nil, pieceText, concat_cons, hnil,
    String.append_assoc, String.append_empty]

/-! ## The statement -/

namespace StructRegistry

variable (r : StructRegistry) (e : ContractEvent) (name : String)

theorem text_eventClass : (r.eventClass e name).text = r.eventText e name e.namedInputs := by
  have hname : (r.eventClass e name).name = name := rfl
  have htopic : (r.eventClass e name).topic? = if e.anonymous then none else some e.topic := rfl
  have hmembers : (r.eventClass e name).fields.map (fun f =>
      "  readonly " ++ f.field ++ ": " ++ f.type.text ++ "\n") = e.namedInputs.map fun w =>
      "  readonly " ++ w.field ++ ": " ++ r.declaredType w.input ++ "\n" :=
    r.map_fields_eventClass e name fun w source => by simp
  have hparameters : (r.eventClass e name).fields.map (fun f =>
      f.variableName ++ ": " ++ f.type.text) = e.namedInputs.map fun w =>
      w.variableName ++ ": " ++ r.declaredType w.input :=
    r.map_fields_eventClass e name fun w source => by simp
  have hassignments : (r.eventClass e name).fields.map (fun f =>
      "    this." ++ f.field ++ " = " ++ f.variableName ++ "\n") = e.namedInputs.map fun w =>
      "    this." ++ w.field ++ " = " ++ w.variableName ++ "\n" :=
    r.map_fields_eventClass e name fun w source => by simp
  have harguments : (r.eventClass e name).fields.map EventField.variableName =
      e.namedInputs.map NamedInput.variableName :=
    r.map_fields_eventClass e name fun w source => rfl
  rw [EventClass.text, Template.fill_eventClass]
  dsimp only
  rw [hname, htopic, hmembers, hparameters, hassignments, harguments, topicLines_eventClass,
    dataLines_eventClass]
  unfold eventText
  cases e.anonymous with
  | true => simp only [if_true, String.append_assoc]
  | false => simp only [Bool.false_eq_true, if_false, String.append_assoc]

theorem topicNumbers_eventClass :
    (r.eventClass e name).fields.filterMap (·.source.topicNumber?) =
      List.range' e.firstTopic (NamedInput.amongTopics e.namedInputs).length := by
  rw [fields_eventClass, filterMap_topicNumber?_eventFields]

theorem dataAccesses_eventClass :
    (r.eventClass e name).fields.filterMap (·.source.dataAccess?) =
      if (NamedInput.inData e.namedInputs).length = 1 then ["decodedData"]
      else (List.range (NamedInput.inData e.namedInputs).length).map fun j =>
        "parts[" ++ toString j ++ "]" := by
  rw [fields_eventClass, filterMap_dataAccess?_eventFields, dataInputs_eq_map, List.length_map]
  generalize (NamedInput.inData e.namedInputs).length = n
  match n with
  | 0 => rfl
  | 1 => rfl
  | n + 2 =>
    have hshared : 1 < n + 2 := by omega
    rw [if_neg (by omega), List.range_eq_range']
    simp only [hshared, decide_true, if_true, partText]

theorem wired_eventClass : (r.eventClass e name).Wired r e e.namedInputs where
  inputs := e.map_input_namedInputs
  fieldsApart := e.nodup_fields_namedInputs
  variablesApart := e.nodup_variableNames_namedInputs
  freeOfOwn _ hw := e.not_mem_of_mem_namedInputs hw
  once := List.filter_append_perm _ _
  hashes w _ := w.input.isHashedTopic_iff
  inTurn := r.topicNumbers_eventClass e name
  inRange f hf k hk := by
    have hread : k ∈ (r.eventClass e name).fields.filterMap (·.source.topicNumber?) :=
      List.mem_filterMap.mpr ⟨f, hf, hk⟩
    rw [topicNumbers_eventClass, List.mem_range'_1] at hread
    omega
  dataInTurn := r.dataAccesses_eventClass e name
  text := r.text_eventClass e name

end StructRegistry

/-- The class of each event of a contract is wired to its inputs. -/
theorem Contract.event_decoders_are_wired (c : Contract) (library name : String) :
    List.Forall₂ (fun e k => k.Wired (c.structs name) e e.namedInputs) c.events
      (c.bindings library name).events := by
  rw [bindings, StructRegistry.eventClasses]
  refine List.forall₂_iff_get.mpr ⟨by simp, fun i _ _ => ?_⟩
  simp only [List.get_eq_getElem, List.getElem_zipWith]
  exact (c.structs name).wired_eventClass _ _

/-- A topic that is a hash behind one that is not, and two values in the data between them. -/
example :
    let swap : ContractEvent :=
      { name := "Swap", anonymous := false
        inputs := [{ name := "sender", typeText := "address", indexed := true },
          { name := "data", typeText := "bytes" },
          { name := "path", typeText := "address[]", indexed := true },
          { name := "ok", typeText := "bool" }] }
    let c := StructRegistry.eventClass {} swap "SwapEvent"
    c.topicLines ++ c.dataLines =
      ["    if (topics.length < 3) throw new Error('Invalid topics for event Swap')",
       "    const sender: Address = "
         ++ "Address.fromString(evm.decode(new EvmDecodeParam('address', topics[1])))",
       "    const path: Bytes = Bytes.fromHexString(topics[2])",
       "    const decodedData = evm.decode(new EvmDecodeParam('(bytes,bool)', data))",
       "    const parts = parseCSVNotNullable(decodedData)",
       "    if (parts.length !== 2) throw new Error('Invalid data for event Swap')",
       "    const data_var: Bytes = Bytes.fromHexString(parts[0])",
       "    const ok: bool = u8.parse(parts[1]) as bool"] := by
  decide +kernel

end AbiBindings
