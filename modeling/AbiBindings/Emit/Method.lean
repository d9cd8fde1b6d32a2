import AbiBindings.Emit.Decoding
import AbiBindings.Emit.Encoding

/-!
# Methods

One method of the contract class for each function. A function that leaves the state alone is
queried at once and its result decoded; any other gives a call to be sent later, with the amount
to pay as a last parameter where the function takes payment.

The names of the parameters are chosen together, the amount included, so that they differ.
-/

namespace AbiBindings

/-- A parameter of emitted code. -/
structure TypedName where
  name : String
  type : ValueType

/-- The parameter as it is declared. -/
def TypedName.text (p : TypedName) : String :=
  p.name ++ ": " ++ p.type.text

/-- What a method does with the data of a call. -/
inductive MethodBody where
  /-- Query, and decode the response where there is one. -/
  | query (returns : ValueType) (response? : Option (String × Decoding))
  /-- Build a call, which pays the amount that the given parameter denotes. -/
  | call (amount? : Option String)

/-- A method of a contract class. -/
structure Method where
  name : String
  /-- The inputs of the function, followed by the amount to pay where there is one. -/
  parameters : List TypedName
  selector : String
  /-- The encoded inputs. -/
  arguments : List Encoding
  body : MethodBody

namespace Method

/-! ## Text -/

/-- The expression for the data of the call: the selector and the encoded arguments. -/
def callData (m : Method) : String :=
  "'" ++ m.selector ++ "'" ++
    if m.arguments.isEmpty then ""
    else " + evm.encode([" ++ ", ".intercalate (m.arguments.map Encoding.text) ++ "])"

/-- The declared type of the result. -/
def resultText (m : Method) : String :=
  match m.body with
  | .query returns _ => "Result<" ++ returns.text ++ ", string>"
  | .call _ => "EvmCallBuilder"

/-- The lines between the braces. -/
def bodyLines (m : Method) : List String :=
  match m.body with
  | .query returns response? =>
    let generic := "<" ++ returns.text ++ ", string>"
    ["    const encodedData = " ++ m.callData,
     "    const response = environment.evmCallQuery(this.address, this.chainId, encodedData, "
       ++ "this.timestamp)",
     "    if (response.isError) return Result.err" ++ generic ++ "(response.error)"]
    ++ (match response? with
      | none => ["    return Result.ok" ++ generic ++ "(true)"]
      | some (signature, decoding) =>
        ["    const decodedResponse = evm.decode(new EvmDecodeParam('" ++ signature
           ++ "', response.value))",
         "    return Result.ok" ++ generic ++ "(" ++ decoding.text ++ ")"])
  | .call amount? =>
    let amount := match amount? with
      | some name => ", " ++ name
      | none => ""
    ["    const encodedData = Bytes.fromHexString(" ++ m.callData ++ ")",
     "    const builder = EvmCallBuilder.forChain(this.chainId).addCall(this.address, encodedData"
       ++ amount ++ ")",
     "    const feeAmount = this.feeAmount",
     "    if (feeAmount !== null) builder.addMaxFee(feeAmount)",
     "    return builder"]

/-- The method as it stands in the class. -/
def text (m : Method) : String :=
  let head := "  " ++ m.name ++ "(" ++ ", ".intercalate (m.parameters.map TypedName.text) ++ "): "
    ++ m.resultText ++ " \x7b"
  "\n".intercalate (head :: m.bodyLines ++ ["  \x7d"])

/-! ## Symbols and warnings -/

/-- The library symbols of what the method does with the data of a call. -/
def bodySymbols (m : Method) : List LibrarySymbol :=
  match m.body with
  | .query returns response? =>
    [.environment, .result] ++ returns.symbols
      ++ (match response? with
        | none => []
        | some (_, decoding) => [.evm, .decodeParam] ++ decoding.symbols)
  | .call _ => [.bytes, .callBuilder]

/-- The library symbols that the method asks for. -/
def symbols (m : Method) : List LibrarySymbol :=
  m.parameters.flatMap (·.type.symbols)
    ++ (if m.arguments.isEmpty then [] else [.evm])
    ++ m.arguments.flatMap Encoding.symbols
    ++ m.bodySymbols

/-- What there is to warn of. -/
def warnings (m : Method) : List Warning :=
  m.parameters.flatMap (·.type.warnings)
    ++ m.arguments.flatMap Encoding.warnings
    ++ (match m.body with
      | .query returns _ => returns.warnings
      | .call _ => [])

end Method

/-! ## The method of a function -/

/-- The amount to pay. -/
def amountParameter : Parameter where
  name := "value"
  typeText := "uint256"

/-- The parameters of a function's method, before they are named. -/
def ContractFunction.methodParameters (f : ContractFunction) : List Parameter :=
  f.inputs ++ (if f.mutability = .payable then [amountParameter] else [])

/-- The names and parameters of a function's method. -/
def ContractFunction.namedParameters (f : ContractFunction) : List NamedParameter :=
  NameScope.parameter.nameParameters "param" f.methodParameters

/-- The canonical text of what a function returns: a single output stands by itself. -/
def ContractFunction.outputSignature (f : ContractFunction) : String :=
  match f.outputs with
  | [output] => output.canonicalType
  | outputs => tupleSignature outputs

/-- What the method of a function does with the data of a call. -/
def StructRegistry.methodBody (r : StructRegistry) (f : ContractFunction) : MethodBody :=
  if f.mutability.isWrite then
    .call ((f.namedParameters.drop f.inputs.length).head?.map NamedParameter.name)
  else
    let returns := r.returnType f
    .query returns
      (if f.outputs.isEmpty then none
       else some (f.outputSignature, r.decode returns "decodedResponse"))

/-- The method of a function under a given name. -/
def StructRegistry.method (r : StructRegistry) (f : ContractFunction) (name : String) : Method where
  name
  parameters := f.namedParameters.map fun p => { name := p.name, type := r.valueType p.parameter }
  selector := f.selector
  arguments := (f.namedParameters.take f.inputs.length).map fun p => p.parameter.encode p.name
  body := r.methodBody f

end AbiBindings
