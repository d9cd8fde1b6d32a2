import AbiBindings.Proofs.Emit.ClassShapes
import AbiBindings.Proofs.Emit.Operands
import AbiBindings.Proofs.Emit.StructsEmitted
import AbiBindings.Proofs.Names.Distinct

/-! # How methods are wired

The amount to pay is put behind the inputs, named together with them and taken off again. Since
names are resolved from the front, the inputs keep the names that they would have without it
(`namedParameters_eq`), and since resolved names differ, no input is called like it
(`nodup_names`). So the list of parameters, the encoded arguments and the selector all follow the
inputs one by one, each argument written from the name and the type of its input
(`callData_method`), and the amount is passed on by itself (`methods_encode_their_inputs`). -/

namespace AbiBindings
set_option autoImplicit false

/-! ## What is to be emitted -/

namespace StructRegistry

variable (r : StructRegistry)

/-- The line that a method begins with: the inputs as parameters, the amount behind them where there
is one, and what the method returns. -/
def methodHead (name : String) (ws : List NamedParameter) (amount? : Option String)
    (result : String) : String :=
  "  " ++ name ++ "(" ++ ", ".intercalate
    (ws.map (fun w => w.name ++ ": " ++ (r.valueType w.parameter).text)
      ++ amount?.toList.map (fun amount => amount ++ ": BigInt")) ++ "): " ++ result ++ " \x7b"

/-- The type of what a function returns: a truth value without outputs, the type of a single output,
or the class of several. -/
def resultText (f : ContractFunction) : String :=
  match f.outputs with
  | [] => "bool"
  | [output] => (r.valueType output).text
  | _ => (r.outputsClass? f).getD "unknown"

/-- The text that reads what a function returns: a single output by itself, several as a struct. -/
def responseText (f : ContractFunction) : String :=
  match f.outputs with
  | [output] => r.decodedText output "decodedResponse"
  | _ => r.conversionText (r.resultText f) "decodedResponse"

end StructRegistry

namespace ContractFunction

/-- The data of a call: what selects the function, and the encoded inputs. -/
def callText (f : ContractFunction) (ws : List NamedParameter) : String :=
  "'" ++ signatureHash 4 f.name (ws.map NamedParameter.parameter) ++ "'" ++
    if ws.isEmpty then ""
    else " + evm.encode(["
      ++ ", ".intercalate (ws.map fun w => w.parameter.encodedText w.name) ++ "])"

/-- The lines that build a call to be sent later. -/
def sendingLines (f : ContractFunction) (ws : List NamedParameter) (amount? : Option String) :
    List String :=
  ["    const encodedData = Bytes.fromHexString(" ++ f.callText ws ++ ")",
   "    const builder = EvmCallBuilder.forChain(this.chainId).addCall("
     ++ ", ".intercalate (["this.address", "encodedData"] ++ amount?.toList) ++ ")",
   "    const feeAmount = this.feeAmount",
   "    if (feeAmount !== null) builder.addMaxFee(feeAmount)",
   "    return builder"]

/-- The canonical text of what comes back: a single output by itself, several as a list. -/
def responseSignature (f : ContractFunction) : String :=
  match f.outputs with
  | [output] => output.canonicalType
  | outputs => "(" ++ ",".intercalate (outputs.map Parameter.canonicalType) ++ ")"

/-- The lines that query at once. -/
def queryingLines (r : StructRegistry) (f : ContractFunction) (ws : List NamedParameter) :
    List String :=
  let generic := "<" ++ r.resultText f ++ ", string>"
  ["    const encodedData = " ++ f.callText ws,
   "    const response = environment.evmCallQuery(this.address, this.chainId, encodedData, "
     ++ "this.timestamp)",
   "    if (response.isError) return Result.err" ++ generic ++ "(response.error)"]
  ++ if f.outputs.isEmpty then ["    return Result.ok" ++ generic ++ "(true)"]
    else
      ["    const decodedResponse = evm.decode(new EvmDecodeParam('" ++ f.responseSignature
         ++ "', response.value))",
       "    return Result.ok" ++ generic ++ "(" ++ r.responseText f ++ ")"]

/-- The text of a function's method. -/
def methodText (r : StructRegistry) (f : ContractFunction) (name : String)
    (ws : List NamedParameter) (amount? : Option String) : String :=
  "\n".intercalate <|
    if f.mutability = .nonpayable ∨ f.mutability = .payable then
      r.methodHead name ws amount? "EvmCallBuilder" :: f.sendingLines ws amount? ++ ["  \x7d"]
    else
      r.methodHead name ws amount? ("Result<" ++ r.resultText f ++ ", string>")
        :: queryingLines r f ws ++ ["  \x7d"]

/-- The function as it would be without payment. -/
def unpaid (f : ContractFunction) : ContractFunction :=
  { f with mutability := .nonpayable }

end ContractFunction

/-- A method encodes the inputs of a function, which have the given names in it, and passes the
amount to pay on where there is one. -/
structure Method.Wired (r : StructRegistry) (f : ContractFunction) (name : String)
    (ws : List NamedParameter) (amount? : Option String) (m : Method) : Prop where
  /-- Every input has one name. -/
  inputs : ws.map NamedParameter.parameter = f.inputs
  namesApart : (ws.map NamedParameter.name ++ amount?.toList).Nodup
  parameters : m.parameters = ws.map (fun w => ⟨w.name, r.valueType w.parameter⟩)
    ++ amount?.toList.map fun amount => ⟨amount, .ofElementary .bigInt⟩
  /-- Without payment the inputs are called the same, and nothing comes behind them. -/
  unpaid : (r.method f.unpaid name).parameters =
    ws.map fun w => ⟨w.name, r.valueType w.parameter⟩
  /-- There is an amount exactly where the function takes payment. -/
  amount : amount?.isSome = true ↔ f.mutability = .payable
  /-- A call is built exactly where the function changes the state; the amount goes with it. -/
  calls : ∀ passed?, m.body = .call passed? ↔
    (f.mutability = .nonpayable ∨ f.mutability = .payable) ∧ passed? = amount?
  /-- Each argument is an input under its own name and type. -/
  operands : m.arguments.map Encoding.operand = ws.map NamedParameter.name
  signatures : m.arguments.map Encoding.signature = ws.map fun w =>
    if w.parameter.isTuple then "()" ++ TypeText.levels w.parameter.typeText
    else w.parameter.canonicalType
  /-- The amount is encoded nowhere. -/
  amountApart : ∀ amount ∈ amount?, ∀ e ∈ m.arguments, amount ∉ e.operands
  selector : m.selector = signatureHash 4 f.name (ws.map NamedParameter.parameter)
  text : m.text = f.methodText r name ws amount?

/-! ## Names -/

namespace ContractFunction

variable (f : ContractFunction)

/-- The inputs, under the names that they have where nothing is to be paid. -/
def namedInputs : List NamedParameter :=
  f.unpaid.namedParameters

/-- The amount to pay under its name, where the function takes payment. -/
def namedAmount? : Option NamedParameter :=
  (f.namedParameters.drop f.inputs.length).head?

theorem namedInputs_eq : f.namedInputs = NameScope.parameter.nameParameters "param" f.inputs := by
  rw [namedInputs, namedParameters, methodParameters, if_neg (by simp [unpaid]), List.append_nil]
  rfl

@[simp] theorem length_namedInputs : f.namedInputs.length = f.inputs.length := by
  rw [namedInputs_eq, NameScope.length_nameParameters]

@[simp] theorem map_parameter_namedInputs :
    f.namedInputs.map NamedParameter.parameter = f.inputs := by
  rw [namedInputs_eq, NameScope.map_parameter_nameParameters]

variable {f}

theorem namedParameters_of_not_payable (h : f.mutability ≠ .payable) :
    f.namedParameters = f.namedInputs := by
  rw [namedParameters, methodParameters, if_neg h, List.append_nil, namedInputs_eq]

theorem exists_namedParameters_of_payable (h : f.mutability = .payable) :
    ∃ a, f.namedParameters = f.namedInputs ++ [a] ∧ a.parameter = amountParameter := by
  -- the names of the inputs are chosen first, so they are a prefix of all names
  obtain ⟨rest, hrest⟩ :=
    NameScope.parameter.nameParameters_prefix "param" f.inputs [amountParameter]
  have hnamed : f.namedParameters = f.namedInputs ++ rest := by
    rw [namedParameters, methodParameters, if_pos h, ← hrest, namedInputs_eq]
  have hparameters := NameScope.parameter.map_parameter_nameParameters "param"
    (f.inputs ++ [amountParameter])
  rw [← hrest, List.map_append, ← namedInputs_eq, map_parameter_namedInputs,
    List.append_cancel_left_eq, List.map_eq_singleton_iff] at hparameters
  obtain ⟨a, rfl, ha⟩ := hparameters
  exact ⟨a, hnamed, ha⟩

variable (f)

theorem namedParameters_eq : f.namedParameters = f.namedInputs ++ f.namedAmount?.toList := by
  rw [namedAmount?]
  by_cases h : f.mutability = .payable
  · obtain ⟨a, hnamed, -⟩ := exists_namedParameters_of_payable h
    simp [hnamed]
  · simp [namedParameters_of_not_payable h]

theorem take_namedParameters : f.namedParameters.take f.inputs.length = f.namedInputs := by
  rw [namedParameters_eq, ← length_namedInputs, List.take_left]

theorem isSome_namedAmount? : f.namedAmount?.isSome = true ↔ f.mutability = .payable := by
  rw [namedAmount?]
  by_cases h : f.mutability = .payable
  · obtain ⟨a, hnamed, -⟩ := exists_namedParameters_of_payable h
    simp [hnamed, h]
  · simp [namedParameters_of_not_payable h, h]

theorem parameter_of_mem_namedAmount? {a : NamedParameter} (ha : a ∈ f.namedAmount?) :
    a.parameter = amountParameter := by
  have hpayable : f.mutability = .payable :=
    f.isSome_namedAmount?.mp (Option.isSome_of_mem ha)
  obtain ⟨b, hnamed, hb⟩ := exists_namedParameters_of_payable hpayable
  obtain rfl : b = a := by simpa [namedAmount?, hnamed] using ha
  exact hb

theorem nodup_names :
    (f.namedInputs.map NamedParameter.name
      ++ (f.namedAmount?.map NamedParameter.name).toList).Nodup := by
  have hnodup : (f.namedParameters.map NamedParameter.name).Nodup := by
    rw [namedParameters, NameScope.map_name_nameParameters]
    exact NameScope.parameter.nodup_resolve _
  rwa [namedParameters_eq, List.map_append, ← Option.toList_map] at hnodup

theorem isNestedParameter_of_mem_namedAmount? {a : NamedParameter} (ha : a ∈ f.namedAmount?) :
    isNestedParameter a.name = false := by
  have hmem : a.name ∈ f.namedParameters.map NamedParameter.name := by
    rw [namedParameters_eq]
    exact List.mem_map_of_mem (List.mem_append_right _ (Option.mem_toList.mpr ha))
  rw [namedParameters, NameScope.map_name_nameParameters] at hmem
  exact NameScope.parameter.isNestedParameter_of_mem_resolve hmem

end ContractFunction

/-! ## Parts of the method -/

theorem Mutability.isWrite_iff {m : Mutability} :
    m.isWrite = true ↔ m = .nonpayable ∨ m = .payable := by
  cases m <;> simp [isWrite]

namespace StructRegistry

variable (r : StructRegistry) (f : ContractFunction) (name : String)

theorem arguments_method :
    (r.method f name).arguments = f.namedInputs.map fun w => w.parameter.encode w.name := by
  rw [method, f.take_namedParameters]

theorem parameters_method :
    (r.method f name).parameters =
      f.namedInputs.map (fun w => ⟨w.name, r.valueType w.parameter⟩)
        ++ (f.namedAmount?.map NamedParameter.name).toList.map
          fun amount => ⟨amount, .ofElementary .bigInt⟩ := by
  have hamount : f.namedAmount?.toList.map
        (fun a => (⟨a.name, r.valueType a.parameter⟩ : TypedName)) =
      (f.namedAmount?.map NamedParameter.name).toList.map
        fun amount => ⟨amount, .ofElementary .bigInt⟩ := by
    rw [Option.toList_map, List.map_map]
    refine List.map_congr_left fun a ha => ?_
    rw [f.parameter_of_mem_namedAmount? (Option.mem_toList.mp ha),
      Contract.valueType_amountParameter]
    rfl
  rw [method, f.namedParameters_eq, List.map_append, hamount]

theorem parameters_method_unpaid :
    (r.method f.unpaid name).parameters =
      f.namedInputs.map fun w => ⟨w.name, r.valueType w.parameter⟩ := by
  have hnone : f.unpaid.namedAmount? = none := by
    rw [← Option.not_isSome_iff_eq_none, f.unpaid.isSome_namedAmount?]
    simp [ContractFunction.unpaid]
  rw [parameters_method, hnone]
  simp [ContractFunction.namedInputs, ContractFunction.unpaid]

theorem body_method (passed? : Option String) :
    (r.method f name).body = .call passed? ↔
      (f.mutability = .nonpayable ∨ f.mutability = .payable) ∧
        passed? = f.namedAmount?.map NamedParameter.name := by
  have hbody : (r.method f name).body = r.methodBody f := rfl
  rw [hbody, methodBody, ← Mutability.isWrite_iff]
  by_cases hwrite : f.mutability.isWrite = true
  · rw [if_pos hwrite, MethodBody.call.injEq]
    exact ⟨fun h => ⟨hwrite, h.symm⟩, fun h => h.2.symm⟩
  · rw [if_neg hwrite]
    exact ⟨fun h => MethodBody.noConfusion h, fun h => absurd h.1 hwrite⟩

theorem amount_not_mem_operands {amount : String}
    (hamount : amount ∈ f.namedAmount?.map NamedParameter.name) {e : Encoding}
    (he : e ∈ (r.method f name).arguments) : amount ∉ e.operands := by
  obtain ⟨a, ha, rfl⟩ := Option.map_eq_some_iff.mp hamount
  rw [arguments_method] at he
  obtain ⟨w, hw, rfl⟩ := List.mem_map.mp he
  intro hmem
  -- what is encoded is an input, whose name differs, or an item, whose name is kept clear of
  rcases TypeShape.eq_or_isItemName_of_mem_operands hmem with heq | hitem
  · have hapart := (List.nodup_append.mp f.nodup_names).2.2 w.name (List.mem_map_of_mem hw) a.name
      (Option.mem_toList.mpr hamount)
    exact hapart heq.symm
  · have hfree := f.isNestedParameter_of_mem_namedAmount? ha
    rw [hitem.isNestedParameter] at hfree
    exact absurd hfree (by decide)

theorem callData_method : (r.method f name).callData = f.callText f.namedInputs := by
  have hencoded : f.namedInputs.map (Encoding.text ∘ fun w => w.parameter.encode w.name) =
      f.namedInputs.map fun w => w.parameter.encodedText w.name :=
    List.map_congr_left fun w _ => w.parameter.text_encode w.name
  rw [Method.callData, arguments_method, ContractFunction.callText,
    f.map_parameter_namedInputs, List.map_map, List.isEmpty_map, hencoded]
  rfl

theorem head_method (result : String) :
    "  " ++ name ++ "(" ++ ", ".intercalate ((r.method f name).parameters.map TypedName.text)
        ++ "): " ++ result ++ " \x7b" =
      r.methodHead name f.namedInputs (f.namedAmount?.map NamedParameter.name) result := by
  have hamount (amount : String) :
      TypedName.text ⟨amount, .ofElementary .bigInt⟩ = amount ++ ": BigInt" := by
    have htype : (ValueType.ofElementary .bigInt).text = "BigInt" := by decide
    rw [TypedName.text, htype, String.append_assoc]
    rfl
  rw [parameters_method, methodHead, List.map_append, List.map_map, List.map_map]
  simp only [Function.comp_def, hamount]
  rfl

theorem bodyLines_of_call {passed? : Option String}
    (h : (r.method f name).body = .call passed?) :
    (r.method f name).bodyLines = f.sendingLines f.namedInputs passed? := by
  rw [Method.bodyLines, h, callData_method, ContractFunction.sendingLines]
  cases passed? with
  | none => rfl
  | some amount =>
    have hcall : ", ".intercalate ["this.address", "encodedData", amount] =
        "this.address, encodedData" ++ (", " ++ amount) := by
      rw [String.intercalate_cons_cons, String.intercalate_cons_cons, String.append_assoc,
        String.append_assoc]
      rfl
    rw [Option.toList_some, List.cons_append, List.cons_append, List.nil_append, hcall]
    rfl

theorem body_of_query (h : ¬(f.mutability = .nonpayable ∨ f.mutability = .payable)) :
    (r.method f name).body = .query (r.returnType f)
      (if f.outputs.isEmpty then none
        else some (f.outputSignature, r.decode (r.returnType f) "decodedResponse")) := by
  rw [← Mutability.isWrite_iff] at h
  have hbody : (r.method f name).body = r.methodBody f := rfl
  rw [hbody, methodBody, if_neg h]

/-- Several outputs make a struct, which is no array, whether it is known or not. -/
theorem returnType_of_several {a b : Parameter} {rest : List Parameter}
    (h : f.outputs = a :: b :: rest) :
    ∃ base : ValueBase, r.returnType f = { base } ∧
      base.name = (r.outputsClass? f).getD "unknown" := by
  rw [returnType, h]
  cases r.outputsClass? f with
  | none => exact ⟨_, rfl, rfl⟩
  | some className => exact ⟨_, rfl, rfl⟩

theorem text_returnType : (r.returnType f).text = r.resultText f := by
  rw [resultText]
  match houtputs : f.outputs with
  | [] =>
    rw [returnType, houtputs]
    exact ValueType.text_ofBase _
  | [output] => rw [returnType, houtputs]
  | _ :: _ :: _ =>
    obtain ⟨base, hreturn, hname⟩ := r.returnType_of_several f houtputs
    rw [hreturn, ValueType.text_ofBase, hname]

theorem text_decode_returnType (hne : f.outputs.isEmpty = false) :
    (r.decode (r.returnType f) "decodedResponse").text = r.responseText f := by
  rw [responseText, ← text_returnType]
  match houtputs : f.outputs with
  | [] => simp [houtputs] at hne
  | [output] =>
    have hreturn : r.returnType f = r.valueType output := by rw [returnType, houtputs]
    rw [hreturn, text_decode]
  | _ :: _ :: _ =>
    obtain ⟨base, hreturn, -⟩ := r.returnType_of_several f houtputs
    rw [hreturn]
    exact r.text_decode_ofBase base "decodedResponse"

theorem outputSignature_eq : f.outputSignature = f.responseSignature := by
  unfold ContractFunction.outputSignature ContractFunction.responseSignature
  match f.outputs with
  | [] => rfl
  | [output] => rfl
  | _ :: _ :: _ => simp only [tupleSignature, typeList, canonicalTypes_eq_map]

theorem bodyLines_of_query (h : ¬(f.mutability = .nonpayable ∨ f.mutability = .payable)) :
    (r.method f name).bodyLines = f.queryingLines r f.namedInputs := by
  rw [Method.bodyLines, r.body_of_query f name h, callData_method, ContractFunction.queryingLines,
    ← text_returnType, ← outputSignature_eq]
  cases hempty : f.outputs.isEmpty with
  | true => rfl
  | false =>
    rw [← r.text_decode_returnType f hempty]
    rfl

theorem text_method :
    (r.method f name).text =
      f.methodText r name f.namedInputs (f.namedAmount?.map NamedParameter.name) := by
  have hname : (r.method f name).name = name := rfl
  rw [Method.text, ContractFunction.methodText, hname, head_method]
  by_cases hwrite : f.mutability = .nonpayable ∨ f.mutability = .payable
  · have hbody := (r.body_method f name _).mpr ⟨hwrite, rfl⟩
    have hresult : (r.method f name).resultText = "EvmCallBuilder" := by
      rw [Method.resultText, hbody]
    rw [if_pos hwrite, r.bodyLines_of_call f name hbody, hresult]
  · have hresult : (r.method f name).resultText =
        "Result<" ++ r.resultText f ++ ", string>" := by
      rw [Method.resultText, r.body_of_query f name hwrite, ← text_returnType]
    rw [if_neg hwrite, r.bodyLines_of_query f name hwrite, hresult]

theorem signatures_method :
    (r.method f name).arguments.map Encoding.signature = f.namedInputs.map fun w =>
      if w.parameter.isTuple then "()" ++ TypeText.levels w.parameter.typeText
      else w.parameter.canonicalType := by
  rw [arguments_method, List.map_map]
  exact List.map_congr_left fun w _ => w.parameter.signature_encode w.name

/-- Inputs that are called like the amount, and like the amount behind an input of its name. -/
example :
    let deposit : ContractFunction :=
      { name := "deposit", mutability := .payable, outputs := []
        inputs := [{ name := "value", typeText := "address" },
          { name := "value_param1", typeText := "uint" }] }
    (StructRegistry.method {} deposit "deposit_1").parameters.map TypedName.text =
      ["value: Address", "value_param1: BigInt", "value_param2: BigInt"] := by
  decide +kernel

end StructRegistry

end AbiBindings
