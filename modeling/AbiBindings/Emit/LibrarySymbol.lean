/-!
# Symbols of the support library

Emitted code calls a support library through a dozen exported symbols. They are listed in the
order of their names without regard to case, the order in which an import statement names them.
-/

namespace AbiBindings

/-- A symbol that the support library exports. -/
inductive LibrarySymbol where
  | address
  | bigInt
  | bytes
  | chainId
  | environment
  | evm
  | callBuilder
  | decodeParam
  | encodeParam
  | parseCsv
  | result
  | tokenAmount
  deriving DecidableEq

namespace LibrarySymbol

/-- Every symbol, in the order of import statements. -/
def all : List LibrarySymbol :=
  [address, bigInt, bytes, chainId, environment, evm, callBuilder, decodeParam, encodeParam,
   parseCsv, result, tokenAmount]

/-- The exported name. -/
def name : LibrarySymbol → String
  | address => "Address"
  | bigInt => "BigInt"
  | bytes => "Bytes"
  | chainId => "ChainId"
  | environment => "environment"
  | evm => "evm"
  | callBuilder => "EvmCallBuilder"
  | decodeParam => "EvmDecodeParam"
  | encodeParam => "EvmEncodeParam"
  | parseCsv => "parseCSVNotNullable"
  | result => "Result"
  | tokenAmount => "TokenAmount"

/-- The exported names, which are taken in every emitted file. -/
def names : List String :=
  all.map name

/-- Whether the library exports the name. -/
def isExported (s : String) : Bool :=
  names.contains s

end LibrarySymbol

end AbiBindings
