import ExplorerClient.Json.Record

/-!
# Transactions

What the service tells of a transaction: its inputs and outputs, its place in the chain, and which
other transactions spend its outputs. Amounts of outputs are in coins.
-/

namespace ExplorerClient

open Json

/-- The script that opens an output. -/
structure ScriptSig where
  asm : String := ""
  hex : String := ""
  deriving DecidableEq

instance : Record ScriptSig where
  blank := {}
  fields := [
    .always "asm" .text (·.asm) fun v r => { r with asm := v },
    .always "hex" .text (·.hex) fun v r => { r with hex := v }]

/-- An input of a transaction. -/
structure TxInput where
  coinbase : String := ""
  txid : String := ""
  vout : UInt32 := 0
  scriptSig : ScriptSig := {}
  sequence : UInt32 := 0
  deriving DecidableEq

instance : Record TxInput where
  blank := {}
  fields := [
    .always "coinbase" .text (·.coinbase) fun v r => { r with coinbase := v },
    .always "txid" .text (·.txid) fun v r => { r with txid := v },
    .always "vout" .uint32 (·.vout) fun v r => { r with vout := v },
    .always "scriptSig" (Record.codec ScriptSig) (·.scriptSig)
      fun v r => { r with scriptSig := v },
    .always "sequence" .uint32 (·.sequence) fun v r => { r with sequence := v }]

/-- The script that locks an output. -/
structure ScriptPubKey where
  asm : String := ""
  hex : String := ""
  reqSigs : UInt32 := 0
  kind : String := ""
  addresses : List String := []
  isTruncated : Bool := false
  deriving DecidableEq

instance : Record ScriptPubKey where
  blank := {}
  fields := [
    .always "asm" .text (·.asm) fun v r => { r with asm := v },
    .always "hex" .text (·.hex) fun v r => { r with hex := v },
    .always "reqSigs" .uint32 (·.reqSigs) fun v r => { r with reqSigs := v },
    .always "type" .text (·.kind) fun v r => { r with kind := v },
    .always "addresses" (.list .text) (·.addresses) fun v r => { r with addresses := v },
    .always "isTruncated" .bool (·.isTruncated) fun v r => { r with isTruncated := v }]

/-- An output of a transaction. -/
structure TxOutput where
  value : Binary64 := .zero
  index : UInt32 := 0
  scriptPubKey : ScriptPubKey := {}
  deriving DecidableEq

instance : Record TxOutput where
  blank := {}
  fields := [
    .always "value" .float (·.value) fun v r => { r with value := v },
    .always "n" .uint32 (·.index) fun v r => { r with index := v },
    .always "scriptPubKey" (Record.codec ScriptPubKey) (·.scriptPubKey)
      fun v r => { r with scriptPubKey := v }]

/-- A transaction. -/
structure TxInfo where
  txid : String := ""
  hash : String := ""
  version : Int32 := 0
  size : UInt64 := 0
  locktime : UInt32 := 0
  vin : List TxInput := []
  vout : List TxOutput := []
  blockHash : String := ""
  confirmations : UInt64 := 0
  time : Int64 := 0
  blockTime : Int64 := 0
  blockHeight : Int64 := 0
  /-- Why one of many transactions could not be found. -/
  error : String := ""
  deriving DecidableEq

instance : Record TxInfo where
  blank := {}
  fields := [
    .always "txid" .text (·.txid) fun v r => { r with txid := v },
    .always "hash" .text (·.hash) fun v r => { r with hash := v },
    .always "version" .int32 (·.version) fun v r => { r with version := v },
    .always "size" .uint64 (·.size) fun v r => { r with size := v },
    .always "locktime" .uint32 (·.locktime) fun v r => { r with locktime := v },
    .always "vin" (.list (Record.codec TxInput)) (·.vin) fun v r => { r with vin := v },
    .always "vout" (.list (Record.codec TxOutput)) (·.vout) fun v r => { r with vout := v },
    .always "blockhash" .text (·.blockHash) fun v r => { r with blockHash := v },
    .always "confirmations" .uint64 (·.confirmations) fun v r => { r with confirmations := v },
    .always "time" .int64 (·.time) fun v r => { r with time := v },
    .always "blocktime" .int64 (·.blockTime) fun v r => { r with blockTime := v },
    .always "blockheight" .int64 (·.blockHeight) fun v r => { r with blockHeight := v },
    .always "error" .text (·.error) fun v r => { r with error := v }]

/-- The place of a transaction in the chain. -/
structure TxStatus where
  txid : String := ""
  blockHash : String := ""
  blockHeight : Int64 := 0
  blockTime : Int64 := 0
  confirmations : UInt64 := 0
  error : String := ""
  deriving DecidableEq

instance : Record TxStatus where
  blank := {}
  fields := [
    .always "txid" .text (·.txid) fun v r => { r with txid := v },
    .always "blockhash" .text (·.blockHash) fun v r => { r with blockHash := v },
    .always "blockheight" .int64 (·.blockHeight) fun v r => { r with blockHeight := v },
    .always "blocktime" .int64 (·.blockTime) fun v r => { r with blockTime := v },
    .always "confirmations" .uint64 (·.confirmations) fun v r => { r with confirmations := v },
    .always "error" .text (·.error) fun v r => { r with error := v }]

/-- A reference to an output of a transaction. -/
structure Outpoint where
  txid : String := ""
  vout : UInt32 := 0
  deriving DecidableEq

instance : Record Outpoint where
  blank := {}
  fields := [
    .always "txid" .text (·.txid) fun v r => { r with txid := v },
    .always "vout" .uint32 (·.vout) fun v r => { r with vout := v }]

/-- The input that spends an output. -/
structure SpentIn where
  txid : String := ""
  vin : UInt32 := 0
  status : String := ""
  deriving DecidableEq

instance : Record SpentIn where
  blank := {}
  fields := [
    .always "txid" .text (·.txid) fun v r => { r with txid := v },
    .always "vin" .uint32 (·.vin) fun v r => { r with vin := v },
    .always "status" .text (·.status) fun v r => { r with status := v }]

/-- An output, and the input that spends it if there is one (`SpentOutputRecord`). -/
structure SpentOutput where
  utxo : Outpoint := {}
  spentIn : Option SpentIn := none
  error : String := ""
  deriving DecidableEq

instance : Record SpentOutput where
  blank := {}
  fields := [
    .always "utxo" (Record.codec Outpoint) (·.utxo) fun v r => { r with utxo := v },
    .optional "spentIn" (Record.codec SpentIn) (·.spentIn) fun v r => { r with spentIn := v },
    .always "error" .text (·.error) fun v r => { r with error := v }]

/-- What became of one of many broadcast transactions. -/
structure BroadcastFeedback where
  txid : String := ""
  error : String := ""
  deriving DecidableEq

instance : Record BroadcastFeedback where
  blank := {}
  fields := [
    .always "txid" .text (·.txid) fun v r => { r with txid := v },
    .always "error" .text (·.error) fun v r => { r with error := v }]

example : encode (Record.codec Outpoint) {} =
    "\x7b\x22txid\x22:\x22\x22,\x22vout\x22:0\x7d" := by
  cbv

end ExplorerClient
