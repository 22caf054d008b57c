import ExplorerClient.Json.Record

/-!
# Addresses and scripts

What the service tells of an address or a script: its validity, its balance, the transactions that
touch it and the outputs it can spend. Amounts are in the smallest unit of the chain.
-/

namespace ExplorerClient

open Json

/-- Whether a text is an address, and what of it the service watches. -/
structure AddressInfo where
  isValid : Bool := false
  address : String := ""
  scriptPubKey : String := ""
  isMine : Bool := false
  isWatchOnly : Bool := false
  isScript : Bool := false
  deriving DecidableEq

instance : Record AddressInfo where
  blank := {}
  fields := [
    .always "isvalid" .bool (·.isValid) fun v r => { r with isValid := v },
    .always "address" .text (·.address) fun v r => { r with address := v },
    .always "scriptPubKey" .text (·.scriptPubKey) fun v r => { r with scriptPubKey := v },
    .always "ismine" .bool (·.isMine) fun v r => { r with isMine := v },
    .always "iswatchonly" .bool (·.isWatchOnly) fun v r => { r with isWatchOnly := v },
    .always "isscript" .bool (·.isScript) fun v r => { r with isScript := v }]

/-- The balance of an address (`AddressBalance`). -/
structure Balance where
  confirmed : Int64 := 0
  unconfirmed : Int64 := 0
  deriving DecidableEq

instance : Record Balance where
  blank := {}
  fields := [
    .always "confirmed" .int64 (·.confirmed) fun v r => { r with confirmed := v },
    .always "unconfirmed" .int64 (·.unconfirmed) fun v r => { r with unconfirmed := v }]

/-- The balance of one of many addresses (`AddressBalanceRecord`). -/
structure AddressBalance where
  address : String := ""
  confirmed : Int64 := 0
  unconfirmed : Int64 := 0
  error : String := ""
  deriving DecidableEq

instance : Record AddressBalance where
  blank := {}
  fields := [
    .always "address" .text (·.address) fun v r => { r with address := v },
    .always "confirmed" .int64 (·.confirmed) fun v r => { r with confirmed := v },
    .always "unconfirmed" .int64 (·.unconfirmed) fun v r => { r with unconfirmed := v },
    .always "error" .text (·.error) fun v r => { r with error := v }]

/-- A transaction that touches an address or a script (`HistoryRecord`). -/
structure HistoryEntry where
  txHash : String := ""
  height : Int64 := 0
  deriving DecidableEq

instance : Record HistoryEntry where
  blank := {}
  fields := [
    .always "tx_hash" .text (·.txHash) fun v r => { r with txHash := v },
    .always "height" .int64 (·.height) fun v r => { r with height := v }]

/-- A page of the transactions that touch an address or a script (`History`). -/
structure HistoryPage where
  address : String := ""
  script : String := ""
  result : List HistoryEntry := []
  error : String := ""
  /-- Asks for the page after this one. -/
  nextPageToken : Option String := none
  deriving DecidableEq

instance : Record HistoryPage where
  blank := {}
  fields := [
    .always "address" .text (·.address) fun v r => { r with address := v },
    .always "script" .text (·.script) fun v r => { r with script := v },
    .always "result" (.list (Record.codec HistoryEntry)) (·.result)
      fun v r => { r with result := v },
    .always "error" .text (·.error) fun v r => { r with error := v },
    .optional "nextPageToken" .text (·.nextPageToken) fun v r => { r with nextPageToken := v }]

/-- An output that can be spent. -/
structure UnspentOutput where
  height : Int64 := 0
  position : UInt32 := 0
  txHash : String := ""
  value : Int64 := 0
  isSpentInMempoolTx : Bool := false
  status : String := ""
  deriving DecidableEq

instance : Record UnspentOutput where
  blank := {}
  fields := [
    .always "height" .int64 (·.height) fun v r => { r with height := v },
    .always "tx_pos" .uint32 (·.position) fun v r => { r with position := v },
    .always "tx_hash" .text (·.txHash) fun v r => { r with txHash := v },
    .always "value" .int64 (·.value) fun v r => { r with value := v },
    .always "isSpentInMempoolTx" .bool (·.isSpentInMempoolTx)
      fun v r => { r with isSpentInMempoolTx := v },
    .always "status" .text (·.status) fun v r => { r with status := v }]

/-- The outputs that an address or a script can spend (`Unspent`). -/
structure UnspentPage where
  address : String := ""
  script : String := ""
  result : List UnspentOutput := []
  error : String := ""
  deriving DecidableEq

instance : Record UnspentPage where
  blank := {}
  fields := [
    .always "address" .text (·.address) fun v r => { r with address := v },
    .always "script" .text (·.script) fun v r => { r with script := v },
    .always "result" (.list (Record.codec UnspentOutput)) (·.result)
      fun v r => { r with result := v },
    .always "error" .text (·.error) fun v r => { r with error := v }]

example : encode (Record.codec HistoryPage) {} =
    "\x7b\x22address\x22:\x22\x22,\x22script\x22:\x22\x22," ++
      "\x22result\x22:[],\x22error\x22:\x22\x22\x7d" := by
  cbv

end ExplorerClient
