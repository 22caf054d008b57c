import ExplorerClient.Json.Record

/-!
# Blocks

What the service tells of a block: its header, and the transactions in it or the pages that list
them.
-/

namespace ExplorerClient

open Json

/-- Where the transactions of a large block are listed. -/
structure BlockPages where
  uri : List String := []
  size : UInt64 := 0
  deriving DecidableEq

instance : Record BlockPages where
  blank := {}
  fields := [
    .always "uri" (.list .text) (·.uri) fun v r => { r with uri := v },
    .always "size" .uint64 (·.size) fun v r => { r with size := v }]

/-- A block. -/
structure BlockInfo where
  hash : String := ""
  confirmations : Int64 := 0
  size : UInt64 := 0
  height : UInt64 := 0
  version : Int64 := 0
  versionHex : String := ""
  merkleRoot : String := ""
  txCount : UInt64 := 0
  tx : List String := []
  time : Int64 := 0
  medianTime : Int64 := 0
  nonce : UInt64 := 0
  bits : String := ""
  difficulty : Binary64 := .zero
  chainwork : String := ""
  previousBlockHash : String := ""
  nextBlockHash : String := ""
  pages : Option BlockPages := none
  deriving DecidableEq

instance : Record BlockInfo where
  blank := {}
  fields := [
    .always "hash" .text (·.hash) fun v r => { r with hash := v },
    .always "confirmations" .int64 (·.confirmations) fun v r => { r with confirmations := v },
    .always "size" .uint64 (·.size) fun v r => { r with size := v },
    .always "height" .uint64 (·.height) fun v r => { r with height := v },
    .always "version" .int64 (·.version) fun v r => { r with version := v },
    .always "versionHex" .text (·.versionHex) fun v r => { r with versionHex := v },
    .always "merkleroot" .text (·.merkleRoot) fun v r => { r with merkleRoot := v },
    .always "txcount" .uint64 (·.txCount) fun v r => { r with txCount := v },
    .always "tx" (.list .text) (·.tx) fun v r => { r with tx := v },
    .always "time" .int64 (·.time) fun v r => { r with time := v },
    .always "mediantime" .int64 (·.medianTime) fun v r => { r with medianTime := v },
    .always "nonce" .uint64 (·.nonce) fun v r => { r with nonce := v },
    .always "bits" .text (·.bits) fun v r => { r with bits := v },
    .always "difficulty" .float (·.difficulty) fun v r => { r with difficulty := v },
    .always "chainwork" .text (·.chainwork) fun v r => { r with chainwork := v },
    .always "previousblockhash" .text (·.previousBlockHash)
      fun v r => { r with previousBlockHash := v },
    .always "nextblockhash" .text (·.nextBlockHash) fun v r => { r with nextBlockHash := v },
    .optional "pages" (Record.codec BlockPages) (·.pages) fun v r => { r with pages := v }]

/-- The header of a block. -/
structure BlockHeader where
  hash : String := ""
  confirmations : Int64 := 0
  size : UInt64 := 0
  height : UInt64 := 0
  version : Int64 := 0
  versionHex : String := ""
  merkleRoot : String := ""
  time : Int64 := 0
  medianTime : Int64 := 0
  nonce : UInt64 := 0
  bits : String := ""
  difficulty : Binary64 := .zero
  chainwork : String := ""
  txCount : UInt64 := 0
  previousBlockHash : String := ""
  nextBlockHash : String := ""
  deriving DecidableEq

instance : Record BlockHeader where
  blank := {}
  fields := [
    .always "hash" .text (·.hash) fun v r => { r with hash := v },
    .always "confirmations" .int64 (·.confirmations) fun v r => { r with confirmations := v },
    .always "size" .uint64 (·.size) fun v r => { r with size := v },
    .always "height" .uint64 (·.height) fun v r => { r with height := v },
    .always "version" .int64 (·.version) fun v r => { r with version := v },
    .always "versionHex" .text (·.versionHex) fun v r => { r with versionHex := v },
    .always "merkleroot" .text (·.merkleRoot) fun v r => { r with merkleRoot := v },
    .always "time" .int64 (·.time) fun v r => { r with time := v },
    .always "mediantime" .int64 (·.medianTime) fun v r => { r with medianTime := v },
    .always "nonce" .uint64 (·.nonce) fun v r => { r with nonce := v },
    .always "bits" .text (·.bits) fun v r => { r with bits := v },
    .always "difficulty" .float (·.difficulty) fun v r => { r with difficulty := v },
    .always "chainwork" .text (·.chainwork) fun v r => { r with chainwork := v },
    .always "nTx" .uint64 (·.txCount) fun v r => { r with txCount := v },
    .always "previousblockhash" .text (·.previousBlockHash)
      fun v r => { r with previousBlockHash := v },
    .always "nextblockhash" .text (·.nextBlockHash) fun v r => { r with nextBlockHash := v }]

example : encode (Record.codec BlockPages) {} =
    "\x7b\x22uri\x22:[],\x22size\x22:0\x7d" := by
  cbv

end ExplorerClient
