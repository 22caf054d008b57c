import ExplorerClient.Json.Record

/-!
# The chain, its nodes and its price

What the service tells of a network as a whole.
-/

namespace ExplorerClient

open Json

/-- The state of the chain. -/
structure ChainInfo where
  chain : String := ""
  blocks : UInt64 := 0
  headers : UInt64 := 0
  bestBlockHash : String := ""
  difficulty : Binary64 := .zero
  medianTime : Int64 := 0
  verificationProgress : Binary64 := .zero
  pruned : Bool := false
  chainwork : String := ""
  deriving DecidableEq

instance : Record ChainInfo where
  blank := {}
  fields := [
    .always "chain" .text (·.chain) fun v r => { r with chain := v },
    .always "blocks" .uint64 (·.blocks) fun v r => { r with blocks := v },
    .always "headers" .uint64 (·.headers) fun v r => { r with headers := v },
    .always "bestblockhash" .text (·.bestBlockHash) fun v r => { r with bestBlockHash := v },
    .always "difficulty" .float (·.difficulty) fun v r => { r with difficulty := v },
    .always "mediantime" .int64 (·.medianTime) fun v r => { r with medianTime := v },
    .always "verificationprogress" .float (·.verificationProgress)
      fun v r => { r with verificationProgress := v },
    .always "pruned" .bool (·.pruned) fun v r => { r with pruned := v },
    .always "chainwork" .text (·.chainwork) fun v r => { r with chainwork := v }]

/-- The last block of a branch of the chain. -/
structure ChainTip where
  height : UInt64 := 0
  hash : String := ""
  branchLength : UInt64 := 0
  status : String := ""
  deriving DecidableEq

instance : Record ChainTip where
  blank := {}
  fields := [
    .always "height" .uint64 (·.height) fun v r => { r with height := v },
    .always "hash" .text (·.hash) fun v r => { r with hash := v },
    .always "branchlen" .uint64 (·.branchLength) fun v r => { r with branchLength := v },
    .always "status" .text (·.status) fun v r => { r with status := v }]

/-- A node that the service is connected to. -/
structure PeerInfo where
  id : Int64 := 0
  address : String := ""
  version : Int64 := 0
  subversion : String := ""
  inbound : Bool := false
  startingHeight : Int64 := 0
  banScore : Int64 := 0
  syncedHeaders : Int64 := 0
  syncedBlocks : Int64 := 0
  deriving DecidableEq

instance : Record PeerInfo where
  blank := {}
  fields := [
    .always "id" .int64 (·.id) fun v r => { r with id := v },
    .always "addr" .text (·.address) fun v r => { r with address := v },
    .always "version" .int64 (·.version) fun v r => { r with version := v },
    .always "subver" .text (·.subversion) fun v r => { r with subversion := v },
    .always "inbound" .bool (·.inbound) fun v r => { r with inbound := v },
    .always "startingheight" .int64 (·.startingHeight) fun v r => { r with startingHeight := v },
    .always "banscore" .int64 (·.banScore) fun v r => { r with banScore := v },
    .always "synced_headers" .int64 (·.syncedHeaders) fun v r => { r with syncedHeaders := v },
    .always "synced_blocks" .int64 (·.syncedBlocks) fun v r => { r with syncedBlocks := v }]

/-- The size of the pool of unconfirmed transactions. -/
structure MempoolInfo where
  size : UInt64 := 0
  bytes : UInt64 := 0
  usage : UInt64 := 0
  maxMempool : UInt64 := 0
  minFee : Binary64 := .zero
  deriving DecidableEq

instance : Record MempoolInfo where
  blank := {}
  fields := [
    .always "size" .uint64 (·.size) fun v r => { r with size := v },
    .always "bytes" .uint64 (·.bytes) fun v r => { r with bytes := v },
    .always "usage" .uint64 (·.usage) fun v r => { r with usage := v },
    .always "maxmempool" .uint64 (·.maxMempool) fun v r => { r with maxMempool := v },
    .always "mempoolminfee" .float (·.minFee) fun v r => { r with minFee := v }]

/-- The price of a coin at some time. -/
structure ExchangeRate where
  currency : String := ""
  rate : Binary64 := .zero
  time : Int64 := 0
  deriving DecidableEq

instance : Record ExchangeRate where
  blank := {}
  fields := [
    .always "currency" .text (·.currency) fun v r => { r with currency := v },
    .always "rate" .float (·.rate) fun v r => { r with rate := v },
    .always "time" .int64 (·.time) fun v r => { r with time := v }]

example : encode (Record.codec ChainTip) {} =
    "\x7b\x22height\x22:0,\x22hash\x22:\x22\x22," ++
      "\x22branchlen\x22:0,\x22status\x22:\x22\x22\x7d" := by
  cbv

end ExplorerClient
