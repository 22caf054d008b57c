import ExplorerClient.Endpoint.Basic
import ExplorerClient.Record.Block

/-!
# Endpoints of blocks
-/

namespace ExplorerClient

open Json

/-- What can be asked of blocks: `get_block_by_hash`, `get_block_by_height`, `get_block_pages`,
`get_header_by_hash`, `get_headers`, `get_block_stats`, `get_block_stats_by_height`,
`get_miner_block_stats`, `get_block_txids`. -/
inductive BlockQuery where
  | byHash (hash : String)
  | byHeight (height : Nat)
  /-- The transactions on one page of a large block. Pages are counted from 1. -/
  | page (hash : String) (page : Nat)
  | headerByHash (hash : String)
  /-- The headers of the most recent blocks. -/
  | headers
  | statsByHash (hash : String)
  | statsByHeight (height : Nat)
  /-- What the miners did in the last days. -/
  | minerStats (days : Nat)
  | txids (hash : String)

namespace BlockQuery

/-- The endpoint of a query. -/
def entry : BlockQuery → Entry
  | .byHash h => .record BlockInfo .block (.get ["block", "hash", .text h])
  | .byHeight n => .record BlockInfo .block (.get ["block", "height", .number n])
  | .page h n => .list .text .block (.get ["block", "hash", .text h, "page", .number n])
  | .headerByHash h => .record BlockHeader .headers (.get ["block", .text h, "header"])
  | .headers => .records BlockHeader .headers (.get ["block", "headers"])
  | .statsByHash h => .value .stats (.get ["block", "hash", .text h, "stats"])
  | .statsByHeight n => .value .stats (.get ["block", "height", .number n, "stats"])
  | .minerStats d =>
    .list .any .stats
      (Inquiry.only .bsv (.get ["miner", "blocks", "stats"] [("days", .number d)]))
  | .txids h => .list .text .block (Inquiry.only .btc (.get ["block", "hash", .text h, "txids"]))

end BlockQuery

end ExplorerClient
