import ExplorerClient.Endpoint.Basic
import ExplorerClient.Record.Network

/-!
# Endpoints of a network as a whole
-/

namespace ExplorerClient

open Json

/-- What can be asked of a network as a whole: `get_health`, `get_chain_info`, `get_chain_tips`,
`get_circulating_supply`, `get_peer_info`, `get_mempool_info`, `get_mempool_transactions`,
`get_exchange_rate`, `get_historical_exchange_rate`. -/
inductive NetworkQuery where
  /-- A line that tells whether the service is up. -/
  | health
  | chainInfo
  | chainTips
  /-- The coins in circulation. -/
  | circulatingSupply
  | peers
  | mempoolInfo
  | mempoolTransactions
  | exchangeRate
  /-- The prices between two times, in seconds of the epoch. -/
  | historicalRates (first last : Int)

/-- What the service says when it is up. -/
def healthy : String := "Whats On Chain"

namespace NetworkQuery

/-- Refuses a range that ends before it starts. -/
def requireRange (first last : Int) : Except Error Unit :=
  if last < first then
    .error (.badRequest
      ("range start " ++ Int.repr first ++ " is after range end " ++ Int.repr last))
  else .ok ()

/-- The endpoint of a query. -/
def entry : NetworkQuery → Entry
  | .health => .plain (.plain trimmedText) (.get ["woc"])
  | .chainInfo => .record ChainInfo .chainInfo (.get ["chain", "info"])
  | .chainTips => .records ChainTip .chainTips (.get ["chain", "tips"])
  | .circulatingSupply => .scalar .float .zero .chainInfo (.get ["circulatingsupply"])
  | .peers => .records PeerInfo .peerInfo (.get ["peer", "info"])
  | .mempoolInfo => .record MempoolInfo .mempoolInfo (.get ["mempool", "info"])
  | .mempoolTransactions => .list .text .mempoolInfo (.get ["mempool", "raw"])
  | .exchangeRate => .record ExchangeRate .exchangeRate (.get ["exchangerate"])
  | .historicalRates first last =>
    .records ExchangeRate .exchangeRate
      (Inquiry.guarded (requireRange first last)
        (.get ["exchangerate", "historical"] [("from", .number first), ("to", .number last)]))

end NetworkQuery

/-- What can be asked of tokens: `get_token`, `get_tokens`. -/
inductive TokenQuery where
  | token (contract symbol : String)
  | all

/-- The endpoint of a query. -/
def TokenQuery.entry : TokenQuery → Entry
  | .token c s => .value .token (Inquiry.only .bsv (.get ["token", .text c, .text s]))
  | .all => .list .any .token (Inquiry.only .bsv (.get ["tokens"]))

end ExplorerClient
