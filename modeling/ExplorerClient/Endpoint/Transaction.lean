import ExplorerClient.Endpoint.Basic
import ExplorerClient.Record.Transaction

/-!
# Endpoints of transactions

Transactions are looked up, one or many at a time, and broadcast, one or many at a time. Many are
only broadcast together if neither their number nor the size of one nor the size of the text that
holds them all is too large.
-/

namespace ExplorerClient

open Json

/-- The most transactions looked up in one request (`MAX_TRANSACTIONS_PER_REQUEST`). -/
def maxTransactions : Nat := 20

/-- The most outputs looked up in one request (`MAX_UTXOS_PER_REQUEST`). -/
def maxUtxos : Nat := 20

/-- The most transactions broadcast in one request (`MAX_BROADCAST_TRANSACTIONS`). -/
def maxBroadcastTransactions : Nat := 100

/-- The size of the largest transaction in a broadcast batch, in bytes (`MAX_TRANSACTION_SIZE`). -/
def maxTransactionSize : Nat := 102400

/-- The size of the largest broadcast batch, in bytes (`MAX_BROADCAST_PAYLOAD_SIZE`). -/
def maxBroadcastPayload : Nat := 10485760

/-- What can be asked of transactions: `get_tx_by_hash`, `bulk_tx_details`, `bulk_tx_status`,
`get_raw_tx_hex`, `get_raw_tx_bin`, `get_raw_tx_output_hex`, `get_merkle_proof`, `get_tx_opreturn`,
`get_tx_propagation`, `get_receipt_pdf`, `bulk_spent_outputs`, `broadcast_tx`, `bulk_broadcast`. -/
inductive TransactionQuery where
  | byHash (hash : String)
  | details (txids : List String)
  | statuses (txids : List String)
  | rawHex (hash : String)
  | rawBytes (hash : String)
  | outputHex (hash : String) (index : Nat)
  | merkleProof (hash : String)
  | opReturn (hash : String)
  | propagation (hash : String)
  | receipt (hash : String)
  | spentOutputs (utxos : List Outpoint)
  | broadcast (tx : String)
  | broadcastBatch (txs : List String) (feedback : Bool)

namespace TransactionQuery

/-- The number of bytes that hexadecimal digits stand for; a digit left over needs one as well. -/
def sizeOfHex (hex : String) : Nat := (hex.utf8ByteSize + 1) / 2

/-- The text of a batch. -/
def batchText (txs : List String) : String := (Value.texts txs).render

/-- Refuses a batch that is empty or too large (`broadcast_payload`); `payload` is the size of its
text in bytes. -/
def requireBatch (txs : List String) (payload : Nat) : Except Error Unit := do
  requireCount .transactions maxBroadcastTransactions txs.length
  if txs.any fun tx => maxTransactionSize < sizeOfHex tx then
    throw (.limitExceeded .transactionSize)
  if maxBroadcastPayload < payload then
    throw (.limitExceeded .payloadSize)

/-- Refuses a transaction that is nothing. -/
def requireText (tx : String) : Except Error Unit :=
  if tx = "" then .error .missingRequest else .ok ()

/-- The id in the answer to a broadcast (`clean_txid`). -/
def broadcastId (bytes : ByteArray) : String := Text.unquote (trimmedText bytes)

/-- Looks up many transactions. -/
def bulk (path : List Route.Segment) (txids : List String) : Inquiry :=
  .post (requireCount .transactions maxTransactions txids.length) path
    (Value.object [("txids", .texts txids)]).render

/-- The endpoint of a query. -/
def entry : TransactionQuery → Entry
  | .byHash h => .record TxInfo .transaction (.get ["tx", "hash", .text h])
  | .details ids => .records TxInfo .transaction (bulk ["txs"] ids)
  | .statuses ids => .records TxStatus .transaction (bulk ["txs", "status"] ids)
  | .rawHex h => .trimmed .transaction (.get ["tx", .text h, "hex"])
  | .rawBytes h => .bytes .transaction (.get ["tx", .text h, "bin"])
  | .outputHex h n => .trimmed .transaction (.get ["tx", .text h, "out", .number n, "hex"])
  | .merkleProof h => .value .transaction (.get ["tx", .text h, "proof", "tsc"])
  | .opReturn h => .text .transaction (Inquiry.only .bsv (.get ["tx", .text h, "opreturn"]))
  | .propagation h =>
    .value .transaction (Inquiry.only .bsv (.get ["tx", .text h, "propagation"]))
  | .receipt h => .bytes .transaction (.get ["receipt", .text h])
  | .spentOutputs utxos =>
    .records SpentOutput .transaction (.post (requireCount .utxos maxUtxos utxos.length)
      ["utxos", "spent"]
      (Value.object [("utxos", .array (utxos.map (Record.codec Outpoint).write))]).render)
  | .broadcast tx =>
    let tx := Text.trim tx
    .plain (.broadcast broadcastId) (.post (requireText tx) ["tx", "raw"]
      (Value.object [("txhex", .text tx)]).render)
  | .broadcastBatch txs feedback =>
    let text := batchText txs
    .plain (.broadcast trimmedText) (.post (requireBatch txs text.utf8ByteSize)
      ["tx", "broadcast"] text [("feedback", .bool feedback)])

end TransactionQuery

end ExplorerClient
