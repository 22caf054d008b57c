import ExplorerClient.Endpoint.Basic
import ExplorerClient.Record.Address

/-!
# Endpoints of addresses and scripts
-/

namespace ExplorerClient

open Json

/-- The most addresses in one request (`MAX_ADDRESSES_PER_REQUEST`). -/
def maxAddresses : Nat := 20

/-- The most scripts in one request (`MAX_SCRIPTS_PER_REQUEST`). -/
def maxScripts : Nat := 20

/-- What can be asked of addresses: `get_address_info`, `get_address_used`,
`get_address_confirmed_balance`, `get_address_unconfirmed_balance`, `get_address_confirmed_history`,
`get_address_unconfirmed_history`, `get_address_confirmed_unspent`,
`get_address_unconfirmed_unspent`, `get_address_statement_pdf`, `bulk_confirmed_balance`,
`bulk_unconfirmed_balance`, `bulk_confirmed_unspent`. -/
inductive AddressQuery where
  | info (address : String)
  | used (address : String)
  | confirmedBalance (address : String)
  | unconfirmedBalance (address : String)
  | confirmedHistory (address : String)
  | unconfirmedHistory (address : String)
  | confirmedUnspent (address : String)
  | unconfirmedUnspent (address : String)
  | statement (address : String)
  | confirmedBalances (addresses : List String)
  | unconfirmedBalances (addresses : List String)
  | confirmedUnspents (addresses : List String)

namespace AddressQuery

/-- Asks about many addresses (`bulk_address_call`). -/
def bulk (path : List Route.Segment) (addresses : List String) : Inquiry :=
  .post (requireCount .addresses maxAddresses addresses.length) path
    (Value.object [("addresses", .texts addresses)]).render

/-- The endpoint of a query. -/
def entry : AddressQuery → Entry
  | .info a => .record AddressInfo .address (.get ["address", .text a, "info"])
  | .used a =>
    .scalar .bool false .address (Inquiry.only .bsv (.get ["address", .text a, "used"]))
  | .confirmedBalance a =>
    .record Balance .address (.get ["address", .text a, "confirmed", "balance"])
  | .unconfirmedBalance a =>
    .record Balance .address (.get ["address", .text a, "unconfirmed", "balance"])
  | .confirmedHistory a =>
    .record HistoryPage .address (.get ["address", .text a, "confirmed", "history"])
  | .unconfirmedHistory a =>
    .record HistoryPage .address (.get ["address", .text a, "unconfirmed", "history"])
  | .confirmedUnspent a =>
    .record UnspentPage .address (.get ["address", .text a, "confirmed", "unspent"])
  | .unconfirmedUnspent a =>
    .record UnspentPage .address (.get ["address", .text a, "unconfirmed", "unspent"])
  | .statement a => .bytes .address (Inquiry.only .bsv (.get ["statement", .text a]))
  | .confirmedBalances as =>
    .records AddressBalance .address (bulk ["addresses", "confirmed", "balance"] as)
  | .unconfirmedBalances as =>
    .records AddressBalance .address (bulk ["addresses", "unconfirmed", "balance"] as)
  | .confirmedUnspents as =>
    .records UnspentPage .address (bulk ["addresses", "confirmed", "unspent"] as)

end AddressQuery

/-- What can be asked of scripts, which are named by their hashes: `get_script_used`,
`get_script_confirmed_history`, `get_script_unconfirmed_history`, `get_script_confirmed_unspent`,
`bulk_script_confirmed_unspent`. -/
inductive ScriptQuery where
  | used (script : String)
  | confirmedHistory (script : String)
  | unconfirmedHistory (script : String)
  | confirmedUnspent (script : String)
  | confirmedUnspents (scripts : List String)

namespace ScriptQuery

/-- The endpoint of a query. -/
def entry : ScriptQuery → Entry
  | .used s =>
    .scalar .bool false .script (Inquiry.only .bsv (.get ["script", .text s, "used"]))
  | .confirmedHistory s =>
    .record HistoryPage .script (.get ["script", .text s, "confirmed", "history"])
  | .unconfirmedHistory s =>
    .record HistoryPage .script (.get ["script", .text s, "unconfirmed", "history"])
  | .confirmedUnspent s =>
    .record UnspentPage .script (.get ["script", .text s, "confirmed", "unspent"])
  | .confirmedUnspents ss =>
    .records UnspentPage .script (.post (requireCount .scripts maxScripts ss.length)
      ["scripts", "confirmed", "unspent"] (Value.object [("scripts", .texts ss)]).render)

end ScriptQuery

end ExplorerClient
