import GuardianNode.Common
import Mathlib.Logic.Function.Basic

/-! The cross-chain query request as the CCQ server's `validateRequest` sees it: per-chain
queries over a closed set of kinds, the signed envelope, the API keys' permissions and the two
labelled counters it bumps. -/

namespace GuardianNode.Ccq

/-- `query.SolanaPDAEntry`; its seeds are not read by the server's checks. -/
structure SolanaPDAEntry where
  programAddress : PublicKey
  deriving DecidableEq

/-- `query.SolanaAccountQueryRequest`; commitment, slot and data slice are not read. -/
structure SolanaAccountQueryRequest where
  accounts : List PublicKey
  deriving DecidableEq

/-- `query.SolanaPdaQueryRequest`. -/
structure SolanaPdaQueryRequest where
  pdas : List SolanaPDAEntry
  deriving DecidableEq

/-- `query.ChainSpecificQuery`: the query kinds the request format carries. -/
inductive ChainSpecificQuery
  | ethCall
  | ethCallByTimestamp
  | ethCallWithFinality
  | solanaAccount (q : SolanaAccountQueryRequest)
  | solanaPda (q : SolanaPdaQueryRequest)
  deriving DecidableEq

/-- `query.PerChainQueryRequest`. -/
structure PerChainQueryRequest where
  chainId : ChainID
  query : ChainSpecificQuery
  deriving DecidableEq

/-- `query.QueryRequest`. -/
structure QueryRequest where
  nonce : UInt32
  perChainQueries : List PerChainQueryRequest
  deriving DecidableEq

/-- `gossipv1.SignedQueryRequest`. -/
structure SignedQueryRequest where
  queryRequest : List UInt8
  signature : List UInt8
  deriving DecidableEq

/-- `permissionEntry`; `allowedCalls` lists the keys of the set. -/
structure PermissionEntry where
  allowUnsigned : Bool
  allowedCalls : List String

/-- `Permissions`, read through `GetUserEntry`. -/
structure Permissions where
  getUserEntry : String → Option PermissionEntry

/-- The counters `invalidQueryRequestReceived` and `totalRequestedCallsByChain`. -/
structure Metrics where
  invalidQueryRequestReceived : String → Nat
  totalRequestedCallsByChain : ChainID → Nat

/-- `invalidQueryRequestReceived.WithLabelValues(reason).Inc()`. -/
def Metrics.incInvalid (m : Metrics) (reason : String) : Metrics :=
  let v := m.invalidQueryRequestReceived
  { m with invalidQueryRequestReceived := Function.update v reason (v reason + 1) }

/-- `totalRequestedCallsByChain.WithLabelValues(chainId.String()).Inc()`. -/
def Metrics.incCalls (m : Metrics) (chainId : ChainID) : Metrics :=
  let v := m.totalRequestedCallsByChain
  { m with totalRequestedCallsByChain := Function.update v chainId (v chainId + 1) }

@[simp] theorem Metrics.incInvalid_calls (m : Metrics) (reason : String) :
    (m.incInvalid reason).totalRequestedCallsByChain = m.totalRequestedCallsByChain := rfl

end GuardianNode.Ccq
