import GuardianNode.Ccq.CallKey

/-! `validateRequest` of the CCQ server: the API key's entry, the co-signature of an unsigned
request, the request's decoding and sanity check, and the loop that looks every call up in the
key's allow-list. The functions it calls in other packages are the fields of `External`. -/

namespace GuardianNode.Ccq

/-- The functions of other packages that `validateRequest` calls. -/
structure External (Key : Type) where
  queryRequestDigest : Environment → List UInt8 → List UInt8
  sign : List UInt8 → Key → Except String (List UInt8)
  unmarshal : List UInt8 → Except String QueryRequest
  validate : QueryRequest → Except String Unit

/-- The reasons `validateRequest` turns a request away for. -/
inductive Rejection
  | invalidApiKey
  | requestNotSigned
  | failedToSignRequest (err : String)
  | failedToUnmarshalRequest (err : String)
  | failedToValidateRequest (err : String)
  | unsupportedQueryType
  | callNotAuthorized (callKey : String)
  deriving DecidableEq

namespace Rejection

/-- The HTTP status each rejecting branch returns. -/
def status : Rejection → Nat
  | invalidApiKey => 403
  | requestNotSigned => 400
  | failedToSignRequest _ => 500
  | failedToUnmarshalRequest _ => 400
  | failedToValidateRequest _ => 400
  | unsupportedQueryType => 400
  | callNotAuthorized _ => 403

/-- The error each rejecting branch returns. -/
def error : Rejection → String
  | invalidApiKey => "invalid api key"
  | requestNotSigned => "request not signed"
  | failedToSignRequest err => "failed to sign request: " ++ err
  | failedToUnmarshalRequest err => "failed to unmarshal request: " ++ err
  | failedToValidateRequest err => "failed to validate request: " ++ err
  | unsupportedQueryType => "unsupported query type"
  | callNotAuthorized callKey => "call \"" ++ callKey ++ "\" not authorized"

/-- The `invalidQueryRequestReceived` label each rejecting branch increments. -/
def label : Rejection → String
  | invalidApiKey => "invalid_api_key"
  | requestNotSigned => "request_not_signed"
  | failedToSignRequest _ => "failed_to_sign_request"
  | failedToUnmarshalRequest _ => "failed_to_unmarshal_request"
  | failedToValidateRequest _ => "failed_to_validate_request"
  | unsupportedQueryType => "unsupported_query_type"
  | callNotAuthorized _ => "call_not_authorized"

end Rejection

/-- Status, error and metrics, as the per-query validators return them. -/
abbrev CheckResult := Nat × Option String × Metrics

/-- A rejecting branch of a validator: peg the metric, return status and error. -/
def Rejection.peg (r : Rejection) (m : Metrics) : CheckResult :=
  (r.status, some r.error, m.incInvalid r.label)

/-- The loop of `validateSolanaAccountQuery` and `validateSolanaPdaQuery`. -/
def validateCalls (permsForUser : PermissionEntry) (callTag : String) (chainId : ChainID) :
    List PublicKey → Metrics → CheckResult
  | [], m => (200, none, m)
  | acct :: accts, m =>
    let key := callKey callTag chainId acct
    if key ∉ permsForUser.allowedCalls then (Rejection.callNotAuthorized key).peg m
    else validateCalls permsForUser callTag chainId accts (m.incCalls chainId)

/-- `validateSolanaAccountQuery`: the call keys of the accounts. -/
def validateSolanaAccountQuery (permsForUser : PermissionEntry) (callTag : String)
    (chainId : ChainID) (q : SolanaAccountQueryRequest) : Metrics → CheckResult :=
  validateCalls permsForUser callTag chainId q.accounts

/-- `validateSolanaPdaQuery`: the call keys of the PDAs' program addresses. -/
def validateSolanaPdaQuery (permsForUser : PermissionEntry) (callTag : String)
    (chainId : ChainID) (q : SolanaPdaQueryRequest) : Metrics → CheckResult :=
  validateCalls permsForUser callTag chainId (q.pdas.map (·.programAddress))

/-- The loop over `queryRequest.PerChainQueries`. -/
def validatePerChainQueries (permsForUser : PermissionEntry) :
    List PerChainQueryRequest → Metrics → CheckResult
  | [], m => (200, none, m)
  | pcq :: pcqs, m =>
    let (status, err, m) := match pcq.query with
      | .solanaAccount q => validateSolanaAccountQuery permsForUser "solAccount" pcq.chainId q m
      | .solanaPda q => validateSolanaPdaQuery permsForUser "solPDA" pcq.chainId q m
      | _ => Rejection.unsupportedQueryType.peg m
    if err.isSome then (status, err, m) else validatePerChainQueries permsForUser pcqs m

/-- What `validateRequest` returns, with the request as the call leaves it and the metrics. -/
structure Validated where
  status : Nat
  query : Option QueryRequest
  err : Option String
  request : SignedQueryRequest
  metrics : Metrics

/-- A rejecting branch of `validateRequest`. -/
def Rejection.reject (r : Rejection) (qr : SignedQueryRequest) (m : Metrics) : Validated :=
  ⟨r.status, none, some r.error, qr, m.incInvalid r.label⟩

variable {Key : Type} (ext : External Key)

/-- Lines 25–54 of `validateRequest`. A failed `Sign` leaves the signature `nil`. -/
def authenticate (env : Environment) (perms : Permissions) (signerKey : Option Key)
    (apiKey : String) (qr : SignedQueryRequest) :
    Except (Rejection × SignedQueryRequest) (PermissionEntry × SignedQueryRequest) :=
  match perms.getUserEntry apiKey with
  | none => .error (.invalidApiKey, qr)
  | some permsForUser =>
    if qr.signature = [] then
      match permsForUser.allowUnsigned, signerKey with
      | true, some key =>
        match ext.sign (ext.queryRequestDigest env qr.queryRequest) key with
        | .error err => .error (.failedToSignRequest err, { qr with signature := [] })
        | .ok sig => .ok (permsForUser, { qr with signature := sig })
      | _, _ => .error (.requestNotSigned, qr)
    else .ok (permsForUser, qr)

/-- Lines 56–93 of `validateRequest`: unmarshal, `Validate`, then the per-chain loop. -/
def checkQueryRequest (permsForUser : PermissionEntry) (qr : SignedQueryRequest)
    (m : Metrics) : Validated :=
  match ext.unmarshal qr.queryRequest with
  | .error err => (Rejection.failedToUnmarshalRequest err).reject qr m
  | .ok queryRequest =>
    match ext.validate queryRequest with
    | .error err => (Rejection.failedToValidateRequest err).reject qr m
    | .ok () =>
      match validatePerChainQueries permsForUser queryRequest.perChainQueries m with
      | (status, some err, m) => ⟨status, none, some err, qr, m⟩
      | (_, none, m) => ⟨200, some queryRequest, none, qr, m⟩

/-- `validateRequest`. -/
def validateRequest (env : Environment) (perms : Permissions) (signerKey : Option Key)
    (apiKey : String) (qr : SignedQueryRequest) (m : Metrics) : Validated :=
  match authenticate ext env perms signerKey apiKey qr with
  | .error (r, qr) => r.reject qr m
  | .ok (permsForUser, qr) => checkQueryRequest ext permsForUser qr m

end GuardianNode.Ccq
