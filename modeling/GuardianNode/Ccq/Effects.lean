import GuardianNode.Ccq.Acceptance

/-! What a call of `validateRequest` changes: the request's signature, only by co-signing, and
the two counters. A rejected request bumps its reason's counter once. The per-chain counter is
untouched when the rejection comes before the per-chain loop, but has already counted the calls
that passed before the rejecting check when it comes inside the loop. -/

namespace GuardianNode.Ccq

variable {Key : Type} (ext : External Key) (env : Environment) (perms : Permissions)
  (signerKey : Option Key) (apiKey : String)

end GuardianNode.Ccq
