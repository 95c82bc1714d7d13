import GuardianNode.Watchers.Forwarder

/-! `listenForMessages` of the query listener. It reads the response topic, skips what does not
parse or is no signed query response, and logs each response: all of them, or those from
`targetPeerId` when that flag is set. A receive error panics. The loop is a forwarder whose
output is its log. -/

namespace GuardianNode.CcqListener

open GuardianNode.Node

/-- The kinds of `gossipv1.GossipMessage` the listener tells apart. -/
inductive GossipMessage
  | signedQueryResponse (queryResponse signature : List UInt8)
  | other
  deriving DecidableEq

/-- A pubsub envelope: its sender and, when `proto.Unmarshal` succeeds, its message. -/
structure Envelope where
  sender : String
  message : Option GossipMessage
  deriving DecidableEq

/-- One turn of the loop on what `sub.Next(ctx)` returned. -/
def listenStep (targetPeerId : String) : Except String Envelope → Forward
  | .error _ => .exit
  | .ok envelope =>
    match envelope.message with
    | some (.signedQueryResponse _ _) =>
      if targetPeerId ≠ "" ∧ envelope.sender ≠ targetPeerId then .drop else .write
    | _ => .drop

/-- A signed query response from the peer the listener follows, if it follows one. -/
def Envelope.isResponseFrom (targetPeerId : String) (envelope : Envelope) : Bool :=
  (match envelope.message with
    | some (.signedQueryResponse _ _) => true
    | _ => false) && (targetPeerId = "" ∨ envelope.sender = targetPeerId)

theorem listenStep_ne_exit (targetPeerId : String) (r : Except String Envelope) :
    listenStep targetPeerId r ≠ .exit ↔ r.toBool := by
  unfold listenStep
  split
  · simp [Except.toBool]
  · split
    · split_ifs <;> simp [Except.toBool]
    · simp [Except.toBool]

theorem listenForMessages_logs (targetPeerId : String) (rs : List (Except String Envelope)) :
    (Forwarder.run (listenStep targetPeerId) (.init _) rs).written =
      (rs.takeWhile (·.toBool)).filter fun r =>
        match r with
        | .ok envelope => envelope.isResponseFrom targetPeerId
        | .error _ => false := by
  rw [Forwarder.init, Forwarder.run_written_eq, List.nil_append]
  simp only [listenStep_ne_exit, Bool.decide_eq_true]
  congr 1
  funext r
  rcases r with _ | ⟨sender, _ | _ | _⟩ <;> simp [listenStep, Envelope.isResponseFrom]

end GuardianNode.CcqListener
