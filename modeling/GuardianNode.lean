import GuardianNode.Common
import GuardianNode.Encoding.Decimal
import GuardianNode.Encoding.Hex
import GuardianNode.Encoding.Base58
import GuardianNode.Ccq.Query
import GuardianNode.Ccq.CallKey
import GuardianNode.Ccq.ValidateRequest
import GuardianNode.Ccq.Authorization
import GuardianNode.Ccq.Acceptance
import GuardianNode.Ccq.Effects
import GuardianNode.Watchers.Forwarder
import GuardianNode.Watchers.Fanin
import GuardianNode.Encoding.Bech32
import GuardianNode.Guardiand.ParseAddress
import GuardianNode.Guardiand.ParseNumbers
import GuardianNode.Guardiand.Templates
import GuardianNode.Watchers.Setup
import GuardianNode.Node.Options
import GuardianNode.Ccq.Listener
import GuardianNode.Query.MockWatchers
