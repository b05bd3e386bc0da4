import AerialRescue.Contracts.Envelopes

/-!
# Notification admission

What every service does with a notification before its own code sees it: the
topic is parsed, a transport family is refused, the body is decoded and bound
to the topic, and the payload is checked by the schema registry, which is a
parameter.
-/

namespace AerialRescue.Broker

open AerialRescue.Lib.Guard
open AerialRescue.Contracts
open AerialRescue.Contracts.Canonical
open AerialRescue.Contracts.Envelopes
open AerialRescue.Contracts.Topics

/-- `IngressRefusal` -/
inductive IngressRefusal where
  | invalidTopic
  | notNotification
  | invalidEnvelope
  | payloadSchema
deriving DecidableEq

/-- One topic-bound, envelope-bound and schema-validated notification. -/
structure ValidatedNotification where
  topic : Topic
  envelope : Envelope

/-- `_TRANSPORT_FAMILIES` -/
def isTransport : Family → Bool
  | .agentResponse | .gatewayRequest | .gatewayResponse => true
  | _ => false

/-- `validate_notification` -/
def validateNotification (host : Host)
    (schema : String → Value.Members → Bool) (topicText : String)
    (payload : Bytes) : Except IngressRefusal ValidatedNotification := do
  let topic ← recast (fun _ => .invalidTopic) (parseTopic topicText)
  ensure (isTransport topic.family = false) .notNotification
  let envelope ← recast (fun _ => .invalidEnvelope)
    (decodeEnvelope host payload)
  recast (fun _ => .invalidEnvelope) (checkTopicBinding envelope topic)
  ensure (schema envelope.dataschema envelope.data = true) .payloadSchema
  pure ⟨topic, envelope⟩

/-- An admitted notification decodes from its body. -/
theorem validateNotification_decoded {host : Host}
    {schema : String → Value.Members → Bool} {topicText : String}
    {payload : Bytes} {validated : ValidatedNotification}
    (admitted :
      validateNotification host schema topicText payload = .ok validated) :
    decodeEnvelope host payload = .ok validated.envelope := by
  simp only [validateNotification, bind_eq_ok, recast_eq_ok,
    pure_eq_ok] at admitted
  rcases admitted with ⟨_, _, _, _, _, decoded, _, _, _, _, rfl⟩
  exact decoded

end AerialRescue.Broker
