import ControlPlane.Proofs.ParallelBatches
import ControlPlane.Proofs.ParallelClients
import ControlPlane.Proofs.SignatureValues

/-!
# Connections with other secrets

Two connections may differ in the secret they sign with and in the password they keep
(`Connection.SameButSecrets`). The password is never sent, and the secret goes into the signature
only: the URLs of a command are the same up to its value (`Connection.urls_upToSignature`). If a
server does not look at that value, the two connections cannot be told apart by what they send and
by what comes back, and an error that echoes a URL is the same up to the signature in it
(`Connection.sendsAlike_of_sameButSecrets`).
-/

namespace ControlPlane

open Signing

/-- Requests that differ in the value of a signature, and replies that do not differ. -/
def Likeness.signed : Likeness := ⟨Url.UpToSignature, Eq⟩

/-- A server whose replies do not depend on the values of signatures, however many requests it has
answered. -/
def World.IgnoresSignatures {σ : Type} (world : World σ) : Prop :=
  ∀ urls urls', List.Forall₂ Url.UpToSignature urls urls' →
    Server.answers world.server world.state urls = Server.answers world.server world.state urls'

theorem Likeness.signed_answers (answer : Answer) : Likeness.signed.Answers answer answer := by
  rcases answer with ⟨delay, _ | ⟨status, body⟩⟩
  · exact .nothing delay
  · exact .reply delay status rfl

/-- A world that ignores signatures is like itself. -/
theorem World.alike_of_ignoresSignatures {σ : Type} {world : World σ}
    (h : world.IgnoresSignatures) : world.Alike Likeness.signed world where
  clock := rfl
  link := rfl
  letters := rfl
  drawn := rfl
  answers urls urls' hurls := by
    rw [h urls urls' hurls]
    exact List.forall₂_same.2 fun answer _ => Likeness.signed_answers answer
  arrivals := List.forall₂_same.2 fun arrival _ => .before arrival

/-! ## Errors that echo a URL -/

namespace ClientError

theorem agree_self (error : ClientError) : error.Agree TextUpToSignature error :=
  ⟨rfl, textUpToSignature_refl _, List.forall₂_same.2 fun _ _ => textUpToSignature_refl _, rfl, rfl,
    rfl, rfl⟩

theorem message_http (failure : TransportFailure) :
    (ClientError.http failure).message = "HTTP error: " ++ failure.message := rfl

theorem message_timeout (detail : String) :
    (ClientError.timeout detail).message = "Timed out: " ++ detail := rfl

variable {url url' : String} (h : TextUpToSignature url url')
include h

theorem textUpToSignature_sending : TextUpToSignature (TransportFailure.sendingMessage url)
    (TransportFailure.sendingMessage url') :=
  h.inside "error sending request for url (" ")"

theorem agree_timeout (command : String) :
    (ClientError.timeout (command ++ ": " ++ TransportFailure.sendingMessage url)).Agree
      TextUpToSignature
      (.timeout (command ++ ": " ++ TransportFailure.sendingMessage url')) := by
  refine ⟨rfl, ?_, .nil, rfl, rfl, rfl, rfl⟩
  have hinside := (textUpToSignature_sending h).inside ("Timed out: " ++ (command ++ ": ")) ""
  simpa only [message_timeout, String.append_empty, String.append_assoc] using hinside

/-- A request that failed on the way echoes its URL in the same words. -/
theorem agree_http {failure failure' : TransportFailure}
    (hmessage : failure.message = TransportFailure.sendingMessage url)
    (hmessage' : failure'.message = TransportFailure.sendingMessage url')
    (hcauses : failure.causes = failure'.causes) :
    (ClientError.http failure).Agree TextUpToSignature (.http failure') := by
  have hsending := textUpToSignature_sending h
  refine ⟨rfl, ?_, ?_, rfl, rfl, rfl, rfl⟩
  · rw [message_http, message_http, hmessage, hmessage']
    simpa only [String.append_empty] using hsending.inside "HTTP error: " ""
  · rw [causes, causes, hmessage, hmessage', hcauses]
    exact .cons hsending (List.forall₂_same.2 fun _ _ => textUpToSignature_refl _)

end ClientError

/-! ## Sending with other secrets -/

/-- The same credentials up to the secret. -/
inductive Credentials.SameButSecret : Credentials → Credentials → Prop
  | integration : SameButSecret .integration .integration
  | keys (apiKey secret secret' : String) :
    SameButSecret (.keys ⟨apiKey, secret⟩) (.keys ⟨apiKey, secret'⟩)

namespace Credentials

variable {credentials credentials' : Credentials} (h : credentials.SameButSecret credentials')
include h

theorem SameButSecret.apiKey? : credentials.apiKey? = credentials'.apiKey? := by
  cases h <;> rfl

theorem SameButSecret.description : credentials.description = credentials'.description := by
  cases h <;> rfl

end Credentials

namespace Connection

/-- The same connection up to the secret and the password. -/
structure SameButSecrets (connection connection' : Connection) : Prop where
  endpoint : connection.endpoint = connection'.endpoint
  credentials : connection.credentials.SameButSecret connection'.credentials
  username : connection.username = connection'.username
  requestTimeout : connection.requestTimeout = connection'.requestTimeout
  asyncTimeout : connection.asyncTimeout = connection'.asyncTimeout
  pollInterval : connection.pollInterval = connection'.pollInterval

variable {connection connection' : Connection} (h : connection.SameButSecrets connection')
include h

theorem SameButSecrets.apiKey? : connection.apiKey? = connection'.apiKey? :=
  h.credentials.apiKey?

/-- What is shown of a connection does not depend on its secrets. -/
theorem SameButSecrets.description : connection.description = connection'.description := by
  unfold Connection.description
  rw [h.endpoint, h.credentials.description, h.username, h.asyncTimeout]

theorem SameButSecrets.withKeys (pair : KeyPair) :
    (connection.withKeys pair).SameButSecrets (connection'.withKeys pair) :=
  { h with credentials := .keys _ _ _ }

/-- The URLs of a command are the same up to the value of the signature; if it has no URL, then for
the same reason. -/
theorem urls_upToSignature (command : Command) :
    (∃ fault, Url.parse (connection.urlText command) = .error fault ∧
      Url.parse (connection'.urlText command) = .error fault) ∨
    ∃ url url', Url.parse (connection.urlText command) = .ok url ∧
      Url.parse (connection'.urlText command) = .ok url' ∧ url.UpToSignature url' := by
  have hcredentials := h.credentials
  rw [urlText, urlText, h.endpoint]
  generalize connection.credentials = credentials at hcredentials
  generalize connection'.credentials = credentials' at hcredentials
  cases hcredentials with
  | integration =>
    cases Url.parse (connection'.endpoint ++ "?" ++ query .integration command) with
    | error fault => exact Or.inl ⟨fault, rfl, rfl⟩
    | ok url => exact Or.inr ⟨url, url, rfl, rfl, Url.upToSignature_refl url⟩
  | keys apiKey secret secret' =>
    -- the secret only goes into the value at the end, which is percent-encoded
    refine Url.parse_append_signature _ _ ?_ ?_
    all_goals
      intro c hc
      rw [Url.encodeString, String.toList_ofList] at hc
      exact isValueChar_encodeComponent hc

omit h in
/-- A request that found no way out does so whatever the signature. -/
theorem agree_stranded {url url' : Url} (hurl : url.UpToSignature url') :
    (ClientError.http (World.stranded url)).Agree TextUpToSignature
      (.http (World.stranded url')) := by
  have htext := Url.upToSignature_text hurl
  rw [World.stranded, World.stranded, hurl.host]
  split
  · exact ClientError.agree_http htext rfl rfl rfl
  · exact ClientError.agree_http htext rfl rfl rfl

omit h in
/-- Requests that end alike come to the same body, or to errors that agree up to a signature. -/
theorem results_receive (command : Command) {url url' : Url} (hurl : url.UpToSignature url')
    {delivery delivery' : Delivery} (h : Likeness.signed.Delivers url url' delivery delivery') :
    Results (ClientError.Agree TextUpToSignature) Eq (receive command url delivery)
      (receive command url' delivery') := by
  have htext := Url.upToSignature_text hurl
  cases h with
  | @reply status body body' hbody =>
    obtain rfl : body = body' := hbody
    rw [receive, receive]
    cases Envelope.decode command.name status body with
    | ok value => exact .ok rfl
    | error error => exact .error error.agree_self
  | late => exact .error (ClientError.agree_timeout htext command.name)
  | stranded => exact .error (agree_stranded hurl)
  | closedEarly => exact .error (ClientError.agree_http htext rfl rfl rfl)

/-- Connections that differ in secrets only send alike. -/
theorem sendsAlike_of_sameButSecrets :
    connection.SendsAlike Likeness.signed (ClientError.Agree TextUpToSignature) connection' where
  same := ClientError.agree_self
  asyncTimeout := h.asyncTimeout
  pollInterval := h.pollInterval
  send command := by
    rcases urls_upToSignature h command with
      ⟨fault, hfault, hfault'⟩ | ⟨url, url', hurl, hurl', hsame⟩
    · rw [send, send, hfault, hfault']
      exact Action.alike_throw (ClientError.agree_self _)
    · rw [Action.Alike, exceptRun_send hurl, exceptRun_send hurl', ← h.requestTimeout]
      exact .send hsame rfl fun delivery delivery' hdelivery =>
        .done (results_receive command hsame hdelivery)

end Connection

end ControlPlane
