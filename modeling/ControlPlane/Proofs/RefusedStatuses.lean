import ControlPlane.Proofs.Classification
import ControlPlane.Proofs.SmallControlPlane

/-!
# Statuses that refuse the caller

With the HTTP statuses 401 and 403 a server turns its caller away (`Refuses`), and a probe takes
that for an answer: who may not list the root's domains is a plain user, and who may not list
accounts learns nothing about his own (`Probe.onRefusal`). An error code in the content comes before
the status, though. A reply that has one of at most 16 bits, other than the four that refuse as well
(`TellsOtherwise`), is an error of the API, with which a probe fails.

Main statement: a reply with such a status is a refusal, to every command and to every probe, if and
only if its content does not tell otherwise (`refusedStatus_isRefusal_iff`).
-/

namespace ControlPlane

namespace Envelope

variable {command : String} {status : Nat} {text : String}

/-- A status turns the caller away. -/
def Refuses (status : Nat) : Prop := status = 401 ∨ status = 403

/-- The content of a reply has an error code that is read and is no refusal, and this reason. -/
inductive TellsOtherwise (command text : String) (code : Nat) (reason : String) : Prop
  | intro {body inner : Json} (hbody : Json.parse text = some body)
      (hinner : IsContent command body inner) (hcode : HasCode inner code) (hsmall : code ≤ 65535)
      (hother : ¬ (code = 401 ∨ code = 403 ∨ code = 432 ∨ code = 531))
      (hreason : HasReason inner reason)

theorem not_succeeds_of_refuses (h : Refuses status) : ¬ Succeeds status := by
  rintro ⟨-, hlt⟩
  rcases h with rfl | rfl
  · exact absurd hlt (by decide)
  · exact absurd hlt (by decide)

/-- The code that a content tells comes before every status. -/
theorem decode_of_tellsOtherwise {code : Nat} {reason : String}
    (h : TellsOtherwise command text code reason) (status : Nat) :
    decode command status text = .error (.api command code reason) := by
  cases h with
  | intro hbody hinner hcode hsmall hother hreason =>
    exact decode_of_reads (.coded hbody hinner hcode hsmall hreason (.other hother))

theorem eq_unauthorized_of_isCoded (h : Refuses status) {reason : String} {error : ClientError}
    (hcoded : ClientError.IsCoded command status reason error) :
    error = .unauthorized command status reason := by
  cases hcoded with
  | refused => rfl
  | other hother =>
    exact absurd (h.elim .inl fun h => .inr (.inl h)) hother

/-- Unless the content tells otherwise, a status that turns the caller away is a refusal. -/
theorem exists_unauthorized_of_refuses (h : Refuses status)
    (hnot : ∀ code reason, ¬ TellsOtherwise command text code reason) :
    ∃ code reason, decode command status text = .error (.unauthorized command code reason) := by
  have hbad := not_succeeds_of_refuses h
  have hreads := reads_decode command status text
  generalize decode command status text = result at hreads ⊢
  cases hreads with
  | accepted _ _ _ hstatus _ | noObject _ _ _ hstatus _ | noJson _ hstatus =>
    exact absurd hstatus hbad
  | @coded body inner code reason error hbody hinner hcode hsmall hreason herror =>
    cases herror with
    | refused => exact ⟨code, reason, rfl⟩
    | other hother =>
      exact absurd ⟨hbody, hinner, hcode, hsmall, hother, hreason⟩ (hnot code reason)
  | overlong _ _ _ _ _ herror | refused _ _ _ _ herror | refusedText _ _ herror =>
    exact ⟨status, _, congrArg _ (eq_unauthorized_of_isCoded h herror)⟩

end Envelope

namespace Connection

variable {α : Type} {connection : Connection} {call : Call α} {delivery : Delivery} {status : Nat}
  {text : String}

/-- Of the one exchange of a call, the reply is decoded. -/
theorem reply_of_mem_exchanged {request : Request}
    (h : (⟨request, .reply status text⟩ : Exchange) ∈ connection.exchanged ⟨call, delivery⟩) :
    connection.reply call.toCommand delivery = Envelope.decode call.name status text := by
  rw [exchanged] at h
  rw [reply]
  cases hurl : Url.parse (connection.urlText call.toCommand) with
  | error fault =>
    rw [hurl] at h
    exact absurd h List.not_mem_nil
  | ok url =>
    rw [hurl] at h
    obtain rfl : Delivery.reply status text = delivery :=
      congrArg Exchange.delivery (List.mem_singleton.1 h)
    rfl

/-- An error that decoding gives is what the call comes to. -/
theorem answer_of_decode_error {error : ClientError}
    (hreply : connection.reply call.toCommand delivery = Envelope.decode call.name status text)
    (h : Envelope.decode call.name status text = .error error) :
    connection.answer call delivery = .error error := by
  rw [answer, hreply, h]

end Connection

namespace Probe

open Envelope

variable {σ : Type} {client : Client} {world : World σ} {request : Request} {status : Nat}
  {text : String}

/-- The command that a probe asks with. -/
def command : Probe → String
  | .accountType => "listAccounts"
  | .rootDomain => "listDomains"

/-- What a probe makes of a refusal: the one cannot tell, to the other it means a plain user. -/
def onRefusal : Probe → Option PrivilegeTier
  | .accountType => none
  | .rootDomain => some .user

/-- An error in the reply to its question is what a probe comes to, unless it is a refusal. -/
theorem run_ask_of_error (probe : Probe)
    (hmem : ⟨request, .reply status text⟩ ∈ (ExceptT.run (probe.ask client)).exchanges world)
    {error : ClientError} (herror : decode probe.command status text = .error error) :
    ((probe.ask client).run world).1 = some (excused probe.onRefusal (.error error)) := by
  obtain ⟨attempts, result, world', hconducts, hconsults⟩ := keepsTo_ask client probe σ world
  rw [hconducts.exchanges] at hmem
  rw [Action.run, hconducts.run]
  refine congrArg some ?_
  cases hconsults with
  | unsigned => exact absurd hmem List.not_mem_nil
  | ownAccount hkey delivery =>
    rw [List.flatMap_singleton] at hmem
    have hreply := Connection.reply_of_mem_exchanged hmem
    rw [ownVerdict, Connection.answer_of_decode_error hreply herror]
    rfl
  | rootDomain delivery =>
    rw [List.flatMap_singleton] at hmem
    have hreply := Connection.reply_of_mem_exchanged hmem
    rw [rootVerdict, Connection.answer_of_decode_error hreply herror]
    rfl

/-! ## Refusals by status -/

/-- To every command, a reply with a status that turns the caller away is a refusal if and only if
its content does not tell otherwise; then no probe that is answered so fails. If the content does,
the reply is the error that it tells, and with this error the probe fails. -/
theorem refusedStatus_isRefusal_iff {status : Nat} (h : Refuses status) :
    (∀ command text,
      ((∃ code reason, decode command status text = .error (.unauthorized command code reason)) ↔
        ∀ code reason, ¬ TellsOtherwise command text code reason) ∧
      ∀ code reason, TellsOtherwise command text code reason →
        decode command status text = .error (.api command code reason)) ∧
    ∀ {σ : Type} (client : Client) (probe : Probe) (world : World σ) (request : Request)
        (text : String),
      ⟨request, .reply status text⟩ ∈ (ExceptT.run (probe.ask client)).exchanges world →
        (((probe.ask client).run world).1 = some (.ok probe.onRefusal) ↔
          ∀ code reason, ¬ TellsOtherwise probe.command text code reason) ∧
        ∀ code reason, TellsOtherwise probe.command text code reason →
          ((probe.ask client).run world).1 = some (.error (.api probe.command code reason)) := by
  refine ⟨fun command text => ⟨⟨?_, exists_unauthorized_of_refuses h⟩, ?_⟩, ?_⟩
  · rintro ⟨code, reason, hrefused⟩ other detail htells
    exact absurd ((decode_of_tellsOtherwise htells status).symm.trans hrefused) (by simp)
  · exact fun code reason htells => decode_of_tellsOtherwise htells status
  · intro σ client probe world request text hmem
    have hfails : ∀ code reason, TellsOtherwise probe.command text code reason →
        ((probe.ask client).run world).1 = some (.error (.api probe.command code reason)) :=
      fun code reason htells =>
        run_ask_of_error probe hmem (decode_of_tellsOtherwise htells status)
    refine ⟨⟨?_, ?_⟩, hfails⟩
    · intro hread code reason htells
      exact absurd (hread.symm.trans (hfails code reason htells)) (by simp)
    · intro hnot
      obtain ⟨code, reason, hrefused⟩ := exists_unauthorized_of_refuses h hnot
      exact run_ask_of_error probe hmem hrefused

/-- A server that turns everybody away in plain words. -/
def closedWorld : World Unit :=
  ⟨⟨0⟩, fun _ _ => (⟨.zero, some (401, "unauthorized")⟩, ()), (), .up, fun _ => Fin.last 61, 0,
    []⟩

/-- The server turns a probe away as it does everybody. -/
theorem exists_exchange_closedWorld :
    ∃ request, (⟨request, .reply 401 "unauthorized"⟩ : Exchange) ∈
      (ExceptT.run (rootDomain.ask SmallControlPlane.client)).exchanges closedWorld := by
  obtain ⟨url, hurl, -⟩ := SmallControlPlane.exists_url rootQuery.toCommand
  let request : Request := ⟨url, SmallControlPlane.connection.requestTimeout⟩
  have hsend : SmallControlPlane.connection.Conducts
      (ExceptT.run (SmallControlPlane.connection.send rootQuery.toCommand)) closedWorld
      [⟨rootQuery, .reply 401 "unauthorized"⟩]
      (SmallControlPlane.connection.reply rootQuery.toCommand (.reply 401 "unauthorized"))
      (closedWorld.afterRequest request) := by
    rw [Connection.exceptRun_send hurl, Connection.reply, hurl]
    exact ⟨rfl, by simp [Connection.exchanged, hurl, Dialogue.exchanges]; rfl⟩
  have hexecute := Connection.conducts_execute_of_send rfl hsend
  have hask := conducts_orIfRefused (Connection.conducts_map (Connection.conducts_map hexecute
    Listing.items) fun domains => some (tierOfDomains domains)) (some .user)
  refine ⟨request, hask.exchanges ▸ ?_⟩
  rw [List.flatMap_singleton, Connection.exchanged, hurl]
  exact List.mem_singleton.2 rfl

/-- Turned away without an error code, the caller is taken for a plain user. -/
theorem exists_plain_user :
    Refuses 401 ∧
      (∃ code reason, decode "listDomains" 401 "unauthorized" =
        .error (.unauthorized "listDomains" code reason)) ∧
      ((rootDomain.ask SmallControlPlane.client).run closedWorld).1 = some (.ok (some .user)) := by
  have hnot : ∀ code reason, ¬ TellsOtherwise "listDomains" "unauthorized" code reason := by
    rintro code reason ⟨hbody, -⟩
    have hnone : Json.parse "unauthorized" = none := rfl
    exact absurd (hnone.symm.trans hbody) (by simp)
  obtain ⟨request, hmem⟩ := exists_exchange_closedWorld
  have hrefuses : Refuses 401 := .inl rfl
  exact ⟨hrefuses, ((refusedStatus_isRefusal_iff hrefuses).1 _ _).1.2 hnot,
    ((refusedStatus_isRefusal_iff hrefuses).2 SmallControlPlane.client rootDomain closedWorld _ _
      hmem).1.2 hnot⟩

/-- Turned away with status 401, but with the code of an internal failure in the body, the caller
is not taken for one whom the server refused. -/
theorem exists_refusal_told_otherwise :
    Refuses 401 ∧
      decode "listDomains" 401 "\x7b\"errorcode\":530,\"errortext\":\"internal failure\"\x7d" =
        .error (.api "listDomains" 530 "internal failure") := by
  have hcontent : ∀ {body : Json}, body =
      .obj [("errorcode", .num (.whole 530)), ("errortext", .str "internal failure")] →
        IsContent "listDomains" body body ∧ HasCode body 530 ∧
          HasReason body "internal failure" := by
    rintro _ rfl
    exact ⟨.bare rfl rfl, rfl, .given rfl⟩
  obtain ⟨hinner, hcode, hreason⟩ := hcontent rfl
  exact ⟨.inl rfl, decode_of_tellsOtherwise
    (.intro rfl hinner hcode (by decide) (by decide) hreason) 401⟩

end Probe

end ControlPlane
