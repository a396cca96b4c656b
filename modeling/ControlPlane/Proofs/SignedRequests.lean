import ControlPlane.Proofs.ReceivedParameters
import ControlPlane.Proofs.StableOrder

/-!
# Signatures that a server can verify

A connection with keys signs its parameters before they are written in the query; a server
verifies what it has read off the query. Both come to the same text: the parameters arrive as they
were written, the signature is the only one among them that it does not cover, and ordering
parameters by name again changes nothing.

A server may keep what it received in an order of its own, as long as names that agree up to letter
case stay in order: these are the ones whose order the signed text shows.
-/

namespace ControlPlane.Connection

open Signing Url

/-! ## Names of plain characters -/

/-- The characters of the names that callers use: those that need no escape, and the brackets of
the entries of a list. -/
def isPlain (c : Char) : Bool :=
  isUnreserved c || c == '[' || c == ']'

theorem survives_of_isPlain {name : List Char} (h : ∀ c ∈ name, isPlain c = true) :
    Survives name := by
  have hplain : ∀ {c : Char}, isPlain c = true → isUnreserved c = true ∨ c = '[' ∨ c = ']' := by
    intro c hc
    simpa only [isPlain, Bool.or_eq_true, beq_iff_eq, or_assoc] using hc
  refine survives_of_no_percent ?_ ?_
  · intro c hc
    rcases hplain (h c hc) with hc | rfl | rfl
    · exact isBreaker_of_isUnreserved hc
    · decide
    · decide
  · intro hc
    exact absurd (h '%' hc) (by decide)

/-! ## What is sent -/

/-- The parameters that a connection sets itself. -/
def ownParameters (credentials : Credentials) (command : Command) : Parameters :=
  ("command", command.name) :: ("response", "json") ::
    match credentials with
    | .integration => []
    | .keys pair =>
      [("apikey", pair.apiKey),
        ("signature",
          sign (canonicalQuery (parameters command ++ [("apikey", pair.apiKey)])) pair.secretKey)]

theorem name_mem_reserved_of_mem_ownParameters {credentials : Credentials} {command : Command}
    {param : String × String} (h : param ∈ ownParameters credentials command) :
    param.1 ∈ reserved := by
  have hname : param.1 ∈ (ownParameters credentials command).map Prod.fst :=
    List.mem_map_of_mem h
  cases credentials with
  | integration =>
    have hnames : ∀ name ∈ ["command", "response"], name ∈ reserved := by decide
    exact hnames _ hname
  | keys pair => exact hname

/-- A connection sends its own parameters and those of the caller that are not reserved. -/
theorem sentParameters_perm (credentials : Credentials) (command : Command) :
    (sentParameters credentials command).Perm
      (ownParameters credentials command ++ admitted command.params) := by
  cases credentials with
  | integration => exact ordered_perm _
  | keys pair =>
    refine ((ordered_perm _).append_right _).trans ?_
    rw [List.append_assoc]
    exact (List.perm_append_comm.cons _).cons _

/-- A connection's own names survive. -/
theorem survives_of_mem_reserved {name : String} (h : name ∈ reserved) :
    Survives name.toList := by
  have hnames : (reserved.all fun own => own.toList.all isPlain) = true := by decide
  exact survives_of_isPlain (List.all_eq_true.1 (List.all_eq_true.1 hnames name h))

/-- If the names of a caller survive, a server receives what was sent. -/
theorem received_of_survives {credentials : Credentials} {command : Command}
    (h : ∀ param ∈ admitted command.params, Survives param.1.toList) :
    received (sentQuery (written (sentParameters credentials command))) =
      sentParameters credentials command := by
  refine received_sentQuery_written (sentParameters_ne_nil credentials command) ?_
  intro param hparam
  rcases List.mem_append.1 ((sentParameters_perm credentials command).mem_iff.1 hparam) with
    hown | hmem
  · exact survives_of_mem_reserved (name_mem_reserved_of_mem_ownParameters hown)
  · exact h param hmem

/-! ## Verification -/

/-- The signature covers all that is sent but itself. -/
theorem covered_sentParameters (pair : KeyPair) (command : Command) :
    covered (sentParameters (.keys pair) command) =
      ordered (parameters command ++ [("apikey", pair.apiKey)]) := by
  have hnames : "signature" ∉ (parameters command ++ [("apikey", pair.apiKey)]).map Prod.fst := by
    intro hmem
    obtain ⟨value, hvalue⟩ : ∃ value, ("signature", value) ∈ admitted command.params := by
      simpa [parameters] using hmem
    exact (mem_admitted hvalue).2 (show "signature" ∈ reserved by decide)
  have hothers : ∀ param ∈ ordered (parameters command ++ [("apikey", pair.apiKey)]),
      (param.1 != "signature") = true := by
    intro param hparam
    rw [bne_iff_ne]
    intro hname
    exact hnames (List.mem_map.2 ⟨param, (ordered_perm _).mem_iff.1 hparam, hname⟩)
  rw [covered, sentParameters, List.filter_append, List.filter_eq_self.2 hothers]
  simp

/-- Parameters that arrive in another order are verified by the signature that was sent. -/
theorem verify_of_rearranged {pair : KeyPair} {command : Command} {arrived : Parameters}
    (h : Rearranged arrived (sentParameters (.keys pair) command)) :
    verify arrived pair.secretKey
      (sign (canonicalQuery (parameters command ++ [("apikey", pair.apiKey)])) pair.secretKey) =
        true := by
  rw [verify, canonicalQuery_covered_of_rearranged h, covered_sentParameters, beq_iff_eq]
  rw [canonicalQuery, ordered_ordered, ← canonicalQuery]

/-- A server that receives a signed request reads the signed parameters in their order and one
signature, and the signature is verified in whatever order the server keeps what it has read. -/
theorem verify_received (settings : ManagementSettings) (asyncTimeout pollInterval : Duration)
    (pair : KeyPair) (command : Command) {base : Url}
    (hbase : Url.parse settings.endpoint = .ok base)
    (hplain : ∀ c ∈ settings.endpoint.toList, c ≠ '?' ∧ c ≠ '#')
    (hnames : ∀ param ∈ command.params, ∀ c ∈ param.1.toList, isPlain c = true) :
    ∃ url sent signature next,
      ExceptT.run (((ofSettings settings asyncTimeout pollInterval).withKeys pair).send command) =
        .send ⟨url, settings.requestTimeout⟩ next ∧
      url.scheme = base.scheme ∧ url.host = base.host ∧ url.port = base.port ∧
      url.query = some sent ∧
      received sent =
        ordered (("command", command.name) :: ("response", "json") ::
          (admitted command.params ++ [("apikey", pair.apiKey)])) ++ [("signature", signature)] ∧
      ∀ arrived, Rearranged arrived (received sent) →
        verify arrived pair.secretKey signature = true := by
  obtain ⟨url, hsend, hscheme, hhost, hport, hquery⟩ :=
    exists_request ((ofSettings settings asyncTimeout pollInterval).withKeys pair) rfl hbase
      hplain command
  have hreceived : received (sentQuery (written (sentParameters (.keys pair) command))) =
      sentParameters (.keys pair) command := by
    refine received_of_survives ?_
    intro param hparam
    exact survives_of_isPlain (hnames param (mem_admitted hparam).1)
  refine ⟨url, _, _, _, hsend, hscheme, hhost, hport, hquery, hreceived, ?_⟩
  intro arrived harrived
  rw [withKeys, hreceived] at harrived
  exact verify_of_rearranged harrived

/-- A value outside ASCII under the name of an entry of a list, kept in reverse by the server. -/
theorem exists_verified_request :
    ∃ url sent signature next,
      ExceptT.run (((ofSettings { host := "127.0.0.1", port := 8080 } .zero .zero).withKeys
        ⟨"plhqUKt", "Vd8wYq"⟩).send
          ((Command.named "deployVirtualMachine").param "details[0].name" "šířka & délka")) =
        .send ⟨url, .ofSeconds 60⟩ next ∧
      url.query = some sent ∧
      received sent =
        ordered [("command", "deployVirtualMachine"), ("response", "json"),
          ("details[0].name", "šířka & délka"), ("apikey", "plhqUKt")] ++
            [("signature", signature)] ∧
      verify (received sent).reverse "Vd8wYq" signature = true := by
  have hparams :
      ((Command.named "deployVirtualMachine").param "details[0].name" "šířka & délka").params =
        [("details[0].name", "šířka & délka")] := rfl
  obtain ⟨url, sent, signature, next, hsend, -, -, -, hquery, hreceived, hverify⟩ :=
    verify_received { host := "127.0.0.1", port := 8080 } .zero .zero ⟨"plhqUKt", "Vd8wYq"⟩
      ((Command.named "deployVirtualMachine").param "details[0].name" "šířka & délka")
      (show Url.parse _ = .ok ⟨"http", "127.0.0.1", some 8080, "/client/api".toList, none, none⟩
        from rfl) (by simp [ManagementSettings.endpoint_loopback])
      (by simp only [hparams, List.forall_mem_singleton, ← List.all_eq_true]; decide)
  refine ⟨url, sent, signature, next, hsend, hquery, hreceived, hverify _ ?_⟩
  refine rearranged_of_perm (List.reverse_perm _) ?_
  have hperm : (received sent).Perm
      [("command", "deployVirtualMachine"), ("response", "json"),
        ("details[0].name", "šířka & délka"), ("apikey", "plhqUKt"), ("signature", signature)] := by
    rw [hreceived]
    exact (ordered_perm _).append_right _
  refine (hperm.pairwise_iff fun h => Ne.symm h).2 ?_
  have hkeys : (["command", "response", "details[0].name", "apikey", "signature"].map
      Text.lowercaseString).Nodup := by decide +kernel
  exact List.pairwise_map.1 hkeys

end ControlPlane.Connection
