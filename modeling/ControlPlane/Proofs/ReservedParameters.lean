import ControlPlane.Proofs.SignedRequests

/-!
# Parameters that a caller cannot touch

The parameters that a connection sets itself are its own: a caller's parameters of these names are
left out. That guards the names as they are given. Names are written without escapes, though, so a
name can hold a separator, and then what a server reads off the query is another list: a parameter
named `x&command` becomes one named `x` and one named `command`.

Where exactly this begins is settled by `intact_iff`: a server receives the connection's own
parameters once each and the caller's others as they are, if and only if every name of the caller
survives (`Url.Survives`). If some do not, the longest of them is not received at all, since what is
read off a name is never longer than the name.
-/

namespace ControlPlane.Connection

open Signing Url

/-- What is received holds the connection's own parameters as it set them, once each, and the
parameters of the caller, none missing and none added. -/
structure Intact (credentials : Credentials) (command : Command) (got : Parameters) : Prop where
  ownCommand : got.filter (fun param => param.1 == "command") = [("command", command.name)]
  ownResponse : got.filter (fun param => param.1 == "response") = [("response", "json")]
  ownKey : got.filter (fun param => param.1 == "apikey") =
    credentials.apiKey?.toList.map fun key => ("apikey", key)
  ownSignature : (got.filter fun param => param.1 == "signature").length =
    credentials.apiKey?.toList.length
  others : (got.filter fun param => !reserved.contains param.1).Perm (admitted command.params)

/-! ## Names that survive -/

theorem filter_admitted_of_mem_reserved {name : String} (h : name ∈ reserved)
    (params : Dictionary String) :
    (admitted params).filter (fun param => param.1 == name) = [] := by
  refine List.filter_eq_nil_iff.2 ?_
  intro param hparam hname
  exact (mem_admitted hparam).2 (by rw [beq_iff_eq.1 hname]; exact h)

/-- The connection's own parameters are told from a caller's by their names. -/
theorem intact_of_perm {credentials : Credentials} {command : Command} {got : Parameters}
    (h : got.Perm (ownParameters credentials command ++ admitted command.params)) :
    Intact credentials command got := by
  have hown : ∀ name ∈ reserved, (got.filter fun param => param.1 == name).Perm
      ((ownParameters credentials command).filter fun param => param.1 == name) := by
    intro name hname
    have hfiltered := h.filter fun param => param.1 == name
    rwa [List.filter_append, filter_admitted_of_mem_reserved hname, List.append_nil] at hfiltered
  have hothers : (got.filter fun param => !reserved.contains param.1).Perm
      (admitted command.params) := by
    have hnone : (ownParameters credentials command).filter
        (fun param => !reserved.contains param.1) = [] := by
      refine List.filter_eq_nil_iff.2 ?_
      intro param hparam
      simpa using name_mem_reserved_of_mem_ownParameters hparam
    have hfiltered := h.filter fun param => !reserved.contains param.1
    rw [List.filter_append, hnone, List.nil_append] at hfiltered
    have hself : (admitted command.params).filter (fun param => !reserved.contains param.1) =
        admitted command.params := by
      rw [admitted, List.filter_filter]
      simp only [Bool.and_self]
    rwa [hself] at hfiltered
  have hcommand := hown "command" (by decide)
  have hresponse := hown "response" (by decide)
  have hkey := hown "apikey" (by decide)
  have hsignature := (hown "signature" (by decide)).length_eq
  cases credentials with
  | integration =>
    exact ⟨List.perm_singleton.1 hcommand, List.perm_singleton.1 hresponse,
      List.perm_nil.1 hkey, hsignature, hothers⟩
  | keys pair =>
    exact ⟨List.perm_singleton.1 hcommand, List.perm_singleton.1 hresponse,
      List.perm_singleton.1 hkey, hsignature, hothers⟩

/-! ## Names that do not survive -/

/-- What is read off a name that does not survive is no such name, or shorter than it. -/
theorem survives_or_shorter {name part got : List Char} (hsub : part.Sublist name)
    (hwhole : ∀ c ∈ part, isBreaker c = false) (hname : ¬ Survives name)
    (hgot : got = decodeComponent (encodeQuery part)) :
    Survives got ∨ (utf8 got).length < (utf8 name).length := by
  cases hread : ofUtf8? (unescape (encodeQuery part)) with
  | none =>
    -- read as it is written, and what is written is written alike again
    have hself : got = encodeQuery part := by
      rw [hgot, decodeComponent, hread]
      rfl
    refine Or.inl ⟨?_, ?_⟩
    · intro c hc
      rw [hself] at hc
      exact isBreaker_of_mem_encodeQuery hwhole hc
    · rw [hself, encodeQuery_encodeQuery, ← hgot, hself]
  | some cs =>
    have hself : got = cs := by
      rw [hgot, decodeComponent, hread]
      rfl
    have hbytes : utf8 got = unescape part := by
      rw [hself, utf8_of_ofUtf8? hread, unescape_encodeQuery]
    have hpart : (unescape part).length ≤ (utf8 part).length := length_unescape_le part
    have hlength : (utf8 part).length ≤ (utf8 name).length := length_utf8_le_of_sublist hsub
    rw [hbytes]
    refine Or.inr (Nat.lt_of_le_of_ne (Nat.le_trans hpart hlength) ?_)
    intro hequal
    refine hname ?_
    obtain rfl : part = name := eq_of_sublist_of_length_utf8 hsub (by omega)
    refine ⟨hwhole, decodeComponent_of_unescape ?_⟩
    rw [unescape_encodeQuery]
    exact unescape_eq_utf8_of_length (by omega)

/-- If all of a caller's parameters are received, a name that does not survive is read off a longer
one that does not survive either. -/
theorem exists_longer_of_not_survives (credentials : Credentials) {command : Command}
    (h : admitted command.params ⊆
      received (sentQuery (written (sentParameters credentials command))))
    {param : String × String} (hparam : param ∈ admitted command.params)
    (hbroken : ¬ Survives param.1.toList) :
    ∃ other ∈ admitted command.params, ¬ Survives other.1.toList ∧
      (utf8 param.1.toList).length < (utf8 other.1.toList).length := by
  obtain ⟨source, hsource, part, hsub, hwhole, hall, hname⟩ :=
    exists_of_mem_received (sentParameters_ne_nil credentials command) (h hparam)
  have hsourceBroken : ¬ Survives source.1.toList := by
    intro hsurvives
    refine hbroken ?_
    rw [hname, hall hsurvives.whole, hsurvives.readBack]
    exact hsurvives
  refine ⟨source, ?_, hsourceBroken, ?_⟩
  · rcases List.mem_append.1 ((sentParameters_perm credentials command).mem_iff.1 hsource) with
      hown | hadmitted
    · exact absurd (survives_of_mem_reserved (name_mem_reserved_of_mem_ownParameters hown))
        hsourceBroken
    · exact hadmitted
  · exact (survives_or_shorter hsub hwhole hsourceBroken hname).resolve_left hbroken

/-- A server receives all of a caller's parameters only if their names survive. -/
theorem survives_of_admitted_subset (credentials : Credentials) {command : Command}
    (h : admitted command.params ⊆
      received (sentQuery (written (sentParameters credentials command)))) :
    ∀ param ∈ admitted command.params, Survives param.1.toList := by
  intro first hfirst
  refine Decidable.byContradiction ?_
  intro hbroken
  -- a longer name for each would make names of any length
  have hany : ∀ n, ∃ param ∈ admitted command.params, ¬ Survives param.1.toList ∧
      n ≤ (utf8 param.1.toList).length := by
    intro n
    induction n with
    | zero => exact ⟨first, hfirst, hbroken, Nat.zero_le _⟩
    | succ n ih =>
      obtain ⟨param, hparam, hparamBroken, hlength⟩ := ih
      obtain ⟨other, hother, hotherBroken, hmore⟩ :=
        exists_longer_of_not_survives credentials h hparam hparamBroken
      exact ⟨other, hother, hotherBroken, Nat.succ_le_of_lt (Nat.lt_of_le_of_lt hlength hmore)⟩
  let lengths := (admitted command.params).map fun param => (utf8 param.1.toList).length
  obtain ⟨param, hparam, -, hlength⟩ := hany (lengths.max?.getD 0 + 1)
  have hbound : (utf8 param.1.toList).length ≤ lengths.max?.getD 0 :=
    List.le_max?_getD_of_mem (List.mem_map_of_mem hparam)
  omega

/-- The connection's parameters and the caller's are received as they should be exactly if every
name of the caller survives. -/
theorem intact_iff (credentials : Credentials) (command : Command) :
    Intact credentials command
        (received (sentQuery (written (sentParameters credentials command)))) ↔
      ∀ param ∈ admitted command.params, Survives param.1.toList := by
  constructor
  · intro h
    refine survives_of_admitted_subset credentials ?_
    intro param hparam
    exact (List.mem_filter.1 (h.others.mem_iff.2 hparam)).1
  · intro h
    rw [received_of_survives h]
    exact intact_of_perm (sentParameters_perm credentials command)

/-! ## Requests -/

/-- The request for a command carries the connection's parameters and the caller's as it should
exactly if every name of the caller survives. -/
theorem request_intact_iff (settings : ManagementSettings) (asyncTimeout pollInterval : Duration)
    (credentials : Credentials) (command : Command) {base : Url}
    (hbase : Url.parse settings.endpoint = .ok base)
    (hplain : ∀ c ∈ settings.endpoint.toList, c ≠ '?' ∧ c ≠ '#') :
    ∃ url sent next,
      ExceptT.run (Connection.send
        { ofSettings settings asyncTimeout pollInterval with credentials := credentials }
          command) = .send ⟨url, settings.requestTimeout⟩ next ∧
      url.scheme = base.scheme ∧ url.host = base.host ∧ url.port = base.port ∧
      url.query = some sent ∧
      (Intact credentials command (received sent) ↔
        ∀ param ∈ admitted command.params, Survives param.1.toList) := by
  obtain ⟨url, hsend, hscheme, hhost, hport, hquery⟩ :=
    exists_request
      { ofSettings settings asyncTimeout pollInterval with credentials := credentials } rfl hbase
      hplain command
  exact ⟨url, _, _, hsend, hscheme, hhost, hport, hquery, intact_iff credentials command⟩

/-- Of a caller who names a parameter as the connection does, the server receives the rest. -/
theorem exists_intact_request :
    ∃ url sent next,
      ExceptT.run (Connection.send
        { ofSettings { host := "127.0.0.1", port := 8080 } .zero .zero with
          credentials := .keys ⟨"plhqUKt", "Vd8wYq"⟩ }
        (((Command.named "listUsers").param "command" "deleteAccount").param "page%size" "5")) =
          .send ⟨url, .ofSeconds 60⟩ next ∧
      url.query = some sent ∧
      (received sent).filter (fun param => param.1 == "command") = [("command", "listUsers")] := by
  obtain ⟨url, sent, next, hsend, -, -, -, hquery, hintact⟩ :=
    request_intact_iff { host := "127.0.0.1", port := 8080 } .zero .zero
      (.keys ⟨"plhqUKt", "Vd8wYq"⟩)
      (((Command.named "listUsers").param "command" "deleteAccount").param "page%size" "5")
      (show Url.parse _ = .ok ⟨"http", "127.0.0.1", some 8080, "/client/api".toList, none, none⟩
        from rfl) (by simp [ManagementSettings.endpoint_loopback])
  exact ⟨url, sent, next, hsend, hquery, (hintact.2 (by decide +kernel)).ownCommand⟩

/-- A caller's parameter whose name holds a separator is received as a second command. -/
theorem exists_request_with_two_commands :
    ∃ url sent next,
      ExceptT.run ((ofSettings { host := "127.0.0.1", port := 8080 } .zero .zero).send
        ((Command.named "listUsers").param "x&command" "deleteAccount")) =
          .send ⟨url, .ofSeconds 60⟩ next ∧
      url.query = some sent ∧
      received sent =
        [("command", "listUsers"), ("response", "json"), ("x", ""), ("command", "deleteAccount")] ∧
      ¬ Intact .integration ((Command.named "listUsers").param "x&command" "deleteAccount")
        (received sent) := by
  obtain ⟨url, hsend, -, -, -, hquery⟩ :=
    exists_request (ofSettings { host := "127.0.0.1", port := 8080 } .zero .zero) rfl
      (show Url.parse _ = .ok ⟨"http", "127.0.0.1", some 8080, "/client/api".toList, none, none⟩
        from rfl) (by simp [ManagementSettings.endpoint_loopback])
      ((Command.named "listUsers").param "x&command" "deleteAccount")
  have hsent : sentParameters .integration
      ((Command.named "listUsers").param "x&command" "deleteAccount") =
        [("command", "listUsers"), ("response", "json"), ("x&command", "deleteAccount")] :=
    List.mergeSort_of_pairwise (by decide +kernel)
  have hreceived : received (sentQuery (written (sentParameters .integration
      ((Command.named "listUsers").param "x&command" "deleteAccount")))) =
        [("command", "listUsers"), ("response", "json"), ("x", ""),
          ("command", "deleteAccount")] := by
    rw [hsent]
    decide +kernel
  refine ⟨url, _, _, hsend, hquery, hreceived, ?_⟩
  intro hintact
  have honly := hreceived ▸ hintact.ownCommand
  exact absurd honly (by decide)

end ControlPlane.Connection
