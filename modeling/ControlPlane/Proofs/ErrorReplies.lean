import ControlPlane.Proofs.ReplyRules

/-!
# Errors that a reply tells

A reply can tell of an error in several ways at once: by its status, by the member of a general
error, and by a code in the content of its command, in that of the general error or in the body
itself (`TellsError`). Decoding looks at one content only, and only for a whole number, so some of
these errors are overlooked: a code of another type, a general error without a code, and a code that
stands beside the content (`Overlooked`).

Main statement: an error that a reply tells fails the command unless it is overlooked, and an
overlooked one passes for the result (`errorReply_fails_iff`).
-/

namespace ControlPlane.Envelope

variable {command : String} {status : Nat} {text : String} {body inner : Json}

/-! ## How errors are told -/

/-- A value has a member for an error code, and something in it. -/
def CarriesCode (value : Json) : Prop :=
  ∃ code, value.get? "errorcode" = some code ∧ code ≠ .null

/-- A reply tells of an error. -/
inductive TellsError (command : String) (status : Nat) (body : Json) : Prop
  | status (h : ¬ Succeeds status)
  | general {inner : Json} (hown : body.get? (memberName command) = none)
      (h : body.get? errorMember = some inner)
  | ownCode {inner : Json} (h : body.get? (memberName command) = some inner)
      (hcode : CarriesCode inner)
  | generalCode {inner : Json} (h : body.get? errorMember = some inner)
      (hcode : CarriesCode inner)
  | bodyCode (hcode : CarriesCode body)

/-! ## How errors are overlooked -/

/-- An error is told where decoding does not look for it, or as it does not read it. -/
inductive IsHidden (command : String) (body inner : Json) : Prop
  /-- The content has a code that is no whole number from zero on. -/
  | otherCode (hcode : CarriesCode inner)
  /-- The content is a general error, but has no code. -/
  | general (hown : body.get? (memberName command) = none)
      (h : body.get? errorMember = some inner)
  /-- A general error with a code stands beside the content. -/
  | beside {other : Json} (hown : body.get? (memberName command) = some inner)
      (h : body.get? errorMember = some other) (hcode : CarriesCode other)
  /-- The code stands beside the content. -/
  | outside (hown : body.get? (memberName command) = some inner) (hcode : CarriesCode body)

/-- A reply tells of an error, and yet its content passes for a result. -/
structure Overlooked (command : String) (status : Nat) (body inner : Json) : Prop where
  succeeds : Succeeds status
  content : IsContent command body inner
  object : inner.isObject = true
  noCode : ∀ code, ¬ HasCode inner code
  hidden : IsHidden command body inner

theorem tellsError_of_isHidden (h : IsHidden command body inner)
    (hcontent : IsContent command body inner) : TellsError command status body := by
  cases h with
  | otherCode hcode =>
    cases hcontent with
    | own hown => exact .ownCode hown hcode
    | general _ hgeneral => exact .generalCode hgeneral hcode
    | bare => exact .bodyCode hcode
  | general hown hgeneral => exact .general hown hgeneral
  | beside _ hgeneral hcode => exact .generalCode hgeneral hcode
  | outside _ hcode => exact .bodyCode hcode

/-- An error that is told beside a good status is hidden, or its code is one that is read. -/
theorem isHidden_of_tellsError (h : TellsError command status body) (hstatus : Succeeds status)
    (hcontent : IsContent command body inner) : IsHidden command body inner := by
  cases h with
  | status hbad => exact absurd hstatus hbad
  | general hown hgeneral =>
    cases hcontent with
    | own hown' => exact absurd (hown.symm.trans hown') (by simp)
    | general _ hgeneral' => exact .general hown hgeneral'
    | bare _ hnone => exact absurd (hgeneral.symm.trans hnone) (by simp)
  | ownCode hown hcode =>
    cases hcontent with
    | own hown' => exact .otherCode (Option.some.inj (hown.symm.trans hown') ▸ hcode)
    | general hnone | bare hnone => exact absurd (hown.symm.trans hnone) (by simp)
  | generalCode hgeneral hcode =>
    cases hcontent with
    | own hown => exact .beside hown hgeneral hcode
    | general _ hgeneral' =>
      exact .otherCode (Option.some.inj (hgeneral.symm.trans hgeneral') ▸ hcode)
    | bare _ hnone => exact absurd (hgeneral.symm.trans hnone) (by simp)
  | bodyCode hcode =>
    cases hcontent with
    | own hown => exact .outside hown hcode
    | general hown hgeneral => exact .general hown hgeneral
    | bare => exact .otherCode hcode

/-! ## What fails and what passes -/

/-- A reply that tells of an error fails its command if and only if the error is not overlooked; if
it is, the content passes for the result. -/
theorem errorReply_fails_iff (hbody : Json.parse text = some body) :
    ((TellsError command status body → ∃ error, decode command status text = .error error) ↔
      ∀ inner, ¬ Overlooked command status body inner) ∧
    ∀ inner, Overlooked command status body inner →
      TellsError command status body ∧ decode command status text = .ok inner := by
  have hpasses : ∀ inner, Overlooked command status body inner →
      TellsError command status body ∧ decode command status text = .ok inner := fun inner h =>
    ⟨tellsError_of_isHidden h.hidden h.content,
      decode_of_reads (.accepted hbody h.content h.noCode h.succeeds h.object)⟩
  refine ⟨⟨?_, ?_⟩, hpasses⟩
  · intro hfails inner h
    obtain ⟨htells, hok⟩ := hpasses inner h
    obtain ⟨error, herror⟩ := hfails htells
    exact absurd (hok.symm.trans herror) (by simp)
  · intro hnone htells
    have hreads := reads_decode command status text
    cases hresult : decode command status text with
    | error error => exact ⟨error, rfl⟩
    | ok inner =>
      rw [hresult] at hreads
      cases hreads with
      | @accepted own _ hbody' hinner hcode hstatus hobject =>
        obtain rfl : body = own := Option.some.inj (hbody.symm.trans hbody')
        exact absurd ⟨hstatus, hinner, hobject, hcode, isHidden_of_tellsError htells hstatus hinner⟩
          (hnone inner)

/-- The code of a general error fails the command, with whatever status the reply came. -/
theorem exists_failing_reply :
    ∃ error, decode "createDomain" 200
      "\x7b\"errorresponse\":\x7b\"errorcode\":530,\"errortext\":\"internal failure\"\x7d\x7d" =
        .error error := by
  have hmember : (Json.obj [("errorresponse", .obj [("errorcode", .num (.whole 530)),
      ("errortext", .str "internal failure")])]).get? errorMember = _ := rfl
  refine (@errorReply_fails_iff "createDomain" 200 _ (.obj [("errorresponse", .obj
    [("errorcode", .num (.whole 530)), ("errortext", .str "internal failure")])]) rfl).1.2 ?_
    (.general rfl hmember)
  intro inner h
  have hinner := isContent_iff.1 h.content
  exact h.noCode 530 (hinner ▸ rfl)

/-- Three errors that are told in a reply with status 200 and pass for results: a code in quotes, a
general error without a code, and a code beside an empty content. -/
theorem exists_overlooked_errors :
    (∃ body, Json.parse "\x7b\"listusersresponse\":\x7b\"errorcode\":\"530\"\x7d\x7d" = some body ∧
      TellsError "listUsers" 200 body ∧
      decode "listUsers" 200 "\x7b\"listusersresponse\":\x7b\"errorcode\":\"530\"\x7d\x7d" =
        .ok (.obj [("errorcode", .str "530")])) ∧
    (∃ body, Json.parse "\x7b\"errorresponse\":\x7b\"errortext\":\"failure\"\x7d\x7d" = some body ∧
      TellsError "listUsers" 200 body ∧
      decode "listUsers" 200 "\x7b\"errorresponse\":\x7b\"errortext\":\"failure\"\x7d\x7d" =
        .ok (.obj [("errortext", .str "failure")])) ∧
    (∃ body, Json.parse "\x7b\"listusersresponse\":\x7b\x7d,\"errorcode\":530\x7d" = some body ∧
      TellsError "listUsers" 200 body ∧
      decode "listUsers" 200 "\x7b\"listusersresponse\":\x7b\x7d,\"errorcode\":530\x7d" =
        .ok (.obj [])) := by
  refine ⟨⟨_, rfl, ?_, rfl⟩, ⟨_, rfl, ?_, rfl⟩, ⟨_, rfl, ?_, rfl⟩⟩
  · exact @TellsError.ownCode _ _ _ (.obj [("errorcode", .str "530")]) rfl ⟨_, rfl, by simp⟩
  · exact @TellsError.general _ _ _ (.obj [("errortext", .str "failure")]) rfl rfl
  · exact .bodyCode ⟨.num (.whole 530), rfl, by simp⟩

end ControlPlane.Envelope
