import ControlPlane.Envelope

/-!
# How replies are read

A reply is judged by its content: what stands under the member of its command, else under the
member of a general error, else the whole body (`IsContent`). A code in the content makes the reply
an error whatever the status; without one the status decides, and a success has to be an object.

`Reads` states these rules one by one, each with what it makes of the reply. They cover all replies
and no reply falls under two of them with different results, so decoding a reply comes to a result
if and only if the rules give it (`decode_iff_reads`).
-/

namespace ControlPlane

/-! ## Errors with a code -/

/-- The error of a code: four codes refuse the caller, any other one is an error of the API. -/
inductive ClientError.IsCoded (command : String) (code : Nat) (reason : String) :
    ClientError → Prop
  | refused (h : code = 401 ∨ code = 403 ∨ code = 432 ∨ code = 531) :
      IsCoded command code reason (.unauthorized command code reason)
  | other (h : ¬ (code = 401 ∨ code = 403 ∨ code = 432 ∨ code = 531)) :
      IsCoded command code reason (.api command code reason)

theorem ClientError.isCoded_iff {command : String} {code : Nat} {reason : String}
    {error : ClientError} :
    IsCoded command code reason error ↔ error = ofCode command code reason := by
  have hrefusals : refusals.contains code = true ↔
      code = 401 ∨ code = 403 ∨ code = 432 ∨ code = 531 := by
    simp [refusals]
  constructor
  · intro h
    cases h with
    | refused hcode => rw [ofCode, if_pos (hrefusals.2 hcode)]
    | other hcode => rw [ofCode, if_neg fun hmem => hcode (hrefusals.1 hmem)]
  · rintro rfl
    unfold ofCode
    split
    · rename_i hmem
      exact .refused (hrefusals.1 hmem)
    · rename_i hmem
      exact .other fun hcode => hmem (hrefusals.2 hcode)

namespace Envelope

variable {command : String} {status : Nat} {text : String} {body inner : Json}

/-! ## What a reply contains -/

/-- What a reply contains: the value under the member of its command, else under the member of a
general error, else the body. -/
inductive IsContent (command : String) (body : Json) : Json → Prop
  | own {inner : Json} (h : body.get? (memberName command) = some inner) :
      IsContent command body inner
  | general {inner : Json} (hown : body.get? (memberName command) = none)
      (h : body.get? errorMember = some inner) : IsContent command body inner
  | bare (hown : body.get? (memberName command) = none)
      (hgeneral : body.get? errorMember = none) : IsContent command body body

theorem isContent_iff : IsContent command body inner ↔ inner = content command body := by
  constructor
  · intro h
    cases h with
    | own h => rw [content, h]
    | general hown h => rw [content, hown, h]
    | bare hown hgeneral => rw [content, hown, hgeneral]
  · rintro rfl
    unfold content
    split
    · rename_i hown
      exact .own hown
    · rename_i hown
      split
      · rename_i hgeneral
        exact .general hown hgeneral
      · rename_i hgeneral
        exact .bare hown hgeneral

/-- A content has an error code: under its member is a whole number that is not negative. -/
def HasCode (inner : Json) (code : Nat) : Prop :=
  inner.get? "errorcode" = some (.num (.whole code))

theorem errorCode?_eq_some_iff {code : Nat} :
    errorCode? inner = some code ↔ HasCode inner code := by
  simp only [errorCode?, HasCode, Option.bind_eq_some_iff, Json.natural?_eq_some_iff,
    exists_eq_right]

theorem errorCode?_eq_none_iff : errorCode? inner = none ↔ ∀ code, ¬ HasCode inner code := by
  simp only [Option.eq_none_iff_forall_ne_some, ne_eq, errorCode?_eq_some_iff]

/-- The reason that a content gives: its error text, or nothing. -/
inductive HasReason (inner : Json) : String → Prop
  | given {reason : String} (h : inner.get? "errortext" = some (.str reason)) :
      HasReason inner reason
  | missing (h : ∀ reason, inner.get? "errortext" ≠ some (.str reason)) : HasReason inner ""

theorem hasReason_iff {reason : String} : HasReason inner reason ↔ reason = errorText inner := by
  have hgiven : ∀ reason, (inner.get? "errortext").bind Json.text? = some reason ↔
      inner.get? "errortext" = some (.str reason) := by
    intro reason
    simp only [Option.bind_eq_some_iff, Json.text?_eq_some_iff, exists_eq_right]
  constructor
  · intro h
    cases h with
    | given h => rw [errorText, (hgiven reason).2 h, Option.getD_some]
    | missing h =>
      have hnone : (inner.get? "errortext").bind Json.text? = none :=
        Option.eq_none_iff_forall_ne_some.2 fun reason hreason =>
          h reason ((hgiven reason).1 hreason)
      rw [errorText, hnone, Option.getD_none]
  · rintro rfl
    cases htext : (inner.get? "errortext").bind Json.text? with
    | some reason =>
      rw [errorText, htext, Option.getD_some]
      exact .given ((hgiven reason).1 htext)
    | none =>
      rw [errorText, htext, Option.getD_none]
      refine .missing fun reason h => ?_
      exact absurd (htext.symm.trans ((hgiven reason).2 h)) (by simp)

/-- Whether a status means success. -/
def Succeeds (status : Nat) : Prop := 200 ≤ status ∧ status < 300

theorem isSuccess_iff : isSuccess status = true ↔ Succeeds status := by
  rw [isSuccess, Bool.and_eq_true, decide_eq_true_eq, decide_eq_true_eq, Succeeds]

/-! ## The rules -/

/-- What a reply is read as. -/
inductive Reads (command : String) (status : Nat) (text : String) :
    Except ClientError Json → Prop
  /-- An object without a code is the result of a command that succeeded. -/
  | accepted {body inner : Json} (hbody : Json.parse text = some body)
      (hinner : IsContent command body inner) (hcode : ∀ code, ¬ HasCode inner code)
      (hstatus : Succeeds status) (hobject : inner.isObject = true) :
      Reads command status text (.ok inner)
  /-- A code of 16 bits makes an error, whatever the status. -/
  | coded {body inner : Json} {code : Nat} {reason : String} {error : ClientError}
      (hbody : Json.parse text = some body) (hinner : IsContent command body inner)
      (hcode : HasCode inner code) (hsmall : code ≤ 65535) (hreason : HasReason inner reason)
      (herror : ClientError.IsCoded command code reason error) :
      Reads command status text (.error error)
  /-- In place of a larger code stands the status, also if that means success. -/
  | overlong {body inner : Json} {code : Nat} {reason : String} {error : ClientError}
      (hbody : Json.parse text = some body) (hinner : IsContent command body inner)
      (hcode : HasCode inner code) (hlarge : 65535 < code) (hreason : HasReason inner reason)
      (herror : ClientError.IsCoded command status reason error) :
      Reads command status text (.error error)
  /-- A status that means failure is a code itself; the reason is the content. -/
  | refused {body inner : Json} {error : ClientError} (hbody : Json.parse text = some body)
      (hinner : IsContent command body inner) (hcode : ∀ code, ¬ HasCode inner code)
      (hstatus : ¬ Succeeds status)
      (herror : ClientError.IsCoded command status inner.compact error) :
      Reads command status text (.error error)
  /-- If the body is no JSON, the reason is its text. -/
  | refusedText {error : ClientError} (hbody : Json.parse text = none)
      (hstatus : ¬ Succeeds status)
      (herror : ClientError.IsCoded command status (Text.trimString text) error) :
      Reads command status text (.error error)
  | noObject {body inner : Json} (hbody : Json.parse text = some body)
      (hinner : IsContent command body inner) (hcode : ∀ code, ¬ HasCode inner code)
      (hstatus : Succeeds status) (hobject : inner.isObject = false) :
      Reads command status text (.error (.invalidResponse
        (command ++ " returned no '" ++ memberName command ++ "' object")))
  | noJson (hbody : Json.parse text = none) (hstatus : Succeeds status) :
      Reads command status text (.error (.invalidResponse (command ++ " returned a non-JSON body")))

/-! ## Decoding follows the rules -/

theorem effectiveCode_of_le {code : Nat} (h : code ≤ 65535) : effectiveCode code status = code :=
  if_pos h

theorem effectiveCode_of_lt {code : Nat} (h : 65535 < code) : effectiveCode code status = status :=
  if_neg (Nat.not_le.2 h)

theorem decode_of_isContent (hbody : Json.parse text = some body)
    (hinner : IsContent command body inner) :
    decode command status text = judge command status inner := by
  rw [decode, hbody, isContent_iff.1 hinner]

theorem judge_of_hasCode {code : Nat} (h : HasCode inner code) :
    judge command status inner =
      .error (.ofCode command (effectiveCode code status) (errorText inner)) := by
  rw [judge, errorCode?_eq_some_iff.2 h]

theorem judge_of_refused (hcode : ∀ code, ¬ HasCode inner code) (hstatus : ¬ Succeeds status) :
    judge command status inner = .error (.ofCode command status inner.compact) := by
  rw [judge, errorCode?_eq_none_iff.2 hcode]
  exact if_pos (by simpa using mt isSuccess_iff.1 hstatus)

theorem judge_of_succeeds (hcode : ∀ code, ¬ HasCode inner code) (hstatus : Succeeds status) :
    judge command status inner =
      if inner.isObject then .ok inner
      else .error (.invalidResponse
        (command ++ " returned no '" ++ memberName command ++ "' object")) := by
  rw [judge, errorCode?_eq_none_iff.2 hcode]
  cases inner.isObject with
  | true => simp [isSuccess_iff.2 hstatus]
  | false => simp [isSuccess_iff.2 hstatus]

/-- What a rule gives is what decoding gives. -/
theorem decode_of_reads {result : Except ClientError Json} (h : Reads command status text result) :
    decode command status text = result := by
  cases h with
  | accepted hbody hinner hcode hstatus hobject =>
    rw [decode_of_isContent hbody hinner, judge_of_succeeds hcode hstatus, if_pos hobject]
  | coded hbody hinner hcode hsmall hreason herror =>
    rw [decode_of_isContent hbody hinner, judge_of_hasCode hcode, effectiveCode_of_le hsmall,
      ← hasReason_iff.1 hreason, ← ClientError.isCoded_iff.1 herror]
  | overlong hbody hinner hcode hlarge hreason herror =>
    rw [decode_of_isContent hbody hinner, judge_of_hasCode hcode, effectiveCode_of_lt hlarge,
      ← hasReason_iff.1 hreason, ← ClientError.isCoded_iff.1 herror]
  | refused hbody hinner hcode hstatus herror =>
    rw [decode_of_isContent hbody hinner, judge_of_refused hcode hstatus,
      ← ClientError.isCoded_iff.1 herror]
  | refusedText hbody hstatus herror =>
    rw [decode_of_not_json hbody (by simpa using mt isSuccess_iff.1 hstatus),
      ← ClientError.isCoded_iff.1 herror]
  | noObject hbody hinner hcode hstatus hobject =>
    rw [decode_of_isContent hbody hinner, judge_of_succeeds hcode hstatus,
      if_neg (by simp [hobject])]
  | noJson hbody hstatus => rw [decode, hbody, if_pos (isSuccess_iff.2 hstatus)]

/-- Every reply falls under a rule. -/
theorem exists_reads (command : String) (status : Nat) (text : String) :
    ∃ result, Reads command status text result := by
  cases hbody : Json.parse text with
  | none =>
    by_cases hstatus : Succeeds status
    · exact ⟨_, .noJson hbody hstatus⟩
    · exact ⟨_, .refusedText hbody hstatus (ClientError.isCoded_iff.2 rfl)⟩
  | some body =>
    have hinner : IsContent command body (content command body) := isContent_iff.2 rfl
    cases hcode : errorCode? (content command body) with
    | some code =>
      rw [errorCode?_eq_some_iff] at hcode
      rcases Nat.lt_or_ge 65535 code with hlarge | hsmall
      · exact ⟨_, .overlong hbody hinner hcode hlarge (hasReason_iff.2 rfl)
          (ClientError.isCoded_iff.2 rfl)⟩
      · exact ⟨_, .coded hbody hinner hcode hsmall (hasReason_iff.2 rfl)
          (ClientError.isCoded_iff.2 rfl)⟩
    | none =>
      rw [errorCode?_eq_none_iff] at hcode
      by_cases hstatus : Succeeds status
      · cases hobject : (content command body).isObject with
        | true => exact ⟨_, .accepted hbody hinner hcode hstatus hobject⟩
        | false => exact ⟨_, .noObject hbody hinner hcode hstatus hobject⟩
      · exact ⟨_, .refused hbody hinner hcode hstatus (ClientError.isCoded_iff.2 rfl)⟩

theorem reads_decode (command : String) (status : Nat) (text : String) :
    Reads command status text (decode command status text) := by
  obtain ⟨result, h⟩ := exists_reads command status text
  exact decode_of_reads h ▸ h

/-- An error of a reply is one of a code, or says that there is no result in it. -/
theorem error_of_decode {error : ClientError} (h : decode command status text = .error error) :
    (∃ code reason, error = .ofCode command code reason) ∨
      ∃ reason, error = .invalidResponse reason := by
  have hreads := h ▸ reads_decode command status text
  cases hreads with
  | coded _ _ _ _ _ herror | overlong _ _ _ _ _ herror | refused _ _ _ _ herror
  | refusedText _ _ herror => exact .inl ⟨_, _, ClientError.isCoded_iff.1 herror⟩
  | noObject | noJson => exact .inr ⟨_, rfl⟩

/-! ## What a reply comes to -/

/-- Decoding a reply comes to what the rules give, and to nothing else. In particular an object
under the member of the command comes back as it is if it has no code and the status means success,
whatever stands beside it. -/
theorem decode_iff_reads (command : String) (status : Nat) (text : String) :
    (∀ result, decode command status text = result ↔ Reads command status text result) ∧
      ∀ body inner, Json.parse text = some body → body.get? (memberName command) = some inner →
        inner.isObject = true → (∀ code, ¬ HasCode inner code) → Succeeds status →
          decode command status text = .ok inner := by
  refine ⟨fun result => ⟨?_, decode_of_reads⟩, ?_⟩
  · rintro rfl
    exact reads_decode command status text
  · intro body inner hbody hown hobject hcode hstatus
    exact decode_of_reads (.accepted hbody (.own hown) hcode hstatus hobject)

/-- A result beside an error with a code, in a reply with a status other than 200. -/
theorem exists_accepted_reply :
    decode "listUsers" 206
        ("\x7b\"errorresponse\":\x7b\"errorcode\":530\x7d,\"listusersresponse\":" ++
          "\x7b\"count\":0,\"errorcode\":\"none\"\x7d\x7d") =
      .ok (.obj [("count", .num (.whole 0)), ("errorcode", .str "none")]) := by
  refine (decode_iff_reads _ _ _).2
    (.obj [("errorresponse", .obj [("errorcode", .num (.whole 530))]),
      ("listusersresponse", .obj [("count", .num (.whole 0)), ("errorcode", .str "none")])])
    _ rfl rfl rfl ?_ ⟨by decide, by decide⟩
  intro code hcode
  exact absurd (Option.some.inj hcode) (by simp)

end Envelope

end ControlPlane
