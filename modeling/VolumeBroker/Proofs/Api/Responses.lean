import VolumeBroker.Api.Response
import VolumeBroker.Proofs.Codec.Laws
/-!
# What responses report

The two shapes that the responses of the broker have. `HttpResponse.Carries` is a document under a
status; `HttpResponse.Reports` is an `ErrorBody` under a status, of which a client reads a code and a
description. `HttpResponse.Answers` says which of them belongs to a result of the broker. No error is
reported without a code or without a description (`BrokerError.code_ne_empty`,
`BrokerError.message_ne_empty`).
-/

namespace VolumeBroker

theorem ErrorBody.readsBack (b : ErrorBody) : ErrorBody.shape.codec.ReadsBack b b :=
  @Shape.readsBack _ ErrorBody.shape _ _ (b.error, b.description, ()) (by decide)
    ⟨Field.required_readsBack _ (Codec.string_readsBack _),
      Field.required_readsBack _ (Codec.string_readsBack _), trivial⟩ rfl

/-- A document that is sent under a status. -/
structure HttpResponse.Carries (r : HttpResponse) (status : Nat) (document : Json) : Prop where
  status : r.status = status
  contentType : r.contentType = some "application/json"
  body : r.body = .json document

/-- An error that is sent under a status. -/
structure HttpResponse.Reports (r : HttpResponse) (status : Nat) (body : ErrorBody) : Prop where
  status : r.status = status
  contentType : r.contentType = some "application/json"
  /-- What is sent is read as the error. -/
  document : ∃ document, r.body = .json document ∧ ErrorBody.shape.codec.ofJson document = .ok body

/-- The response to a result of the broker: the document of a success under the status for it, or the
error under the error's own. -/
def HttpResponse.Answers (r : HttpResponse) (success : Nat) : Except BrokerError Json → Prop
  | .ok document => r.Carries success document
  | .error e => r.Reports e.status ⟨e.code, e.message⟩

namespace HttpResponse

theorem ofJson_carries (status : Nat) (document : Json) :
    (ofJson status document).Carries status document := ⟨rfl, rfl, rfl⟩

theorem failure_reports (status : Nat) (code description : String) :
    (failure status code description).Reports status ⟨code, description⟩ :=
  ⟨rfl, rfl, _, rfl, (ErrorBody.readsBack _).ofJson⟩

theorem malformedRequest_reports (description : String) :
    (malformedRequest description).Reports 400 ⟨"MalformedRequest", description⟩ :=
  failure_reports ..

theorem ofError_answers (success : Nat) (e : BrokerError) :
    (ofError e).Answers success (.error e) := failure_reports ..

end HttpResponse

/-! ### Errors have a code and a text -/

theorem append_ne_empty {front : String} (h : front ≠ "") (back : String) : front ++ back ≠ "" :=
  fun happend => h (String.append_eq_empty_iff.1 happend).1

theorem RegistryError.message_ne_empty (e : RegistryError) : e.message ≠ "" := by
  cases e with
  -- the one text without a part that varies; of the others the words in front decide
  | emptySpecFile => exact of_decide_eq_true rfl
  | invalidService => exact append_ne_empty (append_ne_empty (append_ne_empty (by decide) _) _) _
  | invalidSpecFile => exact append_ne_empty (append_ne_empty (append_ne_empty (by decide) _) _) _
  | connect => exact append_ne_empty (append_ne_empty (append_ne_empty (by decide) _) _) _
  | unknownService => exact append_ne_empty (by decide) _

namespace BrokerError

theorem code_ne_empty (e : BrokerError) : e.code ≠ "" := by
  cases e with
  -- an error of the registry has the code of its own kind
  | registry e => cases e <;> simp only [code] <;> decide
  | _ => simp only [code]; decide

/-- Every text starts with words of its own. -/
theorem message_ne_empty (e : BrokerError) : e.message ≠ "" := by
  cases e with
  | invalidParameters => exact append_ne_empty (by decide) _
  | missingField => exact append_ne_empty (by decide) _
  | appGuidNotProvided => exact of_decide_eq_true rfl
  | instanceAlreadyExists => exact append_ne_empty (append_ne_empty (by decide) _) _
  | instanceDoesNotExist => exact append_ne_empty (append_ne_empty (by decide) _) _
  | bindingAlreadyExists => exact append_ne_empty (append_ne_empty (by decide) _) _
  | bindingDoesNotExist => exact append_ne_empty (append_ne_empty (by decide) _) _
  -- the text of a registry error is handed on as it is
  | registry e => exact e.message_ne_empty
  | plugin => exact append_ne_empty (append_ne_empty (append_ne_empty (by decide) _) _) _
  | fingerprint => exact append_ne_empty (append_ne_empty (append_ne_empty (by decide) _) _) _
  | store => exact append_ne_empty (append_ne_empty (append_ne_empty (by decide) _) _) _
  | unsupported => exact append_ne_empty (append_ne_empty (by decide) _) _

end BrokerError

end VolumeBroker
