import VolumeBroker.Api.Demand
import VolumeBroker.Proofs.Records.Laws
import VolumeBroker.Proofs.Store.Restore
/-!
# Details that are written and read

The laws of what a caller hands in with an operation, and how it is read from the body of a request:
a body that has been printed is read as the details that it was printed for
(`HttpRequest.details_pretty`), and whatever is read is legible (`BindDetails.legible_of_read`).
-/

namespace VolumeBroker

/-! ### Laws -/

theorem ProvisionDetails.readsBack {details : ProvisionDetails}
    (h : ∀ p, details.parameters = some p → p.Tidy ∧ p ≠ .null) :
    shape.codec.ReadsBack details
      { details with parameters := details.parameters.map Json.canonical } := by
  obtain ⟨serviceId, planId, organizationGuid, spaceGuid, parameters⟩ := details
  refine @Shape.readsBack _ ProvisionDetails.shape _ _
    (serviceId, planId, organizationGuid, spaceGuid, parameters.map Json.canonical, ()) (by decide)
    ⟨Field.required_readsBack _ (Codec.string_readsBack _),
      Field.required_readsBack _ (Codec.string_readsBack _),
      Field.defaulted_readsBack _ _ (Codec.string_readsBack _),
      Field.defaulted_readsBack _ _ (Codec.string_readsBack _),
      Field.optional_readsBack _ fun p hsome => ?_, trivial⟩ rfl
  obtain ⟨htidy, hnull⟩ := h p hsome
  exact ⟨Codec.json_readsBack htidy, hnull⟩

/-- Details of a bind are written as their record. -/
theorem BindDetails.write_eq (details : BindDetails) :
    shape.codec.write details = BindingRecord.shape.codec.write details.toRecord := rfl

theorem BindDetails.readsBack {details : BindDetails} (h : details.toRecord.Storable) :
    shape.codec.ReadsBack details
      { details with parameters := details.parameters.map Json.canonical } := by
  obtain ⟨serviceId, planId, appGuid, bindResource, parameters⟩ := details
  refine @Shape.readsBack _ BindDetails.shape _ _
    (serviceId, planId, appGuid, bindResource.map id, parameters.map Json.canonical, ()) (by decide)
    ⟨Field.required_readsBack _ (Codec.string_readsBack _),
      Field.defaulted_readsBack _ _ (Codec.string_readsBack _),
      Field.defaulted_readsBack _ _ (Codec.string_readsBack _),
      Field.optional_readsBack _ fun resource _ => ⟨BindResource.readsBack resource, nofun⟩,
      Field.optional_readsBack _ fun p hsome => ?_, trivial⟩ ?_
  · obtain ⟨htidy, hnull⟩ := h p hsome
    exact ⟨Codec.json_readsBack htidy, hnull⟩
  · -- the resource comes back as itself
    show BindDetails.mk _ _ _ (bindResource.map id) _ = _
    rw [Option.map_id]
    rfl

/-! ### Bodies of requests -/

/-- Details of a bind that are read from text within the reader's limit bring legible parameters. -/
theorem BindDetails.legible_of_read {source : Source} (hsource : source.Within Document.nestingLimit)
    {origin : Origin} {details : BindDetails} (h : shape.codec.read origin source = .ok details) :
    details.toRecord.Legible := by
  change shape.read origin source = .ok details at h
  obtain ⟨row, rfl, hfrom⟩ := Shape.from_of_read h
  obtain ⟨serviceId, planId, appGuid, bindResource, parameters, ⟨⟩⟩ := row
  obtain ⟨-, -, -, -, hparameters, -⟩ := hfrom
  rintro p (rfl : parameters = some p)
  rcases hparameters with hnone | ⟨part, hpart, hread⟩
  · cases hnone
  · exact (Codec.legible_of_readOption (hsource.part hpart).2 hread).1

namespace HttpRequest

variable {request : HttpRequest} {α : Type} {c : Codec α}

/-- **A body that has been printed.** It is read if it is within the limit of a body and nested within
that of the reader, and its numbers come back as they are. -/
theorem details_pretty {a b : α} (hjson : request.announcesJson = true)
    (hbody : request.body = .text (c.write a).pretty) (h : c.ReadsBack a b)
    (hnumbers : (c.write a).Every Number.InRange)
    (hsame : (c.write a).reread.canonical = (c.write a).canonical)
    (hdepth : (c.write a).depth ≤ Document.nestingLimit)
    (hsize : request.body.size ≤ bodyLimit) : request.details c = .ok b := by
  -- neither the limit nor the numbers change what is read
  have hread : c.read .text (Document.ofContent request.body).root = .ok b := by
    rw [hbody, Document.ofContent_text, Document.ofText_pretty hnumbers,
      Source.limitNesting_ofJson (by rw [Json.depth_reread]; exact hdepth)]
    exact h.read .text _ h.tidy.reread hsame
  unfold HttpRequest.details
  rw [if_neg (by simp [hjson]), if_neg (Nat.not_lt.2 hsize), hread]

end HttpRequest

end VolumeBroker
