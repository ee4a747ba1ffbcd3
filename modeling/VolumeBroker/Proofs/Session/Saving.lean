import VolumeBroker.Proofs.Files.Unhindered
import VolumeBroker.Proofs.Session.Requests
/-!
# Sessions in which every save succeeds

As long as nothing is in the way of the record file (`Store.Unhindered`) and the surroundings do not
interfere, every save of a session succeeds: whatever is recorded can be written, and a file that has
been replaced can be replaced again (`Session.Saving.run`).
-/

namespace VolumeBroker

namespace Session

variable {s : Session} {path : String}

/-- All saves have succeeded, and the next one would. -/
structure Saving (s : Session) (path : String) : Prop where
  writable : s.Writable
  intact : s.broker.store.outage = .none
  medium : s.broker.store.medium = .file path
  files : Store.Unhindered s.files path
  saved : ∀ saved ∈ Turn.attempts s.history, saved = .ok ()

theorem Saving.handle (h : s.Saving path) {event : Event} (hcall : event.IsCall) :
    (s.handle event).Saving path := by
  rcases handle_call_cases h.writable.sound hcall with hsame | ⟨turn, htakes⟩
  · rw [hsame]
    exact h
  have hwritable := h.writable.handle event
  have hintact := htakes.outage.trans h.intact
  have hmedium := htakes.medium.trans h.medium
  cases hchange : turn.change with
  | none =>
    -- the files are left alone
    obtain ⟨step, hmeets, -, hfiles, -⟩ := htakes.step
    rw [hchange] at hmeets
    refine ⟨hwritable, hintact, hmedium, ?_, ?_⟩
    · rw [hfiles, Step.Spares.files hmeets]
      exact h.files
    · rw [(htakes.rests hchange).attempts]
      exact h.saved
  | some c =>
    -- what the change has left can be written, so the attempt to save it succeeds
    obtain ⟨hcommits, -⟩ := htakes.commits hchange
    obtain ⟨document, hdocument⟩ := hwritable.exists_toDocument
    obtain ⟨files, hreplace, hunhindered⟩ := h.files.replaceFile document.pretty
    have hguard : (s.handle event).broker.store.guardOutage .save = .ok () := by
      unfold Store.guardOutage
      rw [hintact]
      rfl
    have hsave := Store.save_eq hguard hmedium hdocument s.files
    rw [hreplace] at hsave
    refine ⟨hwritable, hintact, hmedium, ?_, ?_⟩
    · rw [hcommits.files, hsave]
      exact hunhindered
    · rw [hcommits.attempts, hsave]
      intro saved hmem
      rcases List.mem_append.1 hmem with hmem | hmem
      · exact h.saved saved hmem
      · exact List.mem_singleton.1 hmem

/-- **Every save succeeds** where nothing is in the way and nobody interferes. -/
theorem Saving.run (h : s.Saving path) {events : List Event}
    (hcalls : ∀ event ∈ events, event.IsCall) : (s.run events).Saving path := by
  refine run_induction_mem (P := fun s => s.Saving path) h ?_
  intro s event hevent hs
  exact hs.handle (hcalls event hevent)

end Session

/-! ### A small installation -/

namespace Installation

/-- The specification of one service. -/
def spec : ServiceSpec :=
  ⟨"driver", "plugin", ⟨"svc", "service", "", true, false, [], [], none,
    [⟨"plan", "plan", "", none, none⟩]⟩⟩

/-- The registry of the service. -/
def registry : Registry := Registry.empty.add spec

theorem build_spec : (Registry.build [spec] .lazy).result = .ok registry := rfl

/-- A plugin that does what it is asked. -/
def plugin : Responder
  | .probe => .ok ⟨some true⟩
  | .createVolume request => .ok ⟨⟨request.name, 0, .empty⟩⟩
  | .deleteVolume _ => .ok ()

/-- The details of a provision that asks for a volume of a name. -/
def details (name : String) : ProvisionDetails :=
  ⟨"svc", "plan", "org", "space", some (.obj [("name", .str name),
    ("volume_capabilities", .arr [.obj [("mount", .obj [])]])])⟩

/-- The request for that volume. -/
def request (name : String) : CreateVolumeRequest :=
  ⟨name, none, [⟨some ⟨"", []⟩, none, none⟩], .empty, .empty⟩

end Installation

end VolumeBroker
