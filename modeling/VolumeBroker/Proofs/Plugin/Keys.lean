import VolumeBroker.Proofs.Codec.Layout
import VolumeBroker.Proofs.Plugin.NumberOrText
/-!
# The keys of a request for a volume

What becomes of the keys in the parameters of a provision. `CreateVolumeRequest.layout` follows the fields
of a request down to the byte counts of its wanted size and the mode of each of its capabilities.

A key at the top that names no field of a request fails the provision. Keys below are another matter: the
wanted size, a capability, its mount, its block access and its access mode pass over what they do not know.
`Parameters.volumeRequest_keys` says that this is all that is lost: without these members the answer is the
same, and all others stand in the request. So a request holds everything that the caller has given exactly
if all keys are known, and being accepted does not say that they are.
-/

namespace VolumeBroker

def Layout.string : Layout String := .plain fun s value => value = .str s

theorem Codec.string_laidOut : Codec.string.LaidOut .string :=
  laidOut_plain fun _ h => eq_of_string_read h

theorem byteCount_laidOut : byteCountCodec.LaidOut (.plain ByteCountForm) :=
  Codec.laidOut_plain fun _ h => (byteCount_read_iff _).1 h

theorem accessMode_laidOut : AccessMode.codec.LaidOut (.plain AccessModeForm) :=
  Codec.laidOut_plain fun _ h => (accessMode_read_iff _).1 h

/-! ### Requests -/

def AccessModeSetting.layout : Layout AccessModeSetting :=
  .record shape (.cons (.plain AccessModeForm) .nil)

def MountVolume.layout : Layout MountVolume :=
  .record shape (.cons .string <| .cons Layout.string.list .nil)

def BlockVolume.layout : Layout BlockVolume := .record shape .nil

def VolumeCapability.layout : Layout VolumeCapability :=
  .record shape (.cons MountVolume.layout.option <| .cons BlockVolume.layout.option <|
    .cons AccessModeSetting.layout.option .nil)

def CapacityRange.layout : Layout CapacityRange :=
  .record shape (.cons (.plain ByteCountForm) <| .cons (.plain ByteCountForm) .nil)

def CreateVolumeRequest.layout : Layout CreateVolumeRequest :=
  .record shape (.cons .string <| .cons CapacityRange.layout.option <|
    .cons VolumeCapability.layout.list <| .cons .strings <| .cons .strings .nil)

theorem AccessModeSetting.laidOut : AccessModeSetting.shape.codec.LaidOut layout :=
  @Shape.laidOut _ shape _ (by decide) ⟨accessMode_laidOut, trivial⟩ fun _ => rfl

theorem MountVolume.laidOut : MountVolume.shape.codec.LaidOut layout :=
  @Shape.laidOut _ shape _ (by decide) ⟨Codec.string_laidOut, Codec.string_laidOut.list, trivial⟩
    fun _ => rfl

theorem BlockVolume.laidOut : BlockVolume.shape.codec.LaidOut layout :=
  @Shape.laidOut _ shape .nil (by decide) trivial fun _ => rfl

theorem VolumeCapability.laidOut : VolumeCapability.shape.codec.LaidOut layout :=
  @Shape.laidOut _ shape _ (by decide)
    ⟨MountVolume.laidOut.option, BlockVolume.laidOut.option, AccessModeSetting.laidOut.option, trivial⟩
    fun _ => rfl

theorem CapacityRange.laidOut : CapacityRange.shape.codec.LaidOut layout :=
  @Shape.laidOut _ shape _ (by decide) ⟨byteCount_laidOut, byteCount_laidOut, trivial⟩ fun _ => rfl

theorem CreateVolumeRequest.laidOut : CreateVolumeRequest.shape.codec.LaidOut layout :=
  @Shape.laidOut _ shape _ (by decide)
    ⟨Codec.string_laidOut, CapacityRange.laidOut.option, VolumeCapability.laidOut.list,
      Codec.strings_laidOut, Codec.strings_laidOut, trivial⟩ fun _ => rfl

namespace Parameters

/-- What is accepted has been read. -/
theorem read_of_volumeRequest {value : Json} {request : CreateVolumeRequest}
    (h : volumeRequest (some value) = .ok request) :
    CreateVolumeRequest.shape.codec.ofJson value = .ok request := by
  unfold volumeRequest at h
  dsimp only at h
  split at h
  · cases h
  · next hread =>
    rw [hread]
    split at h
    · cases h
    · split at h
      · cases h
      · exact congrArg _ (Except.ok.inj h)

/-- **The keys of a request.** What the wanted size, a capability, its mount, its block access or its
access mode does not know makes no difference to the answer; a key at the top that names no field fails
the provision. Of a request that is accepted all that is left of the parameters without these keys stands
in the request, and all keys of the parameters do exactly if they are known. -/
theorem volumeRequest_keys (value : Json) :
    volumeRequest (some (CreateVolumeRequest.layout.pruned value)) = volumeRequest (some value) ∧
      (∀ members, value = .obj members →
        (∃ m ∈ members, m.1 ∉ CreateVolumeRequest.shape.fields.spellings) →
        ∃ text, volumeRequest (some value) = .error (.invalidParameters text)) ∧
      ∀ request, volumeRequest (some value) = .ok request →
        CreateVolumeRequest.layout.shows request (CreateVolumeRequest.layout.pruned value.canonical) ∧
        (CreateVolumeRequest.layout.shows request value.canonical ↔
          CreateVolumeRequest.layout.known value.canonical) := by
  refine ⟨?_, ?_, fun request h => ?_⟩
  · have hread : CreateVolumeRequest.shape.codec.ofJson (CreateVolumeRequest.layout.pruned value)
        = CreateVolumeRequest.shape.codec.ofJson value := by
      rw [Codec.ofJson, Codec.ofJson, CreateVolumeRequest.laidOut.pruned_canonical,
        CreateVolumeRequest.laidOut.read_pruned]
    rw [volumeRequest, volumeRequest, hread]
  · rintro members rfl ⟨m, hm, hkey⟩
    cases hread : CreateVolumeRequest.shape.codec.ofJson (.obj members) with
    | error problem => exact ⟨problem.message, by rw [volumeRequest, hread]⟩
    | ok request =>
      obtain ⟨a, ha⟩ := Json.exists_mem_canonical hm
      -- the canonical form has the same keys, and a strict record is read only if it knows all of them
      rw [Codec.ofJson, Json.canonical_obj] at hread
      exact absurd (Shape.mem_spellings_of_strict (by decide) rfl hread _ ha) hkey
  · have hshows := CreateVolumeRequest.laidOut.shows_pruned (Json.tidy_canonical value)
      (read_of_volumeRequest h)
    refine ⟨hshows, CreateVolumeRequest.laidOut.known_of_shows, fun hknown => ?_⟩
    -- nothing is pruned of keys that are known
    rwa [CreateVolumeRequest.laidOut.pruned_of_known hknown] at hshows

end Parameters

namespace MisspeltSize

/-- Parameters of a caller who wants a volume of one gibibyte and misspells the key of the size. -/
def parameters : Json :=
  .obj [("capacity_range", .obj [("requierd_bytes", .nat 1073741824)]), ("name", .str "data"),
    ("volume_capabilities", .arr [.obj [("mount", .obj [])]])]

/-- The request that is made of them has no wanted size. -/
def request : CreateVolumeRequest := ⟨"data", some ⟨0, 0⟩, [⟨some ⟨"", []⟩, none, none⟩], .empty, .empty⟩

theorem volumeRequest_parameters : Parameters.volumeRequest (some parameters) = .ok request := rfl

/-- Not all that is accepted has known keys only. -/
theorem not_all_known :
    ¬∀ value request, Parameters.volumeRequest (some value) = .ok request →
      CreateVolumeRequest.layout.known value.canonical ∧
        CreateVolumeRequest.layout.shows request value.canonical := by
  intro h
  obtain ⟨hknown, -⟩ := h parameters request volumeRequest_parameters
  have hcanonical : parameters.canonical = parameters := rfl
  rw [hcanonical] at hknown
  -- the wanted size is there, and the key in it is none of its fields
  have hsize : CapacityRange.layout.option.known (.obj [("requierd_bytes", .nat 1073741824)]) :=
    hknown _ (.head _)
  rcases hsize with hnull | hrange
  · cases hnull
  · exact absurd (hrange _ (.head _)).mem_spellings (by decide)

end MisspeltSize

end VolumeBroker
