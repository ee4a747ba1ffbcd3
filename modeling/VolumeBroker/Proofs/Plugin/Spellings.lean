import VolumeBroker.Proofs.Codec.Spellings
import VolumeBroker.Proofs.Plugin.Messages
/-!
# The spellings of requests, volumes and fingerprints

What a caller of the broker, a plugin or an older record file may write for a request, a volume or a
fingerprint. Each type has a `style`, which lists for each of its fields the keys and the value that may
be left out. Byte counts of a request are numbers or decimal digits (`Style.byteCount`), access modes
are names or numbers (`Style.accessMode`). `spelling_indifferent` says for the four types that the way
in which a value is written makes no difference, and that no field may be given twice.
-/

namespace VolumeBroker

/-! ### Byte counts and access modes -/

/-- A text of decimal digits that stands for a number; zeros may stand in front. -/
structure DecimalText (n : Nat) (text : String) : Prop where
  nonempty : text.toList ≠ []
  digits : ∀ c ∈ text.toList, c.isDigit = true
  value : Nat.ofDigitChars 10 text.toList 0 = n

/-- A number stands for itself as it is shown. -/
theorem DecimalText.toString (n : Nat) : DecimalText n (toString n) := by
  have htext : (ToString.toString n).toList = Nat.toDigits 10 n := Nat.toList_repr
  refine ⟨?_, ?_, ?_⟩ <;> rw [htext]
  · exact Nat.toDigits_ne_nil
  · exact fun c hc => Nat.isDigit_of_mem_toDigits (by decide) (by decide) hc
  · exact Nat.ofDigitChars_toDigits (by decide) (by decide)

/-- Digits have their decimal value. -/
theorem decimalValue?_of_digits {digits : List Char} (h : ∀ c ∈ digits, c.isDigit = true) :
    decimalValue? digits = some (Nat.ofDigitChars 10 digits 0) := by
  unfold decimalValue?
  -- digit by digit, from whatever the digits in front have given
  generalize 0 = start
  induction digits generalizing start with
  | nil => rfl
  | cons c digits ih =>
    have hdigit : '0' ≤ c ∧ c ≤ '9' := by
      simpa [Char.isDigit, Char.le_def] using h c List.mem_cons_self
    rw [List.foldl_cons, Option.bind_some, if_pos hdigit, Nat.ofDigitChars_cons, Nat.mul_comm 10]
    exact ih (fun d hd => h d (List.mem_cons_of_mem _ hd)) _

theorem byteCount?_of_decimal {n : UInt64} {text : String} (h : DecimalText n.toNat text) :
    byteCount? text = some n := by
  have hpower : twoPow 64 = 2 ^ 64 := by decide
  have hrange : n.toNat < twoPow 64 := hpower ▸ n.toNat_lt
  unfold byteCount?
  split
  · next hlist =>
    -- a sign is no digit
    exact absurd (h.digits '+' (hlist ▸ List.mem_cons_self)) (by decide)
  · rw [if_neg (by simpa using h.nonempty)]
    simp only [decimalValue?_of_digits h.digits, h.value, bind, Option.bind]
    rw [if_pos hrange, UInt64.ofNat_toNat]

/-- A byte count of a request is written as a number or in decimal digits. -/
def Style.byteCount : Style UInt64 := .plain fun n value =>
  value = .nat n.toNat ∨ ∃ text, value = .str text ∧ DecimalText n.toNat text

/-- An access mode is written by its name or its number. -/
def Style.accessMode : Style AccessMode := .plain fun mode value =>
  value = .str mode.name ∨ ∃ i, value = .nat i ∧ AccessMode.all[i]? = some mode

theorem byteCount_follows : byteCountCodec.Follows .byteCount := by
  refine Codec.follows_plain (fun _ => .inl rfl) ?_ ?_
  · rintro n _ (rfl | ⟨text, rfl, htext⟩) origin
    · exact (byteCount_readsBack n).read origin _ (.number _) rfl
    · -- a text is understood by its digits
      show readByteCount (.str text) = .ok n
      simp only [readByteCount, Source.readFault, byteCount?_of_decimal htext]
  · rintro n _ (rfl | ⟨text, rfl, htext⟩)
    · exact .inl rfl
    · exact .inr ⟨text, rfl, htext⟩

theorem accessMode_follows : AccessMode.codec.Follows .accessMode := by
  refine Codec.follows_plain (fun _ => .inl rfl) ?_ ?_
  · rintro mode _ (rfl | ⟨i, rfl, hmode⟩) origin
    · show AccessMode.read (.str mode.name) = .ok mode
      simp only [AccessMode.read, Source.readFault, AccessMode.ofName?_name]
    · -- a number counts the modes, so it is far within the range of the reader
      have hi : i < 6 := (List.getElem?_eq_some_iff.1 hmode).1
      have hpower : 6 ≤ twoPow 63 := by decide
      have hrange : -(twoPow 63 : Int) ≤ i ∧ (i : Int) < twoPow 63 := by omega
      have hnumber : AccessMode.ofNumber? i = some mode := by
        rw [AccessMode.ofNumber?, if_pos (Int.natCast_nonneg i), Int.toNat_natCast, hmode]
      simp only [AccessMode.codec, AccessMode.read, Json.nat, Source.ofJson, Source.readFault]
      rw [if_pos hrange, hnumber]
  · rintro mode _ (rfl | ⟨i, rfl, hmode⟩)
    · exact .inl rfl
    · exact .inr ⟨i, rfl, hmode⟩

/-! ### Requests -/

def AccessModeSetting.style : Style AccessModeSetting :=
  .record (.cons ⟨["mode"], .accessMode, some .unknown⟩ .nil) fun s => (s.mode, ())

def MountVolume.style : Style MountVolume :=
  .record (.cons ⟨["fs_type", "fsType"], .string, some ""⟩ <|
    .cons ⟨["mount_flags", "mountFlags"], Style.string.list, some []⟩ .nil)
    fun m => (m.fsType, m.mountFlags, ())

def BlockVolume.style : Style BlockVolume := .record .nil fun _ => ()

def VolumeCapability.style : Style VolumeCapability :=
  .record (.cons ⟨["mount"], MountVolume.style.option, some none⟩ <|
    .cons ⟨["block"], BlockVolume.style.option, some none⟩ <|
    .cons ⟨["access_mode", "accessMode"], AccessModeSetting.style.option, some none⟩ .nil)
    fun c => (c.mount, c.block, c.accessMode, ())

def CapacityRange.style : Style CapacityRange :=
  .record (.cons ⟨["required_bytes", "requiredBytes"], .byteCount, some 0⟩ <|
    .cons ⟨["limit_bytes", "limitBytes"], .byteCount, some 0⟩ .nil)
    fun r => (r.requiredBytes, r.limitBytes, ())

def CreateVolumeRequest.style : Style CreateVolumeRequest :=
  .record (.cons ⟨["name"], .string, some ""⟩ <|
    .cons ⟨["capacity_range", "capacityRange"], CapacityRange.style.option, some none⟩ <|
    .cons ⟨["volume_capabilities", "volumeCapabilities"], VolumeCapability.style.list, some []⟩ <|
    .cons ⟨["parameters"], .strings, some .empty⟩ <|
    .cons ⟨["secrets"], .strings, some .empty⟩ .nil)
    fun r => (r.name, r.capacityRange, r.volumeCapabilities, r.parameters, r.secrets, ())

def DeleteVolumeRequest.style : Style DeleteVolumeRequest :=
  .record (.cons ⟨["volume_id", "volumeId"], .string, none⟩ <|
    .cons ⟨["secrets"], .strings, some .empty⟩ .nil)
    fun r => (r.volumeId, r.secrets, ())

theorem AccessModeSetting.follows : AccessModeSetting.shape.codec.Follows style :=
  @Shape.follows _ shape _ (by decide)
    ⟨⟨by decide, by decide, accessMode_follows, rfl, nofun⟩, trivial⟩ fun _ => rfl

theorem MountVolume.follows : MountVolume.shape.codec.Follows style :=
  @Shape.follows _ shape _ (by decide)
    ⟨⟨by decide, by decide, Codec.string_follows, rfl, fun _ h => String.isEmpty_iff.1 h ▸ rfl⟩,
      ⟨by decide, by decide, Codec.string_follows.list, rfl, fun _ h => List.isEmpty_iff.1 h ▸ rfl⟩,
      trivial⟩ fun _ => rfl

theorem BlockVolume.follows : BlockVolume.shape.codec.Follows style :=
  @Shape.follows _ shape .nil (by decide) trivial fun _ => rfl

/-- An optional record is left out when it is absent. -/
theorem Field.optional_follows {α : Type} {c : Codec α} {style : Style α} {name : String}
    {spellings keys : List String} (hkeys : keys ⊆ spellings) (hname : name ∈ keys)
    (h : c.Follows style) (hne : ∀ a, c.write a ≠ .null) :
    ((Field.optional name c).spelled spellings).Follows ⟨keys, style.option, some none⟩ :=
  ⟨hkeys, hname, h.option hne, rfl, fun _ h => Option.isNone_iff_eq_none.1 h ▸ rfl⟩

theorem VolumeCapability.follows : VolumeCapability.shape.codec.Follows style :=
  @Shape.follows _ shape _ (by decide)
    ⟨Field.optional_follows (by decide) (by decide) MountVolume.follows nofun,
      Field.optional_follows (by decide) (by decide) BlockVolume.follows nofun,
      Field.optional_follows (by decide) (by decide) AccessModeSetting.follows nofun, trivial⟩
    fun _ => rfl

theorem CapacityRange.follows : CapacityRange.shape.codec.Follows style :=
  @Shape.follows _ shape _ (by decide)
    ⟨⟨by decide, by decide, byteCount_follows, rfl, nofun⟩,
      ⟨by decide, by decide, byteCount_follows, rfl, nofun⟩, trivial⟩ fun _ => rfl

theorem CreateVolumeRequest.follows : CreateVolumeRequest.shape.codec.Follows style :=
  @Shape.follows _ shape _ (by decide)
    ⟨⟨by decide, by decide, Codec.string_follows, rfl, nofun⟩,
      Field.optional_follows (by decide) (by decide) CapacityRange.follows nofun,
      ⟨by decide, by decide, VolumeCapability.follows.list, rfl, nofun⟩,
      ⟨by decide, by decide, Codec.strings_follows, rfl, fun _ h => Dict.isEmpty_iff.1 h ▸ rfl⟩,
      ⟨by decide, by decide, Codec.strings_follows, rfl, fun _ h => Dict.isEmpty_iff.1 h ▸ rfl⟩,
      trivial⟩ fun _ => rfl

theorem DeleteVolumeRequest.follows : DeleteVolumeRequest.shape.codec.Follows style :=
  @Shape.follows _ shape _ (by decide)
    ⟨⟨by decide, by decide, Codec.string_follows, rfl, nofun⟩,
      ⟨by decide, by decide, Codec.strings_follows, rfl, nofun⟩, trivial⟩ fun _ => rfl

/-! ### Volumes and fingerprints -/

def Volume.style : Style Volume :=
  .record (.cons ⟨["volume_id", "volumeId"], .string, none⟩ <|
    .cons ⟨["capacity_bytes", "capacityBytes"], .number, some 0⟩ <|
    .cons ⟨["volume_context", "volumeContext", "attributes"], .strings, some .empty⟩ .nil)
    fun v => (v.volumeId, v.capacityBytes, v.volumeContext, ())

def Fingerprint.style : Style Fingerprint :=
  .record (.cons ⟨["name", "Name"], .string, none⟩ <|
    .cons ⟨["volume", "Volume"], Volume.style, none⟩ .nil)
    fun f => (f.name, f.volume, ())

theorem Volume.follows : Volume.shape.codec.Follows style :=
  @Shape.follows _ shape _ (by decide)
    ⟨⟨by decide, by decide, Codec.string_follows, rfl, nofun⟩,
      ⟨by decide, by decide, Codec.uint64_follows, rfl, nofun⟩,
      ⟨by decide, by decide, Codec.strings_follows, rfl, nofun⟩, trivial⟩ fun _ => rfl

theorem Fingerprint.follows : Fingerprint.shape.codec.Follows style :=
  @Shape.follows _ shape _ (by decide)
    ⟨⟨by decide, by decide, Codec.string_follows, rfl, nofun⟩,
      ⟨by decide, by decide, Volume.follows, rfl, nofun⟩, trivial⟩ fun _ => rfl

/-- **Spelling does not matter.** Requests, volumes and fingerprints are read whatever key stands for
each of their fields, at every level, whatever way is chosen for each of their byte counts and access
modes, and whether a field that has its default is written or left out. No document is read in which
one field stands under two keys. -/
theorem spelling_indifferent :
    CreateVolumeRequest.shape.codec.Indifferent CreateVolumeRequest.style ∧
      DeleteVolumeRequest.shape.codec.Indifferent DeleteVolumeRequest.style ∧
      Volume.shape.codec.Indifferent Volume.style ∧
      Fingerprint.shape.codec.Indifferent Fingerprint.style :=
  ⟨CreateVolumeRequest.follows.indifferent, DeleteVolumeRequest.follows.indifferent,
    Volume.follows.indifferent, Fingerprint.follows.indifferent⟩

/-- A wanted size, given in digits and in lower camel case; it has no limit. -/
example (n : UInt64) :
    CapacityRange.style.words ⟨n, 0⟩ (.obj [("requiredBytes", .str (toString n.toNat))]) :=
  ⟨_, _, rfl, .refl _, .inr ⟨_, _, _, rfl, by decide, .inr ⟨_, rfl, .toString _⟩, .inl ⟨rfl, rfl⟩⟩⟩

/-- A fingerprint with keys of three kinds and without its capacity. -/
example : Fingerprint.style.words ⟨"data", ⟨"vol-1", 0, .empty⟩⟩
    (.obj [("Volume", .obj [("attributes", .obj []), ("volumeId", .str "vol-1")]),
      ("name", .str "data")]) := by
  have hvolume : Volume.style.words ⟨"vol-1", 0, .empty⟩
      (.obj [("attributes", .obj []), ("volumeId", .str "vol-1")]) :=
    ⟨_, _, rfl, .swap _ _ _, .inr ⟨_, _, _, rfl, by decide, rfl,
      .inl ⟨rfl, .inr ⟨_, _, _, rfl, by decide, ⟨_, rfl, .refl _⟩, rfl⟩⟩⟩⟩
  exact ⟨_, _, rfl, .swap _ _ _, .inr ⟨_, _, _, rfl, by decide, rfl,
    .inr ⟨_, _, _, rfl, by decide, hvolume, rfl⟩⟩⟩

end VolumeBroker
