import VolumeBroker.Plugin.Client
import VolumeBroker.Proofs.Codec.Plain
import VolumeBroker.Proofs.Records.Laws
/-!
# Messages on the wire

What is written for a message of any kind reads back as that message. There are two ways to read an
envelope: with the kind in front the body is read as it comes in, and with the body in front it is set
aside until the kind is known. `PluginMessage.Envelope` collects the envelopes of a message: the
object in either order, and the array of the kind and the body; inside the body members may stand in
any order. `PluginMessage.round_trip` says that each of them is read as the message, from a value, from
something set aside, and from every text of it.

Below the envelope this is the laws of the codecs, one for each type of payload: what is left out of
a document is left out because its value is the fallback of its field.
-/

namespace VolumeBroker

/-! ### Payloads -/

theorem AccessMode.readsBack (mode : AccessMode) : AccessMode.codec.ReadsBack mode mode where
  tidy := .str _
  read origin value _ h := by
    rw [Json.eq_of_canonical_str h]
    show AccessMode.read (.str mode.name) = .ok mode
    simp only [AccessMode.read, Source.readFault, AccessMode.ofName?_name]

theorem AccessModeSetting.readsBack (s : AccessModeSetting) :
    AccessModeSetting.shape.codec.ReadsBack s s :=
  @Shape.readsBack _ AccessModeSetting.shape _ _ (s.mode, ()) (by decide)
    ⟨Field.defaulted_readsBack _ _ (AccessMode.readsBack _), trivial⟩ rfl

/-- A byte count is written as a number, and read from one as other numbers are. -/
theorem byteCount_readsBack (n : UInt64) : byteCountCodec.ReadsBack n n where
  tidy := .number _
  read origin value htidy h := by
    have hnumber := (Codec.uint64_readsBack n).read origin value htidy h
    rw [Json.eq_of_canonical_number h] at hnumber ⊢
    simp only [Codec.uint64, Source.ofJson] at hnumber
    -- texts are accepted as well, but a count is never written as one
    simp only [byteCountCodec, readByteCount, Source.ofJson, Source.readFault]
    split at hnumber
    · next hrange => rw [if_pos hrange]; exact hnumber
    · cases hnumber

theorem MountVolume.readsBack (m : MountVolume) : MountVolume.shape.codec.ReadsBack m m :=
  @Shape.readsBack _ MountVolume.shape _ _ (m.fsType, m.mountFlags, ()) (by decide)
    ⟨Field.omittedIf_readsBack
        (Field.spelled_readsBack (by decide) (Field.defaulted_readsBack _ _ (Codec.string_readsBack _)))
        rfl fun hempty => by rw [String.isEmpty_iff.1 hempty]; rfl,
      Field.omittedIf_readsBack
        (Field.spelled_readsBack (by decide)
          (Field.defaulted_readsBack _ _ (Codec.list_readsBack_self Codec.string_readsBack _)))
        rfl fun hempty => by rw [List.isEmpty_iff.1 hempty]; rfl, trivial⟩ rfl

theorem BlockVolume.readsBack (b : BlockVolume) : BlockVolume.shape.codec.ReadsBack b b :=
  @Shape.readsBack _ BlockVolume.shape _ _ () (by decide) trivial rfl

theorem VolumeCapability.readsBack (c : VolumeCapability) :
    VolumeCapability.shape.codec.ReadsBack c c :=
  @Shape.readsBack _ VolumeCapability.shape _ _ (c.mount, c.block, c.accessMode, ()) (by decide)
    ⟨Field.optional_readsBack_self _ _ fun m => ⟨MountVolume.readsBack m, nofun⟩,
      Field.optional_readsBack_self _ _ fun b => ⟨BlockVolume.readsBack b, nofun⟩,
      Field.spelled_readsBack (by decide)
        (Field.optional_readsBack_self _ _ fun s => ⟨AccessModeSetting.readsBack s, nofun⟩),
      trivial⟩ rfl

theorem CapacityRange.readsBack (r : CapacityRange) : CapacityRange.shape.codec.ReadsBack r r :=
  @Shape.readsBack _ CapacityRange.shape _ _ (r.requiredBytes, r.limitBytes, ()) (by decide)
    ⟨Field.spelled_readsBack (by decide) (Field.defaulted_readsBack _ _ (byteCount_readsBack _)),
      Field.spelled_readsBack (by decide) (Field.defaulted_readsBack _ _ (byteCount_readsBack _)),
      trivial⟩ rfl

/-- A dictionary of strings that is left out when it is empty. -/
theorem Field.strings_readsBack (name : String) (d : Dict String) :
    ((Field.defaulted name Codec.string.dict .empty).omittedIf Dict.isEmpty).ReadsBack d d :=
  Field.omittedIf_readsBack (Field.defaulted_readsBack _ _ (Codec.strings_readsBack d)) rfl
    fun hempty => by rw [Dict.isEmpty_iff.1 hempty]; rfl

theorem CreateVolumeRequest.readsBack (r : CreateVolumeRequest) :
    CreateVolumeRequest.shape.codec.ReadsBack r r :=
  @Shape.readsBack _ CreateVolumeRequest.shape _ _
    (r.name, r.capacityRange, r.volumeCapabilities, r.parameters, r.secrets, ()) (by decide)
    ⟨Field.defaulted_readsBack _ _ (Codec.string_readsBack _),
      Field.spelled_readsBack (by decide)
        (Field.optional_readsBack_self _ _ fun c => ⟨CapacityRange.readsBack c, nofun⟩),
      Field.spelled_readsBack (by decide) (Field.defaulted_readsBack _ _
        (Codec.list_readsBack_self VolumeCapability.readsBack _)),
      Field.strings_readsBack _ _, Field.strings_readsBack _ _, trivial⟩ rfl

theorem DeleteVolumeRequest.readsBack (r : DeleteVolumeRequest) :
    DeleteVolumeRequest.shape.codec.ReadsBack r r :=
  @Shape.readsBack _ DeleteVolumeRequest.shape _ _ (r.volumeId, r.secrets, ()) (by decide)
    ⟨Field.spelled_readsBack (by decide) (Field.required_readsBack _ (Codec.string_readsBack _)),
      Field.defaulted_readsBack _ _ (Codec.strings_readsBack _), trivial⟩ rfl

theorem CreateVolumeResponse.readsBack (r : CreateVolumeResponse) :
    CreateVolumeResponse.shape.codec.ReadsBack r r :=
  @Shape.readsBack _ CreateVolumeResponse.shape _ _ (r.volume, ()) (by decide)
    ⟨Field.required_readsBack _ (Volume.readsBack _), trivial⟩ rfl

theorem Codec.option_readsBack_bool (o : Option Bool) : Codec.bool.option.ReadsBack o o :=
  match o with
  | none => Codec.option_readsBack_none
  | some b => Codec.option_readsBack_some (Codec.bool_readsBack b) nofun

theorem ProbeResponse.readsBack (r : ProbeResponse) : ProbeResponse.shape.codec.ReadsBack r r :=
  @Shape.readsBack _ ProbeResponse.shape _ _ (r.ready, ()) (by decide)
    ⟨Field.defaulted_readsBack _ _ (Codec.option_readsBack_bool _), trivial⟩ rfl

/-! ### Failures -/

/-- An object with a single member has the form in which it was written. -/
theorem Json.eq_of_canonical_single {value item : Json} {key : String} (htidy : value.Tidy)
    (h : value.canonical = (Json.obj [(key, item)]).canonical) :
    ∃ raw, value = .obj [(key, raw)] ∧ raw.Tidy ∧ raw.canonical = item.canonical := by
  have hsingle : ([(key, item)].map Prod.fst).Nodup := List.nodup_singleton key
  obtain ⟨members, rfl, hnodup, hitems, hlookup⟩ := Json.eq_of_canonical_obj htidy hsingle h
  -- every member has the one key, and there is a member
  have hkey : ∀ m ∈ members, m.1 = key := by
    intro m hm
    have hget := hlookup m.1
    rw [Dict.lookup_of_mem hnodup hm, Dict.lookup_cons_if] at hget
    split at hget
    · assumption
    · cases hget
  have hmine := hlookup key
  rw [Dict.lookup_cons_if, if_pos rfl, Option.map_some, Option.map_eq_some_iff] at hmine
  obtain ⟨raw, hraw, hcanonical⟩ := hmine
  have hmem := Dict.mem_of_lookup hraw
  obtain ⟨first, rest, rfl⟩ := List.exists_cons_of_ne_nil (List.ne_nil_of_mem hmem)
  -- a second member would repeat the key
  have hrest : rest = [] := by
    refine List.eq_nil_iff_forall_not_mem.2 fun m hm => ?_
    rw [List.map_cons, List.nodup_cons, hkey first List.mem_cons_self] at hnodup
    exact hnodup.1 (List.mem_map.2 ⟨m, hm, hkey m (List.mem_cons_of_mem _ hm)⟩)
  subst hrest
  obtain rfl := List.mem_singleton.1 hmem
  exact ⟨raw, rfl, hitems _ List.mem_cons_self, hcanonical⟩

theorem PluginError.readsBack (e : PluginError) : PluginError.codec.ReadsBack e e where
  tidy := .obj (List.nodup_singleton _) fun m hm => by
    rw [List.mem_singleton.1 hm]
    exact .str _
  read origin value htidy h := by
    obtain ⟨raw, rfl, -, hraw⟩ := Json.eq_of_canonical_single htidy h
    rw [Json.eq_of_canonical_str hraw]
    -- the name of each kind is read as that kind, wherever the object comes from
    obtain ⟨kind, detail⟩ := e
    cases kind <;> cases origin <;> rfl

/-! ### Envelopes -/

namespace MessageKind

/-- A kind is read from its name. -/
theorem read_name (kind : MessageKind) (origin : Origin) :
    codec.read origin (.str kind.name) = .ok kind := by
  cases kind <;> rfl

/-- The documents in which a body stands together with its kind. -/
inductive Wraps (kind : MessageKind) (body : Json) : Json → Prop where
  | kindFirst : Wraps kind body (.obj [("type", .str kind.name), ("body", body)])
  | bodyFirst : Wraps kind body (.obj [("body", body), ("type", .str kind.name)])
  | array : Wraps kind body (.arr [.str kind.name, body])

variable {kind : MessageKind} {value body : Json}

/-- In the canonical form of an envelope the body stands in front of the kind. -/
theorem canonical_envelope (kind body : Json) :
    (Json.obj [("type", kind), ("body", body)]).canonical
        = .obj [("body", body.canonical), ("type", kind.canonical)] ∧
      (Json.obj [("body", body), ("type", kind)]).canonical
        = .obj [("body", body.canonical), ("type", kind.canonical)] := by
  have hbefore : "body" < "type" := by decide
  exact ⟨Json.canonical_obj_of_entries (Dict.entries_ofList_swap hbefore),
    Json.canonical_obj_of_entries (Dict.entries_ofList_pair hbefore)⟩

/-- What stands with its kind is read as a body of that kind, as it comes in or set aside. -/
theorem Wraps.read (h : kind.Wraps body value) (origin : Origin) : ∃ inner,
    PluginMessage.codec.read origin (.ofJson value) = kind.readBody inner (.ofJson body) := by
  have hkind := kind.read_name origin
  -- nothing is left to be read behind the two, so the outcome is that of the body
  cases h with
  | kindFirst =>
    refine ⟨origin, ?_⟩
    show PluginMessage.readMembers origin
      [(.text "type", .str kind.name), (.text "body", .ofJson body)] none = _
    simp only [PluginMessage.readMembers, PluginMessage.nextPart, bind, Except.bind, hkind,
      ↓reduceIte, true_or, or_true]
    cases kind.readBody origin (.ofJson body) <;> rfl
  | bodyFirst =>
    -- the body is set aside until the kind is known
    refine ⟨.buffered, ?_⟩
    show PluginMessage.readMembers origin
      [(.text "body", .ofJson body), (.text "type", .str kind.name)] none = _
    simp only [PluginMessage.readMembers, PluginMessage.nextPart, bind, Except.bind, hkind,
      Source.readFault_ofJson, String.reduceEq, ↓reduceIte, or_true, or_false]
    cases kind.readBody .buffered (.ofJson body) <;> rfl
  | array =>
    -- the items are told apart by their positions
    refine ⟨origin, ?_⟩
    show PluginMessage.readItems origin [.str kind.name, .ofJson body] none = _
    simp only [PluginMessage.readItems, bind, Except.bind, hkind]
    cases kind.readBody origin (.ofJson body) <;> rfl

theorem Wraps.canonical (h : kind.Wraps body value) :
    kind.Wraps body.canonical value.canonical := by
  cases h with
  | kindFirst => exact (canonical_envelope _ _).1 ▸ .bodyFirst
  | bodyFirst => exact (canonical_envelope _ _).2 ▸ .bodyFirst
  | array => exact .array

/-- An envelope has one level more than what stands in it. -/
theorem Wraps.plain {n : Nat} (h : kind.Wraps body value) (hbody : body.Plain n) :
    value.Plain (n + 1) := by
  have hkind : (Json.str kind.name).Plain n := .str n _
  cases h with
  | kindFirst => exact .obj (List.forall_mem_cons.2 ⟨hkind, List.forall_mem_singleton.2 hbody⟩)
  | bodyFirst => exact .obj (List.forall_mem_cons.2 ⟨hbody, List.forall_mem_singleton.2 hkind⟩)
  | array => exact .arr (List.forall_mem_cons.2 ⟨hkind, List.forall_mem_singleton.2 hbody⟩)

end MessageKind

namespace PluginMessage

/-- A document of the body of a message; the members of its objects stand in any order. -/
def IsBody (m : PluginMessage) (body : Json) : Prop :=
  ∃ written, m.body? = some written ∧ body.Tidy ∧ body.canonical = written.canonical

/-- The envelopes of a message. -/
inductive Envelope (m : PluginMessage) : Json → Prop where
  /-- The kind alone, for a message without a body. -/
  | bare (h : m.body? = none) : Envelope m (.obj [("type", .str m.kind.name)])
  | kindFirst {body : Json} (h : m.IsBody body) :
    Envelope m (.obj [("type", .str m.kind.name), ("body", body)])
  | bodyFirst {body : Json} (h : m.IsBody body) :
    Envelope m (.obj [("body", body), ("type", .str m.kind.name)])
  | array {body : Json} (h : m.IsBody body) : Envelope m (.arr [.str m.kind.name, body])

variable {m : PluginMessage} {value body : Json}

/-- What is written as the body of a message is a document of it. -/
theorem isBody_of_body? (h : m.body? = some body) : m.IsBody body := by
  refine ⟨body, h, ?_, rfl⟩
  cases m with
  | probe => cases h
  | createVolume r => exact Option.some.inj h ▸ (CreateVolumeRequest.readsBack r).tidy
  | deleteVolume r => exact Option.some.inj h ▸ (DeleteVolumeRequest.readsBack r).tidy
  | probeResult r => exact Option.some.inj h ▸ (ProbeResponse.readsBack r).tidy
  | volumeCreated r => exact Option.some.inj h ▸ (CreateVolumeResponse.readsBack r).tidy
  | ok => cases h
  | error e => exact Option.some.inj h ▸ (PluginError.readsBack e).tidy

/-- The canonical form of a body is one as well. -/
theorem IsBody.canonical (h : m.IsBody body) : m.IsBody body.canonical := by
  obtain ⟨written, hwritten, -, hbody⟩ := h
  exact ⟨written, hwritten, Json.tidy_canonical _, by rw [Json.canonical_canonical, hbody]⟩

/-- The body of a message is read under its kind, as it comes in or set aside. -/
theorem IsBody.read (h : m.IsBody body) (origin : Origin) :
    m.kind.readBody origin (.ofJson body) = .ok m := by
  obtain ⟨written, hwritten, htidy, hbody⟩ := h
  -- a payload that reads back is put into its message
  have hpayload : ∀ {α : Type} {c : Codec α} {a : α} (wrap : α → PluginMessage),
      c.ReadsBack a a → written = c.write a →
      (c.read origin (.ofJson body)).map wrap = .ok (wrap a) := by
    rintro α c a wrap hreads rfl
    rw [hreads.read origin body htidy hbody]
    rfl
  cases m with
  | probe => cases hwritten
  | createVolume r =>
    exact hpayload _ (CreateVolumeRequest.readsBack r) (Option.some.inj hwritten).symm
  | deleteVolume r =>
    exact hpayload _ (DeleteVolumeRequest.readsBack r) (Option.some.inj hwritten).symm
  | probeResult r =>
    exact hpayload _ (ProbeResponse.readsBack r) (Option.some.inj hwritten).symm
  | volumeCreated r =>
    exact hpayload _ (CreateVolumeResponse.readsBack r) (Option.some.inj hwritten).symm
  | ok => cases hwritten
  | error e => exact hpayload _ (PluginError.readsBack e) (Option.some.inj hwritten).symm

/-- A kind without a body is a message by itself. -/
theorem withoutBody_kind (h : m.body? = none) : m.kind.withoutBody = .ok m := by
  cases m with
  | probe => rfl
  | ok => rfl
  | createVolume r => cases h
  | deleteVolume r => cases h
  | probeResult r => cases h
  | volumeCreated r => cases h
  | error e => cases h

/-- A body together with the kind of its message is an envelope of the message. -/
theorem IsBody.envelope (h : m.IsBody body) (hwraps : m.kind.Wraps body value) : m.Envelope value := by
  cases hwraps with
  | kindFirst => exact .kindFirst h
  | bodyFirst => exact .bodyFirst h
  | array => exact .array h

/-- An envelope is the kind alone, or the kind and a body together. -/
theorem Envelope.bare_or_wraps (h : m.Envelope value) :
    m.body? = none ∧ value = .obj [("type", .str m.kind.name)] ∨
      ∃ body, m.IsBody body ∧ m.kind.Wraps body value := by
  cases h with
  | bare hnone => exact .inl ⟨hnone, rfl⟩
  | kindFirst hbody => exact .inr ⟨_, hbody, .kindFirst⟩
  | bodyFirst hbody => exact .inr ⟨_, hbody, .bodyFirst⟩
  | array hbody => exact .inr ⟨_, hbody, .array⟩

/-- **Every envelope of a message is read as the message.** -/
theorem Envelope.read (h : m.Envelope value) (origin : Origin) :
    codec.read origin (.ofJson value) = .ok m := by
  rcases h.bare_or_wraps with ⟨hnone, rfl⟩ | ⟨body, hbody, hwraps⟩
  · -- at the end there is a kind, and it needs no body
    have hkind := m.kind.read_name origin
    show readMembers origin [(.text "type", .str m.kind.name)] none = .ok m
    simp only [readMembers, nextPart, bind, Except.bind, hkind, endOf, ↓reduceIte, true_or,
      withoutBody_kind hnone]
  · obtain ⟨inner, hread⟩ := hwraps.read origin
    rw [hread, hbody.read inner]

/-! ### Envelopes as values and as texts -/

/-- What is written for a message is an envelope of it. -/
theorem envelope_write (m : PluginMessage) : m.Envelope (codec.write m) := by
  show m.Envelope (.obj (("type", .str m.kind.name) :: m.body?.toList.map fun body => ("body", body)))
  cases hbody : m.body? with
  | none => exact .bare hbody
  | some body => exact .kindFirst (isBody_of_body? hbody)

theorem Envelope.canonical (h : m.Envelope value) : m.Envelope value.canonical := by
  rcases h.bare_or_wraps with ⟨hnone, rfl⟩ | ⟨body, hbody, hwraps⟩
  · exact .bare hnone
  · exact hbody.canonical.envelope hwraps.canonical

end PluginMessage

/-! ### How deep payloads are -/

theorem MountVolume.plain : MountVolume.shape.codec.Plain 2 :=
  Shape.plain ⟨Codec.string_plain, Codec.list_plain Codec.string_plain, trivial⟩

theorem VolumeCapability.plain : VolumeCapability.shape.codec.Plain 3 := by
  have hblock : BlockVolume.shape.codec.Plain 1 := Shape.plain trivial
  have hmode : AccessModeSetting.shape.codec.Plain 1 :=
    Shape.plain ⟨fun mode => .str 0 mode.name, trivial⟩
  exact Shape.plain ⟨Codec.option_plain MountVolume.plain,
    Codec.option_plain (hblock.mono (by decide)), Codec.option_plain (hmode.mono (by decide)), trivial⟩

theorem CreateVolumeRequest.plain : CreateVolumeRequest.shape.codec.Plain 5 := by
  have hrange : CapacityRange.shape.codec.Plain 1 :=
    Shape.plain ⟨Codec.plain_nat, Codec.plain_nat, trivial⟩
  exact Shape.plain ⟨Codec.string_plain, Codec.option_plain (hrange.mono (by decide)),
    Codec.list_plain VolumeCapability.plain, Codec.dict_plain Codec.string_plain,
    Codec.dict_plain Codec.string_plain, trivial⟩

theorem DeleteVolumeRequest.plain : DeleteVolumeRequest.shape.codec.Plain 2 :=
  Shape.plain ⟨Codec.string_plain, Codec.dict_plain Codec.string_plain, trivial⟩

theorem CreateVolumeResponse.plain : CreateVolumeResponse.shape.codec.Plain 3 := by
  have hvolume : Volume.shape.codec.Plain 2 :=
    Shape.plain ⟨Codec.string_plain, Codec.uint64_plain, Codec.dict_plain Codec.string_plain, trivial⟩
  exact Shape.plain ⟨hvolume, trivial⟩

theorem ProbeResponse.plain : ProbeResponse.shape.codec.Plain 1 :=
  Shape.plain ⟨Codec.option_plain Codec.bool_plain, trivial⟩

theorem PluginError.plain : PluginError.codec.Plain 1 := by
  refine fun e => .obj fun m hm => ?_
  rw [List.mem_singleton.1 hm]
  exact .str 0 e.detail

namespace PluginMessage

variable {m : PluginMessage} {value body : Json}

theorem IsBody.plain (h : m.IsBody body) : body.Plain 5 := by
  obtain ⟨written, hwritten, htidy, hbody⟩ := h
  -- a request to create a volume is the deepest of all bodies
  have hplain : written.Plain 5 := by
    cases m with
    | probe => cases hwritten
    | createVolume r => exact Option.some.inj hwritten ▸ CreateVolumeRequest.plain r
    | deleteVolume r =>
      exact Option.some.inj hwritten ▸ (DeleteVolumeRequest.plain r).mono (by decide)
    | probeResult r => exact Option.some.inj hwritten ▸ (ProbeResponse.plain r).mono (by decide)
    | volumeCreated r =>
      exact Option.some.inj hwritten ▸ (CreateVolumeResponse.plain r).mono (by decide)
    | ok => cases hwritten
    | error e => exact Option.some.inj hwritten ▸ (PluginError.plain e).mono (by decide)
  exact .of_canonical htidy (hbody ▸ hplain.canonical)

/-- No envelope of a message has more than six levels. -/
theorem Envelope.plain (h : m.Envelope value) : value.Plain 6 := by
  rcases h.bare_or_wraps with ⟨-, rfl⟩ | ⟨body, hbody, hwraps⟩
  · exact .obj (List.forall_mem_singleton.2 (.str 5 _))
  · exact hwraps.plain hbody.plain

/-- A text of an envelope is read as the message, whatever the status of the reply. -/
theorem Envelope.message? (h : m.Envelope value) (status : Nat) {text : String}
    (htext : value.Spells text.toList) : HttpReply.message? ⟨status, text⟩ = .ok m := by
  unfold HttpReply.message?
  dsimp only
  rw [Document.ofContent_text, Document.ofText_of_plain h.plain (by decide) htext]
  dsimp only
  rw [h.read .text]
  rfl

/-- **The wire format loses nothing.** For every message the envelope that is written for it, as a
value or as a text, is read as that message. So is every other envelope of it, whether the kind or the
body stands in front or the two stand in an array: as a value, whoever reads it, and from each of its
texts. -/
theorem round_trip (m : PluginMessage) :
    codec.ofJson (codec.toJson m) = .ok m ∧
    (∀ status, HttpReply.message? ⟨status, (codec.write m).compact⟩ = .ok m) ∧
    ∀ value, m.Envelope value →
      codec.ofJson value = .ok m ∧
      (∀ origin, codec.read origin (.ofJson value) = .ok m) ∧
      (∀ status (text : String), value.Spells text.toList → HttpReply.message? ⟨status, text⟩ = .ok m) ∧
      value.Spells value.compact.toList := by
  -- an envelope holds byte counts and no other numbers, so its text can be read
  have hspells : ∀ {value}, m.Envelope value → value.Spells value.compact.toList := fun h =>
    Json.spells_compact (h.plain.every.imp fun n hn => Number.readable_of_inRange hn)
  have hwritten := m.envelope_write
  refine ⟨?_, fun status => hwritten.message? status (hspells hwritten), fun value h => ?_⟩
  · show codec.read .value (.ofJson (codec.write m).canonical.canonical) = .ok m
    exact hwritten.canonical.canonical.read .value
  · exact ⟨h.canonical.read .value, h.read, fun status text => h.message? status, hspells h⟩

/-- A request to delete a volume, with the body in front and as an array. -/
theorem deletion_round_trip :
    let body := Json.obj [("volume_id", .str "vol-1"), ("secrets", .obj [])]
    codec.ofJson (.obj [("body", body), ("type", .str "delete_volume")])
        = .ok (.deleteVolume (.ofVolume "vol-1")) ∧
      codec.read .text (.ofJson (.arr [.str "delete_volume", body]))
        = .ok (.deleteVolume (.ofVolume "vol-1")) := by
  obtain ⟨-, -, hall⟩ := round_trip (.deleteVolume (.ofVolume "vol-1"))
  have hbody := isBody_of_body? (m := .deleteVolume (.ofVolume "vol-1")) rfl
  exact ⟨(hall _ (.bodyFirst hbody)).1, (hall _ (.array hbody)).2.1 .text⟩

end PluginMessage

end VolumeBroker
