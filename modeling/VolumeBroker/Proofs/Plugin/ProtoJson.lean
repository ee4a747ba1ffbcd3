import VolumeBroker.Proofs.Plugin.Spellings
import VolumeBroker.Proofs.Plugin.Wire
/-!
# Replies in proto JSON

A plugin that is generated from the proto description of the interface writes what it answers in proto
JSON: keys are in lower camel case, and the capacity of a volume, as every 64-bit integer, is a string
of digits. A capacity of zero and an empty context may be left out. `CreateVolumeResponse.Proto`
collects the documents that such a plugin may send for a volume that it has created.

Byte counts of requests are read from strings as well; the capacity of a volume is read from a number
only. `CreateVolumeResponse.understood_iff` says which replies in proto JSON are understood: those that
leave the capacity out, and no others. A reply that gives it is lost in every envelope and in every
text, and the call fails although the volume is there.
-/

namespace VolumeBroker

/-! ### What a document of a created volume comes to -/

namespace CreateVolumeResponse

variable {r : CreateVolumeResponse} {value : Json}

/-- A document of a created volume is understood alone, in every envelope, and as an answer. -/
structure Understood (r : CreateVolumeResponse) (value : Json) : Prop where
  alone : shape.codec.ofJson value = .ok r ∧ ∀ origin, shape.codec.read origin (.ofJson value) = .ok r
  enveloped : ∀ envelope, MessageKind.volumeCreated.Wraps value envelope →
    PluginMessage.codec.ofJson envelope = .ok (.volumeCreated r) ∧
      ∀ origin, PluginMessage.codec.read origin (.ofJson envelope) = .ok (.volumeCreated r)
  answers : ∀ envelope (text : String), MessageKind.volumeCreated.Wraps value envelope →
    envelope.Spells text.toList → ∀ request status,
      (PluginCall.createVolume request).outcome (some ⟨status, text⟩) = .ok r

/-- A document is not read as a created volume, neither alone nor in an envelope, and a call that it
answers fails. -/
structure Lost (value : Json) : Prop where
  alone : (∃ problem, shape.codec.ofJson value = .error problem) ∧
    ∀ origin, ∃ problem, shape.codec.read origin (.ofJson value) = .error problem
  enveloped : ∀ envelope, MessageKind.volumeCreated.Wraps value envelope →
    (∃ problem, PluginMessage.codec.ofJson envelope = .error problem) ∧
      ∀ origin, ∃ problem, PluginMessage.codec.read origin (.ofJson envelope) = .error problem
  answers : ∀ envelope (text : String), MessageKind.volumeCreated.Wraps value envelope →
    envelope.Spells text.toList → ∀ request status, ∃ detail,
      (PluginCall.createVolume request).outcome (some ⟨status, text⟩) = .error ⟨.transport, detail⟩

theorem Understood.not_lost (h : r.Understood value) : ¬Lost value := by
  intro hlost
  obtain ⟨problem, hproblem⟩ := hlost.alone.1
  rw [h.alone.1] at hproblem
  cases hproblem

/-- The body of a message of a created volume is read as the document is. -/
theorem read_of_wraps {envelope : Json} (h : MessageKind.volumeCreated.Wraps value envelope)
    (origin : Origin) : ∃ inner, PluginMessage.codec.read origin (.ofJson envelope)
      = (shape.codec.read inner (.ofJson value)).map .volumeCreated :=
  h.read origin

/-- A text of an envelope of a plain document is read as the envelope is. -/
theorem message?_of_wraps {envelope : Json} (h : MessageKind.volumeCreated.Wraps value envelope)
    (hplain : value.Plain 3) {text : String} (htext : envelope.Spells text.toList) (status : Nat) :
    HttpReply.message? ⟨status, text⟩ = PluginMessage.codec.read .text (.ofJson envelope) := by
  unfold HttpReply.message?
  dsimp only
  rw [Document.ofContent_text, Document.ofText_of_plain (h.plain hplain) (by decide) htext]
  cases PluginMessage.codec.read .text (.ofJson envelope) <;> rfl

/-- What is read alone is understood. -/
theorem understood_of_read (hplain : value.Plain 3)
    (hvalue : ∀ origin, shape.codec.read origin (.ofJson value) = .ok r)
    (hcanonical : ∀ origin, shape.codec.read origin (.ofJson value.canonical) = .ok r) :
    r.Understood value := by
  have hbody : ∀ {value envelope}, (∀ origin, shape.codec.read origin (.ofJson value) = .ok r) →
      MessageKind.volumeCreated.Wraps value envelope → ∀ origin,
        PluginMessage.codec.read origin (.ofJson envelope) = .ok (.volumeCreated r) := by
    intro value envelope hvalue hwraps origin
    obtain ⟨inner, hread⟩ := read_of_wraps hwraps origin
    rw [hread, hvalue inner]
    rfl
  -- what is in memory is read in canonical form, and the envelope of it with its body
  refine ⟨⟨hcanonical .value, hvalue⟩,
    fun envelope hwraps => ⟨hbody hcanonical hwraps.canonical .value, hbody hvalue hwraps⟩, ?_⟩
  intro envelope text hwraps htext request status
  refine @PluginCall.outcome_of_answer (.createVolume request) ⟨status, text⟩ (.ok r) ?_
  rw [message?_of_wraps hwraps hplain htext status]
  exact hbody hvalue hwraps .text

/-- What is not read alone is lost. -/
theorem lost_of_refuse (hplain : value.Plain 3)
    (hvalue : ∀ origin, ∃ problem, shape.codec.read origin (.ofJson value) = .error problem)
    (hcanonical : ∀ origin,
      ∃ problem, shape.codec.read origin (.ofJson value.canonical) = .error problem) :
    Lost value := by
  -- the envelope hands the body on, so it is refused with it
  have hbody : ∀ {value envelope},
      (∀ origin, ∃ problem, shape.codec.read origin (.ofJson value) = .error problem) →
      MessageKind.volumeCreated.Wraps value envelope → ∀ origin,
        ∃ problem, PluginMessage.codec.read origin (.ofJson envelope) = .error problem := by
    intro value envelope hvalue hwraps origin
    obtain ⟨inner, hread⟩ := read_of_wraps hwraps origin
    obtain ⟨problem, hproblem⟩ := hvalue inner
    exact ⟨problem, by rw [hread, hproblem]; rfl⟩
  refine ⟨⟨hcanonical .value, hvalue⟩,
    fun envelope hwraps => ⟨hbody hcanonical hwraps.canonical .value, hbody hvalue hwraps⟩, ?_⟩
  intro envelope text hwraps htext request status
  obtain ⟨problem, hproblem⟩ := hbody hvalue hwraps .text
  rw [← message?_of_wraps hwraps hplain htext status] at hproblem
  exact ⟨_, PluginCall.outcome_of_problem hproblem⟩

end CreateVolumeResponse

/-! ### Created volumes in proto JSON -/

/-- The members of a volume in proto JSON, with the entries of its context. `sized` and `labelled` say
whether its capacity and its context are written. -/
def Volume.protoMembers (v : Volume) (sized labelled : Bool) (context : List (String × Json)) :
    List (String × Json) :=
  ("volumeId", .str v.volumeId) ::
    ((if sized then [("capacityBytes", .str (toString v.capacityBytes.toNat))] else []) ++
      if labelled then [("volumeContext", .obj context)] else [])

namespace CreateVolumeResponse

/-- The documents of a created volume in proto JSON. The order of members is free; a capacity of zero and
an empty context may be left out. -/
inductive Proto (r : CreateVolumeResponse) (sized : Bool) : Json → Prop where
  | intro {labelled : Bool} {members context : List (String × Json)}
    (hmembers : members.Perm (r.volume.protoMembers sized labelled context))
    (hcontext : context.Perm (r.volume.volumeContext.entries.map fun e => (e.1, .str e.2)))
    (hsized : sized = false → r.volume.capacityBytes = 0)
    (hlabelled : labelled = false → r.volume.volumeContext = .empty) :
    Proto r sized (.obj [("volume", .obj members)])

def style : Style CreateVolumeResponse :=
  .record (.cons ⟨["volume"], Volume.style, none⟩ .nil) fun r => (r.volume, ())

theorem follows : CreateVolumeResponse.shape.codec.Follows style :=
  @Shape.follows _ shape _ (by decide)
    ⟨⟨by decide, by decide, Volume.follows, rfl, nofun⟩, trivial⟩ fun _ => rfl

variable {r : CreateVolumeResponse} {sized : Bool} {value : Json}

/-- Without its capacity a document in proto JSON is one of the spellings that are read. -/
theorem Proto.words (h : r.Proto false value) : style.words r value := by
  obtain @⟨labelled, members, context, hmembers, hcontext, hsized, hlabelled⟩ := h
  refine ⟨_, _, rfl, .refl _, .inr ⟨_, _, _, rfl, List.mem_singleton_self _, ?_, rfl⟩⟩
  -- the id is given, the capacity is not, and the context may be
  refine ⟨members, _, rfl, hmembers, .inr ⟨_, _, _, rfl, by decide, rfl,
    .inl ⟨congrArg some (hsized rfl).symm, ?_⟩⟩⟩
  cases labelled with
  | false => exact .inl ⟨congrArg some (hlabelled rfl).symm, rfl⟩
  | true => exact .inr ⟨_, _, _, rfl, by decide, ⟨context, rfl, hcontext⟩, rfl⟩

/-- A string is read as no capacity, so a volume that has one there is not read. -/
theorem refuse_of_str {members : List (String × Json)} {text : String}
    (h : ("capacityBytes", Json.str text) ∈ members) (origin : Origin) : ∃ problem,
      shape.codec.read origin (.ofJson (.obj [("volume", .obj members)])) = .error problem := by
  cases hread : shape.codec.read origin (.ofJson (.obj [("volume", .obj members)])) with
  | error problem => exact ⟨problem, rfl⟩
  | ok r =>
    obtain ⟨v, hvolume⟩ : ∃ v, Volume.shape.codec.read origin (.ofJson (.obj members)) = .ok v :=
      Shape.reads_of_read hread List.mem_cons_self
    rw [Source.ofJson_obj] at hvolume
    obtain ⟨n, hn⟩ : ∃ n, Codec.uint64.read origin (.str text) = .ok n :=
      Shape.reads_of_read hvolume (List.mem_map_of_mem h)
    cases hn

/-- With its capacity a document in proto JSON is refused, as it stands and in canonical form. -/
theorem Proto.refuse (h : r.Proto true value) (origin : Origin) :
    (∃ problem, shape.codec.read origin (.ofJson value) = .error problem) ∧
      ∃ problem, shape.codec.read origin (.ofJson value.canonical) = .error problem := by
  obtain @⟨labelled, members, context, hmembers, -, -, -⟩ := h
  have hcapacity : ("capacityBytes", Json.str (toString r.volume.capacityBytes.toNat)) ∈ members :=
    hmembers.mem_iff.2 (by simp [Volume.protoMembers])
  have hkeys : (members.map Prod.fst).Nodup := by
    rw [(hmembers.map Prod.fst).nodup_iff]
    cases labelled <;> simp [Volume.protoMembers]
  -- the string is still there when the members have been sorted
  obtain ⟨sorted, hsorted, hperm⟩ := Json.canonical_obj_perm hkeys
  obtain ⟨outer, houter, hsingle⟩ :=
    @Json.canonical_obj_perm [("volume", .obj members)] (List.nodup_singleton _)
  obtain rfl := List.perm_singleton.1 hsingle
  refine ⟨refuse_of_str hcapacity origin, ?_⟩
  rw [houter]
  dsimp only
  rw [hsorted]
  exact refuse_of_str (hperm.mem_iff.2 (List.mem_map_of_mem hcapacity)) origin

theorem Proto.plain (h : r.Proto sized value) : value.Plain 3 := by
  obtain @⟨labelled, members, context, hmembers, hcontext, -, -⟩ := h
  have hentries : (Json.obj context).Plain 1 := by
    refine .obj fun m hm => ?_
    obtain ⟨e, -, rfl⟩ := List.mem_map.1 (hcontext.mem_iff.1 hm)
    exact .str 0 _
  refine .obj (List.forall_mem_singleton.2 (.obj fun m hm => ?_))
  -- the members are texts and the dictionary of texts, in whichever order
  have hwritten := hmembers.mem_iff.1 hm
  simp only [Volume.protoMembers, List.mem_cons, List.mem_append, List.mem_ite_nil_right,
    List.not_mem_nil, or_false] at hwritten
  rcases hwritten with rfl | ⟨-, rfl⟩ | ⟨-, rfl⟩
  · exact .str 1 _
  · exact .str 1 _
  · exact hentries

/-- **Replies in proto JSON.** A created volume in proto JSON is understood exactly if its capacity is
left out. If it is given, as the string that it is in proto JSON, the document is lost. -/
theorem understood_iff (r : CreateVolumeResponse) (sized : Bool) (value : Json)
    (h : r.Proto sized value) :
    (r.Understood value ↔ sized = false) ∧ (Lost value ↔ sized = true) := by
  -- a size is written as a text, which is refused; without one the answer is as it should be
  cases sized with
  | false =>
    have hwords := h.words
    have hunderstood : r.Understood value := understood_of_read h.plain (follows.read hwords)
      (follows.read (follows.words_canonical hwords))
    exact ⟨⟨fun _ => rfl, fun _ => hunderstood⟩, fun hlost => absurd hlost hunderstood.not_lost, nofun⟩
  | true =>
    have hlost : Lost value := lost_of_refuse h.plain (fun origin => (h.refuse origin).1)
      fun origin => (h.refuse origin).2
    exact ⟨⟨fun hunderstood => absurd hlost hunderstood.not_lost, nofun⟩, fun _ => rfl, fun _ => hlost⟩

end CreateVolumeResponse

namespace SizedReply

/-- A volume of one gibibyte. -/
def created : CreateVolumeResponse := ⟨⟨"vol-1", 1073741824, .empty⟩⟩

/-- The document of it in proto JSON. -/
def document : Json :=
  .obj [("volume", .obj [("volumeId", .str "vol-1"), ("capacityBytes", .str "1073741824"),
    ("volumeContext", .obj [])])]

theorem proto_document : created.Proto true document :=
  @CreateVolumeResponse.Proto.intro created true true _ [] (.refl _) (.refl _) nofun nofun

/-- It is lost; without the capacity, and so for a volume of unknown size, it would be understood. -/
theorem lost_document :
    created.Proto true document ∧ CreateVolumeResponse.Lost document ∧
      (⟨⟨"vol-1", 0, .empty⟩⟩ : CreateVolumeResponse).Understood
        (.obj [("volume", .obj [("volumeId", .str "vol-1")])]) :=
  ⟨proto_document,
    (CreateVolumeResponse.understood_iff created true document proto_document).2.2 rfl,
    (CreateVolumeResponse.understood_iff ⟨⟨"vol-1", 0, .empty⟩⟩ false _
      (@CreateVolumeResponse.Proto.intro _ false false _ [] (.refl _) (.refl _)
        (fun _ => rfl) fun _ => rfl)).1.2 rfl⟩

/-- Not every created volume is understood in proto JSON. -/
theorem not_understood :
    created.Proto true document ∧ ¬created.Understood document := by
  refine ⟨proto_document, fun hunderstood => ?_⟩
  have hread : CreateVolumeResponse.shape.codec.ofJson document
      = .error (.mismatch (.wrongType (.str "1073741824") "u64")) := rfl
  rw [hunderstood.alone.1] at hread
  cases hread

end SizedReply

end VolumeBroker
