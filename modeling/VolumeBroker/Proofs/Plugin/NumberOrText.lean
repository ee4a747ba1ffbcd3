import VolumeBroker.Broker.Parameters
import VolumeBroker.Proofs.Codec.Exact
import VolumeBroker.Proofs.Plugin.Spellings
/-!
# Byte counts and access modes, exactly

A byte count is written as a number or in decimal digits, an access mode by its name or its number.
`ByteCountForm` and `AccessModeForm` say so for one value; `byteCount_read_iff` and
`accessMode_read_iff` say that these documents are read as this value, and that no others are.

`CreateVolumeRequest.ByteCountAt` and `CreateVolumeRequest.AccessModeAt` say where in a request byte
counts and access modes stand. One document that has not its form at one such place spoils the request as
a whole (`CreateVolumeRequest.Misfit`).
-/

namespace VolumeBroker

/-! ### Byte counts -/

/-- Without a digit there is no value. -/
theorem digits_of_decimalValue? {digits : List Char} {n : Nat} (h : decimalValue? digits = some n) :
    ∀ c ∈ digits, c.isDigit = true := by
  unfold decimalValue? at h
  -- digit by digit, from whatever the digits in front have given
  generalize 0 = start at h
  induction digits generalizing start with
  | nil => exact fun _ hc => nomatch hc
  | cons c digits ih =>
    rw [List.foldl_cons, Option.bind_some] at h
    split at h
    · next hdigit =>
      have hc : c.isDigit = true := by simpa [Char.isDigit, Char.le_def] using hdigit
      exact List.forall_mem_cons.2 ⟨hc, ih _ h⟩
    · -- from here on there is no value any more
      have hnone : ∀ rest : List Char, rest.foldl (fun value c => value.bind fun n =>
          if '0' ≤ c ∧ c ≤ '9' then some (n * 10 + (c.toNat - '0'.toNat)) else none) none = none := by
        intro rest
        induction rest with
        | nil => rfl
        | cons _ _ ih => exact ih
      rw [hnone] at h
      cases h

/-- A sign is no digit. -/
theorem DecimalText.ne_signed {n : Nat} {text : String} {rest : List Char} (h : DecimalText n text) :
    text.toList ≠ '+' :: rest := by
  intro hlist
  exact absurd (h.digits '+' (hlist ▸ List.mem_cons_self)) (by decide)

/-- The documents of a byte count: the number, or its decimal digits with a plus sign in front or
without. -/
inductive ByteCountForm (n : UInt64) : Json → Prop where
  | number : ByteCountForm n (.number (.int n.toNat))
  | text {digits : String} (h : DecimalText n.toNat digits) : ByteCountForm n (.str digits)
  | signed {digits : String} (h : DecimalText n.toNat digits) : ByteCountForm n (.str ("+" ++ digits))

theorem byteCountForm_str_iff {text : String} {n : UInt64} : ByteCountForm n (.str text) ↔
    DecimalText n.toNat text ∨ ∃ digits, text = "+" ++ digits ∧ DecimalText n.toNat digits := by
  constructor
  · intro h
    generalize hvalue : Json.str text = value at h
    cases h with
    | number => cases hvalue
    | text h => exact .inl (Json.str.inj hvalue ▸ h)
    | signed h => exact .inr ⟨_, Json.str.inj hvalue, h⟩
  · rintro (h | ⟨digits, rfl, h⟩)
    · exact .text h
    · exact .signed h

/-- What is read of the digits behind the sign, or of the whole text if there is none. -/
theorem decimalText_iff {digits : List Char} {n : UInt64} :
    (if digits.isEmpty = true then none else
      (decimalValue? digits).bind fun v => if v < twoPow 64 then some (UInt64.ofNat v) else none)
        = some n ↔ DecimalText n.toNat (String.ofList digits) := by
  have hpower : twoPow 64 = 2 ^ 64 := by decide
  constructor
  · intro h
    split at h
    · cases h
    next hnonempty =>
    obtain ⟨v, hv, h⟩ := Option.bind_eq_some_iff.1 h
    split at h
    · next hrange =>
      have hall := digits_of_decimalValue? hv
      have hvalue : n.toNat = v := by
        rw [← Option.some.inj h, UInt64.toNat_ofNat_of_lt' (show v < 2 ^ 64 from hpower ▸ hrange)]
      refine ⟨?_, ?_, ?_⟩ <;> rw [String.toList_ofList]
      · simpa using hnonempty
      · exact hall
      · rw [hvalue]
        exact Option.some.inj ((decimalValue?_of_digits hall).symm.trans hv)
    · cases h
  · rintro ⟨hnonempty, hall, hvalue⟩
    rw [String.toList_ofList] at hnonempty hall hvalue
    have hrange : n.toNat < twoPow 64 := hpower ▸ n.toNat_lt
    rw [if_neg (by simpa using hnonempty), decimalValue?_of_digits hall, hvalue, Option.bind_some,
      if_pos hrange, UInt64.ofNat_toNat]

theorem byteCount?_eq_some_iff {text : String} {n : UInt64} :
    byteCount? text = some n ↔ ByteCountForm n (.str text) := by
  rw [byteCountForm_str_iff]
  unfold byteCount?
  dsimp only
  -- one sign in front is passed over; digits without it do not start with one
  split
  · next digits hlist =>
    have htext : text = "+" ++ String.ofList digits := by
      rw [← String.toList_inj, hlist, String.toList_append, String.toList_ofList,
        String.toList_ofList, List.singleton_append]
    refine decimalText_iff.trans ⟨fun h => .inr ⟨_, htext, h⟩, ?_⟩
    rintro (h | ⟨rest, hrest, h⟩)
    · exact absurd hlist h.ne_signed
    · rwa [(String.append_right_inj "+").1 (htext.symm.trans hrest)]
  · next hunsigned =>
    refine decimalText_iff.trans ?_
    rw [String.ofList_toList]
    refine ⟨.inl, ?_⟩
    rintro (h | ⟨rest, rfl, -⟩)
    · exact h
    · exact absurd String.toList_append (hunsigned _)

/-- **Byte counts, exactly.** -/
theorem byteCount_read_iff {n : UInt64} {value : Json} (origin : Origin) :
    byteCountCodec.read origin (.ofJson value) = .ok n ↔ ByteCountForm n value := by
  have hpower : twoPow 64 = 2 ^ 64 := by decide
  show readByteCount (.ofJson value) = .ok n ↔ _
  unfold readByteCount
  rw [Source.readFault_ofJson]
  dsimp only
  cases value with
  | number number =>
    cases number with
    | int k =>
      simp only [Source.ofJson]
      split
      · -- a number within 64 bits is its own count, and no other number is a count
        next hrange =>
        have hlt : k.toNat < 2 ^ 64 := by omega
        constructor
        · intro h
          have hk : k = n.toNat := by
            rw [← Except.ok.inj h, UInt64.toNat_ofNat_of_lt' hlt, Int.toNat_of_nonneg hrange.1]
          exact hk ▸ .number
        · rintro ⟨⟩
          rw [Int.toNat_natCast, UInt64.ofNat_toNat]
      · next hrange =>
        refine ⟨by rintro ⟨⟩, ?_⟩
        rintro ⟨⟩
        have hlt := n.toNat_lt
        omega
    | real x => constructor <;> rintro ⟨⟩
  | str text =>
    rw [← byteCount?_eq_some_iff]
    simp only [Source.ofJson]
    cases byteCount? text with
    | none => constructor <;> rintro ⟨⟩
    | some m => rw [Except.ok.injEq, Option.some.injEq]
  | arr items =>
    rw [Source.ofJson_arr]
    constructor <;> rintro ⟨⟩
  | obj members =>
    rw [Source.ofJson_obj]
    constructor <;> rintro ⟨⟩
  | null => constructor <;> rintro ⟨⟩
  | bool b => constructor <;> rintro ⟨⟩

/-! ### Access modes -/

/-- The documents of an access mode: its name, or its place among all modes. -/
inductive AccessModeForm (mode : AccessMode) : Json → Prop where
  | name : AccessModeForm mode (.str mode.name)
  | number {i : Nat} (h : AccessMode.all[i]? = some mode) : AccessModeForm mode (.number (.int i))

theorem AccessMode.ofName?_eq_some_iff {text : String} {mode : AccessMode} :
    ofName? text = some mode ↔ text = mode.name := by
  constructor
  · intro h
    unfold ofName? at h
    have hname := List.find?_some h
    exact (eq_of_beq hname).symm
  · rintro rfl
    exact ofName?_name mode

theorem AccessMode.ofNumber?_eq_some_iff {k : Int} {mode : AccessMode} :
    ofNumber? k = some mode ↔ ∃ i : Nat, k = i ∧ all[i]? = some mode := by
  unfold ofNumber?
  constructor
  · intro h
    split at h
    · next hk => exact ⟨k.toNat, (Int.toNat_of_nonneg hk).symm, h⟩
    · cases h
  · rintro ⟨i, rfl, h⟩
    rwa [if_pos (Int.natCast_nonneg i), Int.toNat_natCast]

/-- **Access modes, exactly.** -/
theorem accessMode_read_iff {mode : AccessMode} {value : Json} (origin : Origin) :
    AccessMode.codec.read origin (.ofJson value) = .ok mode ↔ AccessModeForm mode value := by
  have hpower : 6 ≤ twoPow 63 := by decide
  show AccessMode.read (.ofJson value) = .ok mode ↔ _
  unfold AccessMode.read
  rw [Source.readFault_ofJson]
  dsimp only
  cases value with
  | number number =>
    cases number with
    | int k =>
      have hform : AccessModeForm mode (.number (.int k)) ↔ AccessMode.ofNumber? k = some mode := by
        rw [AccessMode.ofNumber?_eq_some_iff]
        constructor
        · rintro ⟨⟩
          exact ⟨_, rfl, ‹_›⟩
        · rintro ⟨i, rfl, h⟩
          exact .number h
      rw [hform]
      simp only [Source.ofJson]
      split
      · cases AccessMode.ofNumber? k with
        | none => constructor <;> rintro ⟨⟩
        | some m => rw [Except.ok.injEq, Option.some.injEq]
      · next hrange =>
        -- a number as far out is none of a mode
        refine ⟨by rintro ⟨⟩, fun h => ?_⟩
        obtain ⟨i, rfl, hmode⟩ := AccessMode.ofNumber?_eq_some_iff.1 h
        have hi : i < 6 := (List.getElem?_eq_some_iff.1 hmode).1
        omega
    | real x => constructor <;> rintro ⟨⟩
  | str text =>
    have hform : AccessModeForm mode (.str text) ↔ AccessMode.ofName? text = some mode := by
      rw [AccessMode.ofName?_eq_some_iff]
      exact ⟨by rintro ⟨⟩; rfl, by rintro rfl; exact .name⟩
    rw [hform]
    simp only [Source.ofJson]
    cases AccessMode.ofName? text with
    | none => constructor <;> rintro ⟨⟩
    | some m => rw [Except.ok.injEq, Option.some.injEq]
  | arr items =>
    rw [Source.ofJson_arr]
    constructor <;> rintro ⟨⟩
  | obj members =>
    rw [Source.ofJson_obj]
    constructor <;> rintro ⟨⟩
  | null => constructor <;> rintro ⟨⟩
  | bool b => constructor <;> rintro ⟨⟩

/-! ### Requests -/

namespace CreateVolumeRequest

/-- A part of the document of a request stands where a byte count of the wanted size belongs. -/
inductive ByteCountAt (value part : Json) : Prop where
  | intro {range : Json} (hrange : value.PartUnder ["capacity_range", "capacityRange"] 1 range)
      (hcount : range.PartUnder ["required_bytes", "requiredBytes"] 0 part ∨
        range.PartUnder ["limit_bytes", "limitBytes"] 1 part)

/-- A part of the document of a request stands where the access mode of a capability belongs. -/
inductive AccessModeAt (value part : Json) : Prop where
  | intro {capabilities : List Json} {capability setting : Json}
      (hlist : value.PartUnder ["volume_capabilities", "volumeCapabilities"] 2 (.arr capabilities))
      (hcapability : capability ∈ capabilities)
      (hsetting : capability.PartUnder ["access_mode", "accessMode"] 2 setting)
      (hmode : setting.PartUnder ["mode"] 0 part)

/-- Somewhere in the document of a request stands no byte count or no access mode where one belongs. -/
inductive Misfit (value : Json) : Prop where
  | byteCount {part : Json} (hpart : ByteCountAt value part) (h : ∀ n, ¬ByteCountForm n part)
  | accessMode {part : Json} (hpart : AccessModeAt value part) (h : ∀ mode, ¬AccessModeForm mode part)

variable {origin : Origin} {value part : Json} {request : CreateVolumeRequest}

/-- In a request that is read every byte count has its form. -/
theorem ByteCountAt.exists_form (h : ByteCountAt value part)
    (hread : shape.read origin (.ofJson value) = .ok request) : ∃ n, ByteCountForm n part := by
  obtain @⟨range, hrange, hcount⟩ := h
  obtain ⟨o, ho⟩ : ∃ o, CapacityRange.shape.codec.option.read origin (.ofJson range) = .ok o :=
    Shape.exists_of_partUnder hread hrange
      (List.forall_mem_cons.2 ⟨fun _ h => h, List.forall_mem_singleton.2 fun _ h => h⟩) fun _ h => h
  -- a range in which a byte count stands is there
  have hne : range ≠ .null := hcount.elim Json.PartUnder.ne_null Json.PartUnder.ne_null
  rw [Codec.read_option_of_ne_null origin hne] at ho
  obtain ⟨r, hr, -⟩ := exists_of_map_ok ho
  obtain ⟨n, hn⟩ : ∃ n, byteCountCodec.read origin (.ofJson part) = .ok n := by
    rcases hcount with hcount | hcount
    all_goals
      exact Shape.exists_of_partUnder hr hcount
        (List.forall_mem_cons.2 ⟨fun _ h => h, List.forall_mem_singleton.2 fun _ h => h⟩) fun _ h => h
  exact ⟨n, (byteCount_read_iff origin).1 hn⟩

/-- In a request that is read every access mode has its form. -/
theorem AccessModeAt.exists_form (h : AccessModeAt value part)
    (hread : shape.read origin (.ofJson value) = .ok request) : ∃ mode, AccessModeForm mode part := by
  obtain @⟨capabilities, capability, setting, hlist, hcapability, hsetting, hmode⟩ := h
  -- from the outside in: the list, the capability, its setting and the mode in it
  obtain ⟨list, hread⟩ : ∃ list, VolumeCapability.shape.codec.list.read origin
      (.ofJson (.arr capabilities)) = .ok list :=
    Shape.exists_of_partUnder hread hlist
      (List.forall_mem_cons.2 ⟨fun _ h => h, List.forall_mem_singleton.2 fun _ h => h⟩) fun _ h => h
  rw [Source.ofJson_arr] at hread
  obtain ⟨items, hitems, -⟩ := exists_of_bind_ok hread
  obtain ⟨c, hc⟩ := Codec.exists_of_readItems hitems (List.mem_map_of_mem hcapability)
  obtain ⟨o, ho⟩ : ∃ o, AccessModeSetting.shape.codec.option.read origin (.ofJson setting) = .ok o :=
    Shape.exists_of_partUnder hc hsetting
      (List.forall_mem_cons.2 ⟨fun _ h => h, List.forall_mem_singleton.2 fun _ h => h⟩) fun _ h => h
  rw [Codec.read_option_of_ne_null origin hmode.ne_null] at ho
  obtain ⟨r, hr, -⟩ := exists_of_map_ok ho
  obtain ⟨mode, hread⟩ : ∃ mode, AccessMode.codec.read origin (.ofJson part) = .ok mode :=
    Shape.exists_of_partUnder hr hmode (List.forall_mem_singleton.2 fun _ h => h) fun _ h => h
  exact ⟨mode, (accessMode_read_iff origin).1 hread⟩

/-- A misfit spoils the request. -/
theorem Misfit.refuse (h : Misfit value) (origin : Origin) :
    ∃ problem, shape.read origin (.ofJson value) = .error problem := by
  -- had it been read, the part would have a form after all
  cases hread : shape.read origin (.ofJson value) with
  | error problem => exact ⟨problem, rfl⟩
  | ok request =>
    cases h with
    | byteCount hpart h =>
      obtain ⟨n, hn⟩ := hpart.exists_form hread
      exact absurd hn (h n)
    | accessMode hpart h =>
      obtain ⟨mode, hmode⟩ := hpart.exists_form hread
      exact absurd hmode (h mode)

/-- **Numbers or texts, exactly.** A byte count is read from its number or from its decimal digits, with
a plus sign in front or without, and an access mode from its number or its name. Nothing else is read as
either, and a request with anything else in such a place is not read at all: it is refused wherever it
comes from, and a provision with it as well. -/
theorem reads_numbers_or_texts :
    (∀ n value origin, byteCountCodec.read origin (.ofJson value) = .ok n ↔ ByteCountForm n value) ∧
    (∀ mode value origin,
      AccessMode.codec.read origin (.ofJson value) = .ok mode ↔ AccessModeForm mode value) ∧
    (∀ value, Misfit value → ∀ origin,
      ∃ problem, shape.codec.read origin (.ofJson value) = .error problem) ∧
    ∀ value, Misfit value.canonical →
      ∃ text, Parameters.volumeRequest (some value) = .error (.invalidParameters text) := by
  refine ⟨fun _ _ origin => byteCount_read_iff origin, fun _ _ origin => accessMode_read_iff origin,
    fun _ h => h.refuse, fun value h => ?_⟩
  obtain ⟨problem, hproblem⟩ := h.refuse .value
  have hread : shape.codec.ofJson value = .error problem := hproblem
  exact ⟨problem.message, by rw [Parameters.volumeRequest, hread]⟩

/-- Zeros in front count nothing, and the greatest byte count still has a sign in front; the next number
has none. -/
example : byteCount? "+0018446744073709551615" = some 18446744073709551615 ∧
    byteCount? "18446744073709551616" = none := by decide

end CreateVolumeRequest

end VolumeBroker
