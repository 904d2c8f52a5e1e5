import NodeTuning.Object.KubeletConfig
import NodeTuning.Object.MachineConfig
import NodeTuning.Object.Pool
import NodeTuning.Object.Profile
import NodeTuning.Object.Tuned
import NodeTuning.Proofs.Json.Codec
import NodeTuning.Proofs.Time.Rfc3339

/-!
The documents of specs, statuses and selectors. Main statements: each value is read back from its
document, absent fields as absent and empty ones as empty, as long as its times are ones that a text
can stand for, and what is read from any document is such a value.
-/
namespace NodeTuning

section Specs

instance : LawfulCodec CpuSplit where
  kept _ := .of_record rfl (fun _ => rfl) (by simp) (by simp)

instance : LawfulCodec HugePage where
  kept _ := .of_record rfl (fun _ => rfl) (by simp) (by simp)

instance : LawfulCodec HugePages where
  kept _ := .of_record rfl (fun _ => rfl) (by simp) (by simp)

instance : LawfulCodec RealTimeKernel where
  kept _ := .of_record rfl (fun _ => rfl) (by simp) (by simp)

instance : LawfulCodec NumaSettings where
  kept _ := .of_record rfl (fun _ => rfl) (by simp) (by simp)

instance : LawfulCodec WorkloadHints where
  kept _ := .of_record rfl (fun _ => rfl) (by simp) (by simp)

instance : LawfulCodec ProfileSpec where
  kept _ := .of_record rfl (fun _ => rfl) (by simp) (by simp)

instance : LawfulCodec Requirement where
  kept _ := .of_record rfl (fun _ => rfl) (by simp) (by simp)

instance : LawfulCodec LabelSelector where
  kept _ := .of_record rfl (fun _ => rfl) (by simp) (by simp)

instance : LawfulCodec SystemdUnit where
  kept _ := .of_record rfl (fun _ => rfl) (by simp) (by simp)

instance {name : String} {α : Type} [JsonCodec α] [LawfulCodec α] :
    LawfulCodec (Wrapped name α) where
  kept _ := .of_record rfl (fun _ => rfl) (by simp) (by simp)

instance {name : String} {α : Type} [JsonCodec α] [LawfulCodec α] :
    LawfulCodec (WrappedList name α) where
  kept _ := .of_record rfl (fun _ => rfl) (by simp) (by simp)

instance : LawfulCodec NodeFile where
  kept _ := .of_record rfl (fun _ => rfl) (by simp) (by simp [Function.comp_def])

instance : LawfulCodec BootConfig where
  kept _ := .of_record rfl (fun _ => rfl) (by simp) (by simp [Function.comp_def])

instance : LawfulCodec MachineConfigSpec where
  kept _ := .of_record rfl (fun _ => rfl) (by simp) (by simp)

instance : LawfulCodec KubeletSettings where
  kept _ := .of_record rfl (fun _ => rfl) (by simp) (by simp)

instance : LawfulCodec KubeletConfigSpec where
  kept _ := .of_record rfl (fun _ => rfl) (by simp) (by simp)

instance : LawfulCodec PoolSpec where
  kept _ := .of_record rfl (fun _ => rfl) (by simp) (by simp)

instance : LawfulCodec TunedProfile where
  kept _ := .of_record rfl (fun _ => rfl) (by simp) (by simp)

instance : LawfulCodec TunedRecommendation where
  kept _ := .of_record rfl (fun _ => rfl) (by simp) (by simp)

instance : LawfulCodec TunedSpec where
  kept _ := .of_record rfl (fun _ => rfl) (by simp) (by simp)

instance : LawfulCodec ConditionType where
  kept type := by cases type <;> exact ⟨rfl, nofun⟩

instance : LawfulCodec ConditionStatus where
  kept status := by cases status <;> exact ⟨rfl, nofun⟩

end Specs

/-! Statuses hold times, and not every time has a text of its own. -/

theorem Timestamp.kept {time : Timestamp} (exact : time.Exact) : Kept time :=
  ⟨Timestamp.read?_text exact, nofun⟩

theorem Timestamp.exact_of_decode {json : Json} {time : Timestamp}
    (read : decode? json = some time) : time.Exact := by
  cases json with
  | str text => exact Timestamp.exact_of_read? read
  | _ => cases read

structure Condition.Exact (condition : Condition) : Prop where
  transition : ∀ time, condition.lastTransitionTime = some time → time.Exact
  heartbeat : ∀ time, condition.lastHeartbeatTime = some time → time.Exact

def ProfileStatus.Exact (status : ProfileStatus) : Prop :=
  ∀ condition ∈ status.conditions, condition.Exact

def PoolCondition.Exact (condition : PoolCondition) : Prop :=
  ∀ time, condition.lastTransitionTime = some time → time.Exact

def PoolStatus.Exact (status : PoolStatus) : Prop :=
  ∀ condition ∈ status.conditions, condition.Exact

theorem Condition.kept {condition : Condition} (exact : condition.Exact) : Kept condition := by
  have transition : ∀ time, condition.lastTransitionTime = some time → Kept time :=
    fun time own => Timestamp.kept (exact.transition time own)
  have heartbeat : ∀ time, condition.lastHeartbeatTime = some time → Kept time :=
    fun time own => Timestamp.kept (exact.heartbeat time own)
  exact .of_record rfl (fun _ => rfl) (by simp)
    (by simp [Fields.optional_optionalField transition, Fields.optional_optionalField heartbeat])

theorem ProfileStatus.kept {status : ProfileStatus} (exact : status.Exact) : Kept status := by
  have conditions : Kept status.conditions :=
    kept_list fun condition member => Condition.kept (exact condition member)
  exact .of_record rfl (fun _ => rfl) (by simp) (by simp [conditions])

theorem PoolCondition.kept {condition : PoolCondition} (exact : condition.Exact) :
    Kept condition := by
  have transition : ∀ time, condition.lastTransitionTime = some time → Kept time :=
    fun time own => Timestamp.kept (exact time own)
  exact .of_record rfl (fun _ => rfl) (by simp)
    (by simp [Fields.optional_optionalField transition])

theorem PoolStatus.kept {status : PoolStatus} (exact : status.Exact) : Kept status := by
  have conditions : Kept status.conditions :=
    kept_list fun condition member => PoolCondition.kept (exact condition member)
  exact .of_record rfl (fun _ => rfl) (by simp) (by simp [conditions])

theorem Condition.exact_of_decode {json : Json} {condition : Condition}
    (read : decode? json = some condition) : condition.Exact := by
  obtain ⟨fields, _, read⟩ := Option.bind_eq_some_iff.1 read
  simp only [Option.bind_eq_bind, Option.bind_eq_some_iff] at read
  obtain ⟨_, _, _, _, _, _, _, _, transition, moved, heartbeat, beat, same⟩ := read
  cases same
  constructor
  · rintro time rfl
    obtain ⟨own, decoded⟩ := decoded_of_optional moved
    exact Timestamp.exact_of_decode decoded
  · rintro time rfl
    obtain ⟨own, decoded⟩ := decoded_of_optional beat
    exact Timestamp.exact_of_decode decoded

theorem ProfileStatus.exact_of_decode {json : Json} {status : ProfileStatus}
    (read : decode? json = some status) : status.Exact := by
  obtain ⟨fields, _, read⟩ := Option.bind_eq_some_iff.1 read
  simp only [Option.bind_eq_bind, Option.bind_eq_some_iff] at read
  obtain ⟨conditions, listed, _, _, _, _, same⟩ := read
  cases same
  intro condition member
  rcases decoded_of_withDefault listed with rfl | ⟨own, decoded⟩
  · cases member
  · obtain ⟨item, itself⟩ := decoded_of_mem decoded member
    exact Condition.exact_of_decode itself

theorem PoolCondition.exact_of_decode {json : Json} {condition : PoolCondition}
    (read : decode? json = some condition) : condition.Exact := by
  obtain ⟨fields, _, read⟩ := Option.bind_eq_some_iff.1 read
  simp only [Option.bind_eq_bind, Option.bind_eq_some_iff] at read
  obtain ⟨_, _, _, _, _, _, _, _, transition, moved, same⟩ := read
  cases same
  rintro time rfl
  obtain ⟨own, decoded⟩ := decoded_of_optional moved
  exact Timestamp.exact_of_decode decoded

theorem PoolStatus.exact_of_decode {json : Json} {status : PoolStatus}
    (read : decode? json = some status) : status.Exact := by
  obtain ⟨fields, _, read⟩ := Option.bind_eq_some_iff.1 read
  simp only [Option.bind_eq_bind, Option.bind_eq_some_iff] at read
  obtain ⟨conditions, listed, _, _, _, _, _, _, _, _, same⟩ := read
  cases same
  intro condition member
  rcases decoded_of_withDefault listed with rfl | ⟨own, decoded⟩
  · cases member
  · obtain ⟨item, itself⟩ := decoded_of_mem decoded member
    exact PoolCondition.exact_of_decode itself

/-- Specs, statuses and selectors are read back from their documents: statuses if their times are
exact, all else without exception. -/
theorem documents_round_trip :
    RoundTrips ProfileSpec (fun _ => True) ∧ RoundTrips ProfileStatus ProfileStatus.Exact ∧
    RoundTrips MachineConfigSpec (fun _ => True) ∧ RoundTrips KubeletConfigSpec (fun _ => True) ∧
    RoundTrips PoolSpec (fun _ => True) ∧ RoundTrips PoolStatus PoolStatus.Exact ∧
    RoundTrips TunedSpec (fun _ => True) ∧ RoundTrips LabelSelector (fun _ => True) :=
  ⟨LawfulCodec.roundTrips _,
    .of_kept (fun _ => ProfileStatus.kept) fun _ _ => ProfileStatus.exact_of_decode,
    LawfulCodec.roundTrips _, LawfulCodec.roundTrips _, LawfulCodec.roundTrips _,
    .of_kept (fun _ => PoolStatus.kept) fun _ _ => PoolStatus.exact_of_decode,
    LawfulCodec.roundTrips _, LawfulCodec.roundTrips _⟩

/-- A reason and a reference that are there but empty stay so, and a time keeps its nanoseconds. -/
theorem documents_round_trip_leap_day :
    let time : Timestamp :=
      ⟨⟨2024, 2, 29, by decide, by decide⟩, 86399, 120000001, by decide, by decide⟩
    let status : ProfileStatus :=
      { conditions := [⟨.degraded, .holds, some "", none, some time, none⟩], tuned := some "" }
    status.Exact ∧ decode? (encode status) = some status := by
  intro time status
  have known : time.Exact := ⟨by decide, fun late => absurd late (by decide)⟩
  have exact : status.Exact := by
    intro condition member
    cases List.mem_singleton.1 member
    exact ⟨fun own same => Option.some.inj same ▸ known, nofun⟩
  exact ⟨exact, documents_round_trip.2.1.written status exact⟩

end NodeTuning
