import CloudImages.Definition
import CloudImages.Proofs.Json.Access

set_option autoImplicit false

/-! # What a definition has to be

The rules of a definition, each as a condition on its members. `read_eq_ok_iff` says that an image
is read from a definition exactly when all of them hold, and what the image then is. -/

namespace CloudImages

open Json Outcome

namespace Definition

theorem lift_eq_ok_iff {α : Type} {x : Except AccessError α} {a : α} :
    (liftM x : Except DefinitionError α) = .ok a ↔ x = .ok a := by
  cases x <;> simp [liftM, monadLift, MonadLift.monadLift]

theorem checkVersion_eq_ok_iff {administration : Value} :
    checkVersion administration = .ok () ↔
      administration.get .integer "Version" = .ok supportedVersion := by
  constructor
  · intro h
    obtain ⟨version, read, h₁⟩ := bind_eq_ok_iff.1 h
    split at h₁
    · next supported => exact supported ▸ lift_eq_ok_iff.1 read
    · exact absurd h₁ (by simp)
  · intro read
    exact bind_eq_ok_iff.2 ⟨supportedVersion, lift_eq_ok_iff.2 read, by simp [pure, Except.pure]⟩

/-! ## Environment and labels -/

/-- The value has a text, and one that is not reserved for environment entries. -/
def FreeEntry (v : Value) : Prop :=
  ∃ text, v.asA .text = .ok text ∧ ¬ Reserved.isEnv text

/-- The environment of a container is absent or a list of entries that are not reserved. -/
def FreeEnv (container : Value) : Prop :=
  container.field? "Env" = .ok none ∨
    ∃ entries, container.field? "Env" = .ok (some (.array entries)) ∧ ∀ v ∈ entries, FreeEntry v

/-- The labels of a container are absent or an object without reserved keys. -/
def FreeLabels (container : Value) : Prop :=
  container.field? "Labels" = .ok none ∨
    ∃ labels, container.field? "Labels" = .ok (some (.object labels)) ∧
      ∀ key ∈ Members.names labels, ¬ Reserved.isLabel key

theorem checkEnvEntry_eq_ok_iff {v : Value} : checkEnvEntry v = .ok () ↔ FreeEntry v := by
  constructor
  · intro h
    obtain ⟨text, read, h₁⟩ := bind_eq_ok_iff.1 h
    split at h₁
    · exact absurd h₁ (by simp)
    · next free => exact ⟨text, lift_eq_ok_iff.1 read, free⟩
  · intro h
    obtain ⟨text, read, free⟩ := h
    exact bind_eq_ok_iff.2 ⟨text, lift_eq_ok_iff.2 read, by simp [free, pure, Except.pure]⟩

theorem checkEnv_eq_ok_iff {container : Value} :
    checkEnv container = .ok () ↔ FreeEnv container := by
  constructor
  · intro h
    obtain ⟨env, read, h₁⟩ := bind_eq_ok_iff.1 h
    obtain ⟨entries, listed, h₂⟩ := bind_eq_ok_iff.1 h₁
    rcases Value.getOr_eq_ok_iff.1 (lift_eq_ok_iff.1 read) with ⟨absent, -⟩ | ⟨found, there, kept⟩
    · exact Or.inl absent
    · obtain ⟨elements, rfl, rfl⟩ := Coercion.array_read?_eq_some_iff.1 kept
      obtain rfl : elements = entries :=
        Value.array.inj (Value.elements_eq_ok_iff.1 (lift_eq_ok_iff.1 listed))
      exact Or.inr ⟨elements, there, fun v member =>
        checkEnvEntry_eq_ok_iff.1 (forM_eq_ok_iff.1 h₂ v member)⟩
  · intro h
    rcases h with absent | ⟨entries, there, free⟩
    · refine bind_eq_ok_iff.2 ⟨Value.emptyArray, ?_, rfl⟩
      exact lift_eq_ok_iff.2 (Value.getOr_eq_ok_iff.2 (Or.inl ⟨absent, rfl⟩))
    · refine bind_eq_ok_iff.2 ⟨.array entries, ?_, bind_eq_ok_iff.2 ⟨entries, rfl, ?_⟩⟩
      · exact lift_eq_ok_iff.2 (Value.getOr_eq_ok_iff.2 (Or.inr ⟨_, there, rfl⟩))
      · exact forM_eq_ok_iff.2 fun v member => checkEnvEntry_eq_ok_iff.2 (free v member)

theorem checkLabels_eq_ok_iff {container : Value} :
    checkLabels container = .ok () ↔ FreeLabels container := by
  constructor
  · intro h
    obtain ⟨labels, read, h₁⟩ := bind_eq_ok_iff.1 h
    obtain ⟨keys, listed, h₂⟩ := bind_eq_ok_iff.1 h₁
    rcases Value.getOr_eq_ok_iff.1 (lift_eq_ok_iff.1 read) with ⟨absent, -⟩ | ⟨found, there, kept⟩
    · exact Or.inl absent
    · obtain ⟨members, rfl, rfl⟩ := Coercion.object_read?_eq_some_iff.1 kept
      obtain ⟨_, same, rfl⟩ := Value.keys_eq_ok_iff.1 (lift_eq_ok_iff.1 listed)
      cases same
      split at h₂
      · exact absurd h₂ (by simp)
      · next none => exact Or.inr ⟨members, there, List.find?_eq_none.1 none⟩
  · intro h
    rcases h with absent | ⟨labels, there, free⟩
    · refine bind_eq_ok_iff.2 ⟨Value.emptyObject, ?_, rfl⟩
      exact lift_eq_ok_iff.2 (Value.getOr_eq_ok_iff.2 (Or.inl ⟨absent, rfl⟩))
    · refine bind_eq_ok_iff.2 ⟨.object labels, ?_,
        bind_eq_ok_iff.2 ⟨Members.names labels, rfl, ?_⟩⟩
      · exact lift_eq_ok_iff.2 (Value.getOr_eq_ok_iff.2 (Or.inr ⟨_, there, rfl⟩))
      · rw [List.find?_eq_none.2 free]
        rfl

/-! ## All rules -/

/-- The rules of a definition: `administration` is the part that says how many there may be,
`count` the number that it gives, `image` what is read from the definition. -/
structure Accepted (definition administration : Value) (count : Int64)
    (pools : Option (List PoolAssignment)) (image : Image) : Prop where
  administration_eq : definition.get .object "Administration" = .ok administration
  version : administration.get .integer "Version" = .ok supportedVersion
  container : definition.get .object "Container" = .ok image.container
  env : FreeEnv image.container
  labels : FreeLabels image.container
  profile : administration.get .text "Profile" = .ok image.profile
  removeOnExit : administration.get .boolean "RmOnExit" = .ok image.removeOnExit
  officialImage : administration.get .boolean "UseOfficialTCAgentImage" = .ok image.officialImage
  count_eq : administration.getOr .integer "MaxInstanceCount" unsetCount = .ok count
  named : image.profile ≠ ""
  positive : 1 ≤ count.toInt
  within : count.toInt ≤ Image.instanceLimit
  maxInstances : image.maxInstances = UInt32.ofNat count.toInt.toNat
  pool : image.pool = PoolAssignment.resolve image.profile pools

theorem read_eq_ok_iff {definition : Value} {pools : Option (List PoolAssignment)} {image : Image} :
    read definition pools = .ok image ↔
      ∃ administration count, Accepted definition administration count pools image := by
  constructor
  · intro h
    -- the steps in the order in which the rules are checked
    obtain ⟨administration, administrationRead, h₁⟩ := bind_eq_ok_iff.1 h
    obtain ⟨⟨⟩, version, h₂⟩ := bind_eq_ok_iff.1 h₁
    obtain ⟨container, containerRead, h₃⟩ := bind_eq_ok_iff.1 h₂
    obtain ⟨⟨⟩, env, h₄⟩ := bind_eq_ok_iff.1 h₃
    obtain ⟨⟨⟩, labels, h₅⟩ := bind_eq_ok_iff.1 h₄
    obtain ⟨profile, profileRead, h₆⟩ := bind_eq_ok_iff.1 h₅
    obtain ⟨removeOnExit, removeRead, h₇⟩ := bind_eq_ok_iff.1 h₆
    obtain ⟨officialImage, officialRead, h₈⟩ := bind_eq_ok_iff.1 h₇
    obtain ⟨count, countRead, h₉⟩ := bind_eq_ok_iff.1 h₈
    obtain ⟨named, positive, within, rfl⟩ := Image.create_eq_ok_iff.1 h₉
    exact ⟨administration, count, {
      administration_eq := lift_eq_ok_iff.1 administrationRead
      version := checkVersion_eq_ok_iff.1 version
      container := lift_eq_ok_iff.1 containerRead
      env := checkEnv_eq_ok_iff.1 env
      labels := checkLabels_eq_ok_iff.1 labels
      profile := lift_eq_ok_iff.1 profileRead
      removeOnExit := lift_eq_ok_iff.1 removeRead
      officialImage := lift_eq_ok_iff.1 officialRead
      count_eq := lift_eq_ok_iff.1 countRead
      named, positive, within
      maxInstances := rfl
      pool := rfl }⟩
  · intro h
    obtain ⟨administration, count, accepted⟩ := h
    refine bind_eq_ok_iff.2 ⟨administration, lift_eq_ok_iff.2 accepted.administration_eq, ?_⟩
    refine bind_eq_ok_iff.2 ⟨(), checkVersion_eq_ok_iff.2 accepted.version, ?_⟩
    refine bind_eq_ok_iff.2 ⟨image.container, lift_eq_ok_iff.2 accepted.container, ?_⟩
    refine bind_eq_ok_iff.2 ⟨(), checkEnv_eq_ok_iff.2 accepted.env, ?_⟩
    refine bind_eq_ok_iff.2 ⟨(), checkLabels_eq_ok_iff.2 accepted.labels, ?_⟩
    refine bind_eq_ok_iff.2 ⟨image.profile, lift_eq_ok_iff.2 accepted.profile, ?_⟩
    refine bind_eq_ok_iff.2 ⟨image.removeOnExit, lift_eq_ok_iff.2 accepted.removeOnExit, ?_⟩
    refine bind_eq_ok_iff.2 ⟨image.officialImage, lift_eq_ok_iff.2 accepted.officialImage, ?_⟩
    refine bind_eq_ok_iff.2 ⟨count, lift_eq_ok_iff.2 accepted.count_eq, ?_⟩
    refine Image.create_eq_ok_iff.2 ⟨accepted.named, accepted.positive, accepted.within, ?_⟩
    rw [← accepted.maxInstances, ← accepted.pool]

end Definition

theorem Image.ofDefinition_eq_ok_iff {definition : Value} {pools : Option (List PoolAssignment)}
    {image : Image} :
    Image.ofDefinition definition pools = .ok image ↔
      Definition.read definition pools = .ok image := by
  rw [Image.ofDefinition]
  split
  · next other read => rw [read, Except.ok.injEq, Except.ok.injEq]
  · next cause read => simp [read]

end CloudImages
