import CloudImages.Proofs.Definition.Rules
import CloudImages.Proofs.Json.Alike

set_option autoImplicit false

/-! # Definitions side by side

Two definitions are read step by step next to each other. What their administrations read as has to
be the same, or else fail for causes that go together (`SameReadings`, `AlikeReadings`); their
containers are passed on as they are, and have only to be alike enough for the rules. Then both are
accepted, and their images are the same but for the containers, or both are rejected, for causes
that go together (`read_alike`). -/

namespace CloudImages

open Json Outcome

/-- Two images are the same but for their containers. -/
structure Image.SameButContainer (a b : Image) : Prop where
  profile : a.profile = b.profile
  removeOnExit : a.removeOnExit = b.removeOnExit
  officialImage : a.officialImage = b.officialImage
  maxInstances : a.maxInstances = b.maxInstances
  pool : a.pool = b.pool

namespace Definition

variable {α β : Type} {E : DefinitionError → DefinitionError → Prop} {definition other : Value}

/-- What is read from two administrations is the same. -/
structure SameReadings (a b : Value) : Prop where
  version : a.get .integer "Version" = b.get .integer "Version"
  profile : a.get .text "Profile" = b.get .text "Profile"
  removeOnExit : a.get .boolean "RmOnExit" = b.get .boolean "RmOnExit"
  officialImage : a.get .boolean "UseOfficialTCAgentImage"
    = b.get .boolean "UseOfficialTCAgentImage"
  count : a.getOr .integer "MaxInstanceCount" unsetCount
    = b.getOr .integer "MaxInstanceCount" unsetCount

/-- What is read from two administrations goes the same way; where a read fails, `E` relates the
causes. -/
structure AlikeReadings (E : DefinitionError → DefinitionError → Prop) (a b : Value) : Prop where
  version : Alike (fun e e' => E (.access e) (.access e')) Eq
    (a.get .integer "Version") (b.get .integer "Version")
  profile : Alike (fun e e' => E (.access e) (.access e')) Eq
    (a.get .text "Profile") (b.get .text "Profile")
  removeOnExit : Alike (fun e e' => E (.access e) (.access e')) Eq
    (a.get .boolean "RmOnExit") (b.get .boolean "RmOnExit")
  officialImage : Alike (fun e e' => E (.access e) (.access e')) Eq
    (a.get .boolean "UseOfficialTCAgentImage") (b.get .boolean "UseOfficialTCAgentImage")
  count : Alike (fun e e' => E (.access e) (.access e')) Eq
    (a.getOr .integer "MaxInstanceCount" unsetCount)
    (b.getOr .integer "MaxInstanceCount" unsetCount)

theorem SameReadings.alike {a b : Value} (h : SameReadings a b) (same : ∀ e, E e e) :
    AlikeReadings E a b where
  version := h.version ▸ .refl (fun e => same (.access e)) _
  profile := h.profile ▸ .refl (fun e => same (.access e)) _
  removeOnExit := h.removeOnExit ▸ .refl (fun e => same (.access e)) _
  officialImage := h.officialImage ▸ .refl (fun e => same (.access e)) _
  count := h.count ▸ .refl (fun e => same (.access e)) _

/-- Reads that go the same way do so as steps of a definition. -/
theorem access_alike {R : α → β → Prop} {x : Except AccessError α} {y : Except AccessError β}
    (h : Alike (fun e e' => E (.access e) (.access e')) R x y) :
    Alike E R (liftM x : Except DefinitionError α) (liftM y : Except DefinitionError β) := by
  cases h with
  | error related => exact .error related
  | ok related => exact .ok related

/-- Reads that fail with equal errors do so as steps of a definition, where an error is its own
partner. -/
theorem lift_alike (same : ∀ e, E e e) {R : α → β → Prop} {x : Except AccessError α}
    {y : Except AccessError β} (h : Alike Eq R x y) :
    Alike E R (liftM x : Except DefinitionError α) (liftM y : Except DefinitionError β) :=
  access_alike (h.of_eq_errors fun e => same (.access e))

theorem checkVersion_alike (same : ∀ e, E e e) {a b : Value} (readings : AlikeReadings E a b) :
    Alike E Eq (checkVersion a) (checkVersion b) := by
  refine (access_alike readings.version).bind fun version _ _ _ eq => ?_
  cases eq
  exact .refl same _

/-- Whether an image is built, and what it is but for the container, does not depend on the
container. -/
theorem create_alike (same : ∀ e, E e e) (profile : String) {R : Value → Value → Prop}
    {container container' : Value} (related : R container container')
    (removeOnExit officialImage : Bool) (count : Int64) (pool : Option Int64) :
    Alike E (fun image image' => image.SameButContainer image' ∧ R image.container image'.container)
      (Image.create profile container removeOnExit officialImage count pool)
      (Image.create profile container' removeOnExit officialImage count pool) := by
  unfold Image.create
  split
  · exact .error (same _)
  · split
    · exact .error (same _)
    · split
      · exact .error (same _)
      · exact .ok ⟨⟨rfl, rfl, rfl, rfl, rfl⟩, related⟩

/-- The containers are the parts of that name of their definitions, and `R` relates them. -/
def Containers (R : Value → Value → Prop) (definition other container container' : Value) : Prop :=
  definition.get .object "Container" = .ok container ∧
    other.get .object "Container" = .ok container' ∧ R container container'

theorem read_alike (same : ∀ e, E e e) {R : Value → Value → Prop}
    (administrations : Alike Eq (AlikeReadings E)
      (definition.get .object "Administration") (other.get .object "Administration"))
    (containers : Alike Eq R (definition.get .object "Container") (other.get .object "Container"))
    (env : ∀ {c c'}, R c c' → checkEnv c = checkEnv c')
    (labels : ∀ {c c'}, Containers R definition other c c' →
      Alike E Eq (checkLabels c) (checkLabels c'))
    (pools : Option (List PoolAssignment)) :
    Alike E (fun image image' => image.SameButContainer image' ∧
        Containers R definition other image.container image'.container)
      (read definition pools) (read other pools) := by
  refine (lift_alike same administrations).bind fun _ _ _ _ readings => ?_
  refine (checkVersion_alike same readings).bind fun _ _ _ _ _ => ?_
  refine (lift_alike same containers).bind fun container container' found found' related => ?_
  have both : Containers R definition other container container' :=
    ⟨lift_eq_ok_iff.1 found, lift_eq_ok_iff.1 found', related⟩
  rw [env related]
  refine (Alike.refl same _).bind fun _ _ _ _ _ => ?_
  refine (labels both).bind fun _ _ _ _ _ => ?_
  refine (access_alike readings.profile).bind fun profile _ _ _ eq => ?_
  cases eq
  refine (access_alike readings.removeOnExit).bind fun removeOnExit _ _ _ eq => ?_
  cases eq
  refine (access_alike readings.officialImage).bind fun officialImage _ _ _ eq => ?_
  cases eq
  refine (access_alike readings.count).bind fun count _ _ _ eq => ?_
  cases eq
  exact create_alike same profile both removeOnExit officialImage count _

end Definition

/-- Definitions that are read alike give images or errors that are alike: in the errors, the causes
are. -/
theorem Image.ofDefinition_alike {E : DefinitionError → DefinitionError → Prop}
    {R : Image → Image → Prop} {definition other : Value} {pools : Option (List PoolAssignment)}
    (h : Alike E R (Definition.read definition pools) (Definition.read other pools)) :
    Alike (fun error error' => E error.cause error'.cause) R
      (Image.ofDefinition definition pools) (Image.ofDefinition other pools) := by
  rw [ofDefinition, ofDefinition]
  generalize Definition.read definition pools = x, Definition.read other pools = y at h
  cases h with
  | error related => exact .error related
  | ok related => exact .ok related

end CloudImages
