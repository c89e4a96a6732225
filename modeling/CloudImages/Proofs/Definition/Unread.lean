import CloudImages.Proofs.Definition.Alike
import CloudImages.Proofs.Definition.Drafts

set_option autoImplicit false

/-! # What is not read of a definition

Of a definition only some members are looked at, and of the container only the environment and the
labels. Two definitions that look alike there (`Definition.LooksLike`) come out alike, whatever else
is in them: a member of another name, a null, or anything at all inside the container
(`Image.ofDefinition_of_looksLike`). The container itself is passed on as it is. -/

namespace CloudImages

open Json Value Outcome

namespace Definition

variable {definition other : Value}

/-- Two objects look alike where a definition is looked at. Members that are null count as none. -/
structure LooksLike (definition other : Value) : Prop where
  object : ∃ members, definition = .object members
  object' : ∃ members, other = .object members
  administration : AlikeInPart "Administration"
    ["Version", "Profile", "RmOnExit", "UseOfficialTCAgentImage", "MaxInstanceCount"]
    definition other
  container : AlikeInPart "Container" ["Env", "Labels"] definition other

theorem LooksLike.sameReadings (h : LooksLike definition other) :
    Alike Eq SameReadings
      (definition.get .object "Administration") (other.get .object "Administration") := by
  refine (get_object_alike_of_alikeInPart h.object h.object' h.administration).imp
    fun part part' same => ?_
  exact {
    version := get_eq_of_field?_eq (same _ (by simp)) _
    profile := get_eq_of_field?_eq (same _ (by simp)) _
    removeOnExit := get_eq_of_field?_eq (same _ (by simp)) _
    officialImage := get_eq_of_field?_eq (same _ (by simp)) _
    count := getOr_eq_of_field?_eq (same _ (by simp)) _ _ }

/-- What the rules look at is the same in two containers. -/
structure SameNames (container container' : Value) : Prop where
  env : container.field? "Env" = container'.field? "Env"
  labels : container.field? "Labels" = container'.field? "Labels"

theorem LooksLike.sameNames (h : LooksLike definition other) :
    Alike Eq SameNames (definition.get .object "Container") (other.get .object "Container") :=
  (get_object_alike_of_alikeInPart h.object h.object' h.container).imp
    fun _ _ same => ⟨same _ (by simp), same _ (by simp)⟩

theorem SameNames.checkEnv_eq {container container' : Value} (h : SameNames container container') :
    checkEnv container = checkEnv container' := by
  rw [checkEnv, checkEnv, getOr_eq_of_field?_eq h.env]

theorem SameNames.checkLabels_eq {container container' : Value}
    (h : SameNames container container') : checkLabels container = checkLabels container' := by
  rw [checkLabels, checkLabels, getOr_eq_of_field?_eq h.labels]

theorem LooksLike.read_alike (h : LooksLike definition other)
    (pools : Option (List PoolAssignment)) :
    Alike Eq (fun image image' => image.SameButContainer image' ∧
        Containers SameNames definition other image.container image'.container)
      (read definition pools) (read other pools) := by
  have administrations := h.sameReadings.imp fun _ _ same => same.alike fun _ => rfl
  refine Definition.read_alike (fun _ => rfl) administrations h.sameNames
    SameNames.checkEnv_eq ?_ pools
  rintro container container' ⟨-, -, same⟩
  rw [same.checkLabels_eq]
  exact .refl (fun _ => rfl) _

end Definition

/-- Definitions that look alike where they are looked at are both accepted or both rejected. If they
are accepted, the images are the same but for their containers, each of which stands in its own
definition as it is; if they are rejected, it is for the same cause. -/
theorem Image.ofDefinition_of_looksLike {definition other : Value}
    (h : Definition.LooksLike definition other) (pools : Option (List PoolAssignment)) :
    Alike (fun error error' => error.cause = error'.cause)
      (fun image image' => image.SameButContainer image' ∧
        definition.Has "Container" image.container ∧ other.Has "Container" image'.container)
      (ofDefinition definition pools) (ofDefinition other pools) := by
  refine (ofDefinition_alike (h.read_alike pools)).imp ?_
  rintro image image' ⟨same, found, found', -⟩
  obtain ⟨_, -, there⟩ := get_object_eq_ok_iff.1 found
  obtain ⟨_, -, there'⟩ := get_object_eq_ok_iff.1 found'
  exact ⟨same, there, there'⟩

/-- The definition of a draft, with its members in another order and others between them. -/
def crowdedDefinition : Value :=
  .object [
    ("Note", .null),
    ("Container", .object [
      ("Labels", .null),
      ("Mounts", .array [.object [("Env", .array [.string "DOCKER_CLOUD_A=1"])]])]),
    ("Administration", .object [
      ("MaxInstanceCount", .ofInt64 2),
      ("Container", .array []),
      ("Version", .ofInt64 1),
      ("UseOfficialTCAgentImage", .boolean false),
      ("RmOnExit", .boolean true),
      ("Profile", .string "agent1")])]

theorem Image.ofDefinition_of_looksLike_crowded :
    Definition.LooksLike (Draft.toValue {}) crowdedDefinition ∧
    ∃ image, ofDefinition crowdedDefinition none = .ok image ∧
      (Draft.toImage {}).SameButContainer image ∧
      crowdedDefinition.Has "Container" image.container := by
  have alike : Definition.LooksLike (Draft.toValue {}) crowdedDefinition := by
    refine ⟨⟨_, rfl⟩, ⟨_, rfl⟩, ?_, ?_⟩
    · refine alikeInPart_of_has ⟨_, rfl, rfl, nofun⟩ ⟨_, rfl, rfl, nofun⟩ rfl ?_
      simp only [List.forall_mem_cons,
        sameUnder_iff (v := Draft.administration {}) ⟨_, rfl⟩ ⟨_, rfl⟩]
      exact ⟨rfl, rfl, rfl, rfl, rfl, List.forall_mem_nil _⟩
    · refine alikeInPart_of_has ⟨_, rfl, rfl, nofun⟩ ⟨_, rfl, rfl, nofun⟩ rfl ?_
      simp only [List.forall_mem_cons, sameUnder_iff (v := Draft.container {}) ⟨_, rfl⟩ ⟨_, rfl⟩]
      exact ⟨rfl, rfl, List.forall_mem_nil _⟩
  refine ⟨alike, ?_⟩
  have both := ofDefinition_of_looksLike alike none
  rw [Draft.ofDefinition_of_acceptable (Draft.acceptable_defaults (by simp))] at both
  generalize ofDefinition crowdedDefinition none = outcome at both ⊢
  cases both with
  | ok related => exact ⟨_, rfl, related.1, related.2.2⟩

end CloudImages
