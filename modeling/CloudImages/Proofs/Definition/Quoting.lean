import CloudImages.Proofs.Definition.Alike
import CloudImages.Proofs.Definition.Drafts
import CloudImages.Proofs.Json.Quoting

set_option autoImplicit false

/-! # Definitions with quoted scalars

All that is read of an administration are scalars, and a scalar reads the same in quotes. So any of
them may be quoted: the definition then gives the same image, or breaks the same rule
(`Image.reads_and_ofDefinition_of_quoted`). At most the kind of a value that is refused is reported
as another one, since in quotes it is a string. -/

namespace CloudImages

open Json Value Outcome

theorem Image.SameButContainer.eq {a b : Image} (same : a.SameButContainer b)
    (container : a.container = b.container) : a = b := by
  obtain ⟨profile, removeOnExit, officialImage, maxInstances, pool⟩ := same
  cases a
  cases b
  simp only at *
  subst_vars
  rfl

namespace Definition

/-- Two definitions break the same rule; where it is a value of another type that has been found,
its kind may differ. -/
inductive SameVariant : DefinitionError → DefinitionError → Prop where
  | same (cause : DefinitionError) : SameVariant cause cause
  | access {error error' : AccessError} (related : error.SameButFound error') :
      SameVariant (.access error) (.access error')

/-- A definition with what its administration holds under the given keys in quotes. -/
def quote (keys : List String) : Value → Value :=
  mapMembers fun name part => if name = "Administration" then part.quoteUnder keys else part

/-! ## The parts -/

theorem alikeReadings_quoteUnder (keys : List String) (administration : Value) :
    AlikeReadings SameVariant administration (administration.quoteUnder keys) := by
  have access {α : Type} {x y : Except AccessError α} (h : Alike AccessError.SameButFound Eq x y) :
      Alike (fun e e' => SameVariant (.access e) (.access e')) Eq x y :=
    h.mono (fun _ _ related => .access related) fun _ _ eq => eq
  exact {
    version := access (get_quoteUnder_alike Coercion.integer_seesThroughQuotes keys _)
    profile := access (get_quoteUnder_alike Coercion.text_seesThroughQuotes keys _)
    removeOnExit := access (get_quoteUnder_alike Coercion.boolean_seesThroughQuotes keys _)
    officialImage := access (get_quoteUnder_alike Coercion.boolean_seesThroughQuotes keys _)
    count := access (getOr_quoteUnder_alike Coercion.integer_seesThroughQuotes keys _ _) }

variable (keys : List String) (definition : Value)

theorem administration_quote_alike :
    Alike Eq (AlikeReadings SameVariant) (definition.get .object "Administration")
      ((quote keys definition).get .object "Administration") := by
  have respects : Coercion.object.Respects (fun part part' => part.quoteUnder keys = part')
      (AlikeReadings SameVariant) := by
    rintro part part' rfl
    cases part with
    | object members => exact ⟨rfl, .some (alikeReadings_quoteUnder keys _)⟩
    | null | boolean b | number n | string s | array vs => exact ⟨rfl, .none⟩
  refine get_alike respects (field?_mapMembers_alike (fun part => ?_) (fun part => ?_) definition)
  · rw [if_pos rfl]
    cases part <;> simp [quoteUnder, mapMembers]
  · rw [if_pos rfl]

theorem container_quote_eq :
    definition.get .object "Container" = (quote keys definition).get .object "Container" := by
  have respects : Coercion.object.Respects Eq Eq := by
    rintro part part' rfl
    refine ⟨rfl, ?_⟩
    cases Coercion.object.read? part with
    | none => exact .none
    | some members => exact .some rfl
  have there : "Container" ≠ "Administration" := by decide
  refine (get_alike respects
    (field?_mapMembers_alike (fun part => ?_) (fun part => ?_) definition)).eq
  · rw [if_neg there]
  · rw [if_neg there]

theorem read_quote_alike (pools : Option (List PoolAssignment)) :
    Alike SameVariant Eq (read definition pools) (read (quote keys definition) pools) := by
  have containers : Alike Eq Eq (definition.get .object "Container")
      ((quote keys definition).get .object "Container") :=
    container_quote_eq keys definition ▸ .refl (fun _ => rfl) _
  have alike := read_alike .same (administration_quote_alike keys definition) containers
    (fun same => congrArg checkEnv same)
    (fun both => congrArg checkLabels both.2.2 ▸ .refl .same _) pools
  refine alike.imp ?_
  rintro image image' ⟨same, -, -, container⟩
  exact same.eq container

end Definition

/-- A member that is a string, a boolean or an integer has a text, and all reads of it go the same
way if that text is put in its place. In particular every signed word is read from its numeral, and
an integer that is too great for one is refused in either form. So a definition in whose
administration such members are quoted, whichever of them, gives the same image as before, or breaks
the same rule. -/
theorem Image.reads_and_ofDefinition_of_quoted :
    (∀ {members : Members Value} {key : String} {found : Value},
      members.lookup key = some found → found.Quotable →
        ∃ s, (object members).get .text key = .ok s ∧
          SameReads key (object members) (object (members.put key (.string s)))) ∧
    (∀ {members : Members Value} {key : String} {n : Int64},
      members.lookup key = some (.string (toString n.toInt)) →
        (object members).get .integer key = .ok n) ∧
    (∀ {members : Members Value} {key : String} {n : Integer} {found : Value},
      0x8000000000000000 ≤ n.val → members.lookup key = some found →
        found = .number (.integer n) ∨ found = .string (toString n.val) →
          (object members).get .integer key = .error (.wrongType key .integer found.kind) ∧
          ∀ default, (object members).getOr .integer key default
            = .error (.wrongType key .integer found.kind)) ∧
    ∀ (keys : List String) (definition : Value) (pools : Option (List PoolAssignment)),
      Alike (fun error error' => Definition.SameVariant error.cause error'.cause) Eq
        (ofDefinition definition pools)
        (ofDefinition (Definition.quote keys definition) pools) := by
  refine ⟨sameReads_put_text, get_integer_of_numeral, integer_refused_of_great, ?_⟩
  intro keys definition pools
  exact ofDefinition_alike (Definition.read_quote_alike keys definition pools)

/-- The definition of a draft, with every scalar of its administration in quotes. -/
def quotedDefinition : Value :=
  .object [
    ("Administration", .object [
      ("Version", .string "1"),
      ("Profile", .string "agent1"),
      ("RmOnExit", .string "true"),
      ("UseOfficialTCAgentImage", .string "false"),
      ("MaxInstanceCount", .string "2")]),
    ("Container", Draft.container {})]

/-- A definition whose version is of another type. -/
def versionTrue : Value :=
  .object [("Administration", .object [("Version", .boolean true)])]

theorem Image.reads_and_ofDefinition_of_quoted_draft :
    ofDefinition quotedDefinition none = .ok (Draft.toImage {}) ∧
    ∃ error, ofDefinition (Definition.quote ["Version"] versionTrue) none = .error error ∧
      error.cause = .access (.wrongType "Version" .integer .string) ∧
      Definition.SameVariant (.access (.wrongType "Version" .integer .boolean)) error.cause := by
  obtain ⟨-, -, -, alike⟩ := reads_and_ofDefinition_of_quoted
  constructor
  · have quoted : quotedDefinition = Definition.quote
        ["Version", "Profile", "RmOnExit", "UseOfficialTCAgentImage", "MaxInstanceCount"]
        (Draft.toValue {}) := rfl
    have same := alike
      ["Version", "Profile", "RmOnExit", "UseOfficialTCAgentImage", "MaxInstanceCount"]
      (Draft.toValue {}) none
    rw [Draft.ofDefinition_of_acceptable (Draft.acceptable_defaults (by simp)), ← quoted] at same
    generalize ofDefinition quotedDefinition none = outcome at same ⊢
    cases same with
    | ok same => rw [same]
  · have same := alike ["Version"] versionTrue none
    have before : ofDefinition versionTrue none
        = .error ⟨versionTrue.render, .access (.wrongType "Version" .integer .boolean)⟩ := rfl
    have after : ofDefinition (Definition.quote ["Version"] versionTrue) none
        = .error ⟨(Definition.quote ["Version"] versionTrue).render,
          .access (.wrongType "Version" .integer .string)⟩ := rfl
    rw [before, after] at same
    cases same with
    | error related => exact ⟨_, after, rfl, related⟩

end CloudImages
