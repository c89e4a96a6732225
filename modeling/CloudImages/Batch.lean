import CloudImages.Definition
import CloudImages.Log
import CloudImages.Pool.Reader

set_option autoImplicit false

/-! # Batches of images

The images come as properties: one holds a list of definitions, another may hold the pools. A batch
is loaded as a whole: a text that is no list of definitions, or a single definition that is
rejected, rejects all of it, and so do profiles that occur twice, each of which is reported. The
pools can only add to the images; if they cannot be read the images go without. -/

namespace CloudImages

open Json

/-! ## Failures -/

/-- A property that is wrong, and what is wrong with it. -/
structure InvalidProperty where
  location : String
  message : String
deriving DecidableEq, Repr

/-- A wrong property in a message. -/
def InvalidProperty.describe (p : InvalidProperty) : String :=
  p.location ++ ": " ++ p.message

/-- A batch that is rejected, with all that is wrong with it in the order in which it was found. -/
structure BatchError where
  failures : List InvalidProperty
deriving DecidableEq, Repr

/-- The message for a rejected batch: a heading, and a line for each failure. -/
def BatchError.message (error : BatchError) : String :=
  "invalid image configuration:\n" ++
    String.intercalate "\n" (error.failures.map fun failure => "  " ++ failure.describe)

namespace Batch

/-- The plugin's properties: texts under distinct names. -/
abbrev Properties := List (String × String)

/-- The property that holds the definitions. -/
def imagesKey : String :=
  "run.var.teamcity.docker.cloud.img_param"

/-- The property that holds the pools. -/
def poolsKey : String :=
  "source_images_json"

/-- What can be wrong with a batch. -/
inductive Failure where
  | noImage
  | unreadable
  | repeatedProfile (profile : String)
deriving DecidableEq, Repr

/-- The message for a failure. -/
def Failure.message : Failure → String
  | .noImage => "no image provided"
  | .unreadable => "cannot parse image data"
  | .repeatedProfile profile => "duplicate profile name: " ++ profile

/-- Every failure is one of the property that holds the definitions. -/
def Failure.toProperty (failure : Failure) : InvalidProperty :=
  { location := imagesKey, message := failure.message }

/-- A batch rejected for the given failures. -/
def reject (failures : List Failure) : BatchError :=
  { failures := failures.map Failure.toProperty }

/-! ## What is logged -/

/-- Why the definitions of a batch could not all be read. -/
inductive Cause where
  | access (error : AccessError)
  | image (error : ImageError)

/-- The message for unreadable definitions; for a text that is no JSON it gives no line and no
column. -/
def Cause.message : Cause → String
  | .access error => error.message
  | .image error => error.message

/-- What happens while a batch is loaded. -/
inductive Event where
  | poolsUnreadable (fault : Fault)
  | rejected (cause : Cause)
  | loaded (count : Nat)

/-- The log record of an event. Its error is a message, and so without the line and the column of a
fault in the text. -/
def Event.record : Event → LogRecord
  | .poolsUnreadable fault =>
    ⟨.warning, "failed to parse cloud image parameters", [("error", fault.message)]⟩
  | .rejected cause => ⟨.debug, "rejecting image data", [("error", cause.message)]⟩
  | .loaded count =>
    ⟨.debug, "loaded image profiles", [("count", String.ofList (Text.digits count))]⟩

/-! ## Loading -/

/-- The pools among the properties, none if they are absent or unreadable, and what is to be logged
of them. -/
def readPools (properties : Properties) : Option (List PoolAssignment) × List Event :=
  match properties.lookup poolsKey with
  | none => (none, [])
  | some text =>
    match PoolAssignment.ofText text with
    | .ok pools => (some pools, [])
    | .error fault => (none, [.poolsUnreadable fault])

/-- The images of the definitions in a list, up to the first that is rejected. -/
def readDefinitions (pools : Option (List PoolAssignment)) :
    List Value → Except ImageError (List Image)
  | [] => .ok []
  | definition :: rest => do
    let image ← Image.ofDefinition definition pools
    let images ← readDefinitions pools rest
    return image :: images

/-- The images that a text defines. -/
def readImages (pools : Option (List PoolAssignment)) (text : String) : Except Cause (List Image) :=
  match Value.parse text >>= Value.elements with
  | .error error => .error (.access error)
  | .ok definitions =>
    match readDefinitions pools definitions with
    | .error error => .error (.image error)
    | .ok images => .ok images

/-- The profiles that have occurred before, `seen` being those of earlier images: one for each
occurrence but the first. -/
def repeats (seen : List String) : List Image → List String
  | [] => []
  | image :: rest =>
    if image.profile ∈ seen then image.profile :: repeats seen rest
    else repeats (image.profile :: seen) rest

/-- How a load comes out, and what happened on the way. -/
structure Report where
  result : Except BatchError (List Image)
  events : List Event

/-- Loads the images of a text that is not empty. -/
def loadText (pools : Option (List PoolAssignment)) (text : String) : Report :=
  match readImages pools text with
  | .error cause => ⟨.error (reject [.unreadable]), [.rejected cause]⟩
  | .ok images =>
    match repeats [] images with
    | [] => ⟨.ok images, [.loaded images.length]⟩
    | profiles => ⟨.error (reject (profiles.map .repeatedProfile)), []⟩

/-- Loads the images of the properties. -/
def load (properties : Properties) : Report :=
  let (pools, warnings) := readPools properties
  let report : Report :=
    match properties.lookup imagesKey with
    | none | some "" => ⟨.error (reject [.noImage]), []⟩
    | some text => loadText pools text
  { report with events := warnings ++ report.events }

/-- Whether two loads come out the same. -/
def sameResult : Except BatchError (List Image) → Except BatchError (List Image) → Bool
  | .ok xs, .ok ys => xs.length == ys.length && (xs.zip ys).all fun (x, y) => x.same y
  | .error x, .error y => x == y
  | _, _ => false

/-! ## Profiles that repeat -/

/-- Nothing repeats exactly when the profiles are distinct and new. -/
theorem repeats_eq_nil_iff {seen : List String} {images : List Image} :
    repeats seen images = [] ↔
      (images.map Image.profile).Nodup ∧ ∀ image ∈ images, image.profile ∉ seen := by
  induction images generalizing seen with
  | nil => simp [repeats]
  | cons image rest ih =>
    by_cases h : image.profile ∈ seen
    · simp [repeats, h]
    · rw [repeats, if_neg h, ih]
      simp only [List.map_cons, List.nodup_cons, List.mem_map, List.mem_cons, not_or,
        forall_eq_or_imp]
      constructor
      · rintro ⟨distinct, new⟩
        exact ⟨⟨fun ⟨other, member, same⟩ => (new other member).1 same, distinct⟩, h,
          fun other member => (new other member).2⟩
      · rintro ⟨⟨first, distinct⟩, _, new⟩
        exact ⟨distinct, fun other member =>
          ⟨fun same => first ⟨other, member, same⟩, new other member⟩⟩

end Batch

end CloudImages
