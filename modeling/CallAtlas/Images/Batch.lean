import CallAtlas.Drawing.Dot
import CallAtlas.Graph.Reach
import CallAtlas.Images.Rasterizer
import CallAtlas.Warning

/-!
# One image for each entity

`Batch.run` makes a directory, and in it an image for every function and method, excluded names
apart. The image of an entity shows what it reaches and what reaches it, simplified and with the
entity highlighted. An image that cannot be made is reported and the batch goes on; without the
directory there are no images.
-/

namespace CallAtlas

/-- What images are made, and where. -/
structure Batch where
  options : DrawOptions
  /-- Entities with these names get no image. -/
  excluded : List String
  extension : String
  outDir : String

/-- Makes a directory and those around it, with an effect on a state. -/
abbrev DirectoryMaker (ρ : Type) := ρ → String → Except OsError ρ

/-- Makes an image of DOT text at a path, with an effect on a state. -/
abbrev ImageMaker (ρ : Type) := ρ → String → String → ρ × Except RenderError Unit

/-- An image that could not be made. -/
structure ImageFailure where
  entity : Nat
  name : String
  error : RenderError
  deriving DecidableEq, Repr

/-- The paths of the images, and the failures. -/
structure BatchReport where
  written : List String := []
  failures : List ImageFailure := []
  deriving DecidableEq, Repr

/-- The directory of a batch could not be made. -/
structure BatchError where
  dir : String
  cause : OsError
  deriving DecidableEq, Repr

/-- The wording of an error. -/
def BatchError.message (e : BatchError) : String :=
  "Failed to create output directory " ++ e.dir

namespace Batch

/-- Whether an entity gets an image. -/
def isEligible (excluded : List String) (e : Entity) : Bool :=
  e.kind.isExecutable && !excluded.contains e.baseName

/-- A character that can stand in a file name anywhere. -/
def isSafe (c : Char) : Bool :=
  c.isAlphanum || c == '_' || c == '.' || c == '-'

/-- The file name of the image of an entity. Characters that are not safe become underscores. -/
def fileName (e : Entity) (extension : String) : String :=
  let stem := (e.importPath ++ "." ++ e.baseName).toList
  String.ofList (stem.map fun c => if isSafe c then c else '_') ++ "." ++ extension

/-- The entities that get an image, by ascending id. -/
def eligible (b : Batch) (p : Projection) : List (Nat × Entity) :=
  p.toList.filter (isEligible b.excluded ·.2)

/-- The drawing of one entity. -/
def drawing (b : Batch) (p : Projection) (id : Nat) : Drawing :=
  (p.prune {id}).draw { b.options.simplified with highlight := {id} }

/-- The path of the image of an entity. -/
def imagePath (b : Batch) (e : Entity) : String :=
  Path.join b.outDir (fileName e b.extension)

/-- Make the images of entities, one after another. -/
def make {ρ : Type} (b : Batch) (p : Projection) (maker : ImageMaker ρ) (state : ρ) :
    List (Nat × Entity) → ρ × BatchReport
  | [] => (state, {})
  | (id, e) :: rest =>
    match maker state (b.drawing p id).toDot (b.imagePath e) with
    | (state, .ok ()) =>
      let (state, report) := b.make p maker state rest
      (state, { report with written := b.imagePath e :: report.written })
    | (state, .error error) =>
      let (state, report) := b.make p maker state rest
      (state, { report with failures := ⟨id, e.name, error⟩ :: report.failures })

/-- Make the directory, and in it the images of all eligible entities. -/
def run {ρ : Type} (b : Batch) (p : Projection) (directories : DirectoryMaker ρ)
    (maker : ImageMaker ρ) (state : ρ) :
    ρ × Except BatchError BatchReport :=
  match directories state b.outDir with
  | .error cause => (state, .error ⟨b.outDir, cause⟩)
  | .ok state =>
    let (state, report) := b.make p maker state (b.eligible p)
    (state, .ok report)

end Batch

/-- The warning for a failure. -/
def ImageFailure.warning (f : ImageFailure) : Warning where
  message := "skipping image for " ++ f.name ++ ": " ++ f.error.message
  details := [("entity", toString f.entity)]

/-- The number of workers of a batch : at least one. -/
def workerCount (jobs : Nat) : Nat :=
  max jobs 1

end CallAtlas
