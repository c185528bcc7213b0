import CallAtlas.Settings.Decode
import CallAtlas.Settings.Toml.Document

/-!
# The configuration

A configuration has a group of settings for each part of the work : resolving references, drawing,
the image batch, and the log. `Config.parse?` reads it from a TOML text.
-/

namespace CallAtlas

/-- How images are made. -/
structure BatchSettings where
  /-- The program that makes an image of a drawing. -/
  rasterizer : String := "dot"
  /-- The image format, which is also the file extension. -/
  format : String := "png"
  outDir : String := "callflow-images"
  /-- The number of workers. -/
  jobs : Option Nat := none
  /-- The names of finalizers. -/
  finalizers : List String := ["drop", "__del__"]
  deriving DecidableEq, Repr

/-- All settings. -/
structure Config where
  resolve : ResolveOptions := {}
  draw : DrawOptions := {}
  batch : BatchSettings := {}
  logLevel : String := "warn"
  deriving DecidableEq, Repr

namespace Config

open Settings

/-- The settings of the image batch. -/
def batchSettings? (f : Format) (v : Value) : Option BatchSettings := do
  let g ← Group.ofValue? f 5 v
  let d : BatchSettings := {}
  return {
    rasterizer := ← g.setting 0 "rasterizer" text? d.rasterizer
    format := ← g.setting 1 "format" text? d.format
    outDir := ← g.setting 2 "out_dir" text? d.outDir
    jobs := ← g.setting 3 "jobs" (nullable? natural?) d.jobs
    finalizers := ← g.setting 4 "finalizer_names" texts? d.finalizers }

/-- The level of the log. -/
def logLevel? (f : Format) (v : Value) : Option String := do
  let g ← Group.ofValue? f 1 v
  g.setting 0 "level" text? "warn"

/-- The configuration with the given fields. -/
def ofFields? (fields : List (String × Value)) : Option Config := do
  let g := Group.named fields
  return {
    resolve := ← g.setting 0 "resolve" (resolveOptions? .toml) {}
    draw := ← g.setting 1 "render" (drawOptions? .toml) {}
    batch := ← g.setting 2 "batch" (batchSettings? .toml) {}
    logLevel := ← g.setting 3 "logging" (logLevel? .toml) "warn" }

/-- The configuration that a TOML text gives. -/
def parse? (s : String) : Option Config :=
  (Toml.parse? s).bind ofFields?

end Config

end CallAtlas
