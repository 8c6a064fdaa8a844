/-
Module: TypedManifests.ImageConvention
Purpose: The convention that text fields of certain labels hold image references. Where it applies,
  the type of the field becomes the record of the parts of a reference, and its value is taken
  apart.
Main exports: ImageConvention, ImageConvention.applies, ImageConvention.reshape,
  ImageConvention.retype
-/
import TypedManifests.ImageReference

namespace TypedManifests

structure ImageConvention where
  labels : List String
  withDigest : Bool
deriving DecidableEq, Repr

namespace ImageConvention

def name : String := "image-reference"

/-- The convention covers text fields with one of its labels. -/
def applies (c : ImageConvention) (label : String) (type : TypeExpr) : Bool :=
  c.labels.contains label && type = .text

/-- The type that a covered field gets. -/
def replacement (c : ImageConvention) : TypeExpr := ImageReference.type c.withDigest

/-- The value that a covered field gets; only text is taken apart. -/
def reshape (c : ImageConvention) : Value → Value
  | .text reference => (ImageReference.ofText reference).toValue c.withDigest
  | v => v

/-- The type of a field after the first convention that covers it was applied. -/
def retype (conventions : List ImageConvention) (label : String) (type : TypeExpr) : TypeExpr :=
  match conventions.find? (·.applies label type) with
  | some c => c.replacement
  | none => type

/-- Applies the conventions to the fields of one record. -/
def retypeRecord (conventions : List ImageConvention) : TypeExpr → TypeExpr
  | .record fields =>
    .record (fields.map fun (label, type) => (label, retype conventions label type))
  | t => t

end ImageConvention

end TypedManifests
