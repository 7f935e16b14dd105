import IntakeForms.Section
import IntakeForms.Time.Timestamp

/-!
Forms: a draft that authors change, the snapshot of it that respondents see, and
the record that keeps both under one identifier and slug.
-/

namespace IntakeForms

inductive BackgroundKind
  | none | color | image | video | gradient | pattern | animatedGradient
deriving DecidableEq, Repr

structure Background where
  kind : BackgroundKind
  color : Option String
  imageUrl : Option String
  videoUrl : Option String
  overlayOpacity : Option Binary64
  overlayColor : Option String
  blur : Option Binary64
  gradientPreset : Option String
  gradientColors : Option (List String)
deriving DecidableEq, Repr

structure Theme where
  accentColor : Option String
  cardColor : Option String
  fontColor : Option String
  background : Option Background
deriving DecidableEq, Repr

/-- Guided forms lead from section to section; a document form shows all of them. -/
inductive Mode
  | guided
  | document
deriving DecidableEq, Repr

inductive ColorMode
  | light
  | dark
deriving DecidableEq, Repr

structure Metadata where
  title : String := "Untitled intake"
  description : Option String := Option.none
  estimatedTime : Option String := Option.none
  completionText : Option String := Option.none
  completionNextSteps : Option String := Option.none
  completionButtonLabel : Option String := Option.none
  completionButtonUrl : Option String := Option.none
  mode : Mode := .guided
  colorMode : Option ColorMode := Option.none
  theme : Option Theme := Option.none
deriving DecidableEq, Repr

structure Draft where
  metadata : Metadata := {}
  sections : List Section := []
deriving DecidableEq

structure Snapshot where
  slug : String
  metadata : Metadata
  sections : List Section
  publishedAt : Timestamp
deriving DecidableEq

structure Record where
  id : String
  workspace : String
  title : String
  slug : String
  draft : Draft
  published : Option Snapshot
  createdAt : Timestamp
  updatedAt : Timestamp
deriving DecidableEq

def Draft.titled (title : String) : Draft := { metadata := { title := title } }

def Draft.freeze (d : Draft) (slug : String) (now : Timestamp) : Snapshot :=
  ⟨slug, d.metadata, d.sections, now⟩

def Draft.isCopied (depth : Nat) (d : Draft) : Bool :=
  (keptIn d.sections).all fun e => e.2.levels ≤ depth

def Record.isPublished (r : Record) : Bool := r.published.isSome

end IntakeForms
