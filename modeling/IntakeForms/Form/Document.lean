import IntakeForms.Form
import IntakeForms.Section.Document

/-!
Drafts, snapshots and records as documents.  A moment that is absent is the
present one, so the shapes that need it take it as an argument.
-/

namespace IntakeForms

def BackgroundKind.table : List (String × BackgroundKind) :=
  [("none", .none), ("color", .color), ("image", .image), ("video", .video),
    ("gradient", .gradient), ("pattern", .pattern), ("animated_gradient", .animatedGradient)]

def BackgroundKind.name : BackgroundKind → String
  | .none => "none"
  | .color => "color"
  | .image => "image"
  | .video => "video"
  | .gradient => "gradient"
  | .pattern => "pattern"
  | .animatedGradient => "animated_gradient"

theorem BackgroundKind.lookup_name (k : BackgroundKind) : table.lookup k.name = some k := by
  cases k <;> decide

def Mode.table : List (String × Mode) := [("guided", .guided), ("document", .document)]

def Mode.name : Mode → String
  | .guided => "guided"
  | .document => "document"

theorem Mode.lookup_name (m : Mode) : table.lookup m.name = some m := by
  cases m <;> decide

def ColorMode.table : List (String × ColorMode) := [("light", .light), ("dark", .dark)]

def ColorMode.name : ColorMode → String
  | .light => "light"
  | .dark => "dark"

theorem ColorMode.lookup_name (m : ColorMode) : table.lookup m.name = some m := by
  cases m <;> decide

namespace Background

def shape : Shape Background := Shape.object fun es =>
  Background.mk <$> es.defaulted (.word "type") .none (Shape.choice .notListed BackgroundKind.table)
    <*> es.absent (.word "color") Shape.text
    <*> es.absent ⟨"imageUrl", "image_url"⟩ Shape.text
    <*> es.absent ⟨"videoUrl", "video_url"⟩ Shape.text
    <*> es.absent ⟨"overlayOpacity", "overlay_opacity"⟩ Shape.real
    <*> es.absent ⟨"overlayColor", "overlay_color"⟩ Shape.text
    <*> es.absent ⟨"blurPx", "blur_px"⟩ Shape.real
    <*> es.absent ⟨"gradientPreset", "gradient_preset"⟩ Shape.text
    <*> es.absent ⟨"animatedGradientColors", "animated_gradient_colors"⟩ (Shape.listOf Shape.text)

def write (b : Background) : Value :=
  .object [("type", .text b.kind.name), ("color", .optText b.color),
    ("imageUrl", .optText b.imageUrl), ("videoUrl", .optText b.videoUrl),
    ("overlayOpacity", .optional .real b.overlayOpacity),
    ("overlayColor", .optText b.overlayColor), ("blurPx", .optional .real b.blur),
    ("gradientPreset", .optText b.gradientPreset),
    ("animatedGradientColors", .optional .texts b.gradientColors)]

end Background

namespace Theme

def shape : Shape Theme := Shape.object fun es =>
  Theme.mk <$> es.absent ⟨"accentColor", "accent_color"⟩ Shape.text
    <*> es.absent ⟨"cardBackgroundColor", "card_background_color"⟩ Shape.text
    <*> es.absent ⟨"fontColor", "font_color"⟩ Shape.text
    <*> es.absent (.word "background") Background.shape

def write (t : Theme) : Value :=
  .object [("accentColor", .optText t.accentColor), ("cardBackgroundColor", .optText t.cardColor),
    ("fontColor", .optText t.fontColor), ("background", .optional Background.write t.background)]

end Theme

namespace Metadata

def shape : Shape Metadata := Shape.object fun es =>
  Metadata.mk <$> es.defaulted (.word "title") "Untitled intake" Shape.text
    <*> es.absent (.word "description") Shape.text
    <*> es.absent ⟨"estimatedTime", "estimated_time"⟩ Shape.text
    <*> es.absent ⟨"completionText", "completion_text"⟩ Shape.text
    <*> es.absent ⟨"completionNextSteps", "completion_next_steps"⟩ Shape.text
    <*> es.absent ⟨"completionButtonLabel", "completion_button_label"⟩ Shape.text
    <*> es.absent ⟨"completionButtonUrl", "completion_button_url"⟩ Shape.text
    <*> es.defaulted (.word "mode") .guided (Shape.choice .notListed Mode.table)
    <*> es.absent ⟨"colorMode", "color_mode"⟩ (Shape.choice .notListed ColorMode.table)
    <*> es.absent (.word "theme") Theme.shape

def write (m : Metadata) : Value :=
  .object [("title", .text m.title), ("description", .optText m.description),
    ("estimatedTime", .optText m.estimatedTime), ("completionText", .optText m.completionText),
    ("completionNextSteps", .optText m.completionNextSteps),
    ("completionButtonLabel", .optText m.completionButtonLabel),
    ("completionButtonUrl", .optText m.completionButtonUrl), ("mode", .text m.mode.name),
    ("colorMode", .optional (fun c => .text c.name) m.colorMode),
    ("theme", .optional Theme.write m.theme)]

end Metadata

def writeSections (sections : List Section) : Value := .list (sections.map Section.write)

def sectionsObstacle? (room : Nat) (sections : List Section) : Option Obstacle :=
  sections.findSome? (Section.obstacle? room)

def writeSections? (sections : List Section) : Except Obstacle Value :=
  Value.writtenUnless (sectionsObstacle? Value.maxDepth sections) (writeSections sections)

namespace Draft

def shape : Shape Draft := Shape.object fun es =>
  Draft.mk <$> es.defaulted (.word "metadata") {} Metadata.shape
    <*> es.defaulted (.word "sections") [] (Shape.listOf Section.shape)

def write (d : Draft) : Value :=
  .object [("metadata", d.metadata.write), ("sections", writeSections d.sections)]

def write? (d : Draft) : Except Obstacle Value :=
  Value.writtenUnless (sectionsObstacle? Value.maxDepth d.sections) d.write

end Draft

namespace Snapshot

def shape (now : Timestamp) : Shape Snapshot := Shape.object fun es =>
  Snapshot.mk <$> es.required (.word "slug") Shape.text
    <*> es.required (.word "metadata") Metadata.shape
    <*> es.required (.word "sections") (Shape.listOf Section.shape)
    <*> es.defaulted ⟨"publishedAt", "published_at"⟩ now Shape.moment

def write (s : Snapshot) : Value :=
  .object [("slug", .text s.slug), ("metadata", s.metadata.write),
    ("sections", writeSections s.sections), ("publishedAt", .text s.publishedAt.iso)]

def write? (s : Snapshot) : Except Obstacle Value :=
  Value.writtenUnless (sectionsObstacle? Value.maxDepth s.sections) s.write

end Snapshot

namespace Record

def shape (now : Timestamp) : Shape Record := Shape.object fun es =>
  Record.mk <$> es.required (.word "id") Shape.text
    <*> es.required ⟨"workspaceId", "workspace_id"⟩ Shape.text
    <*> es.required (.word "title") Shape.text
    <*> es.required (.word "slug") Shape.text
    <*> es.defaulted (.word "draft") {} Draft.shape
    <*> es.absent (.word "published") (Snapshot.shape now)
    <*> es.defaulted ⟨"createdAt", "created_at"⟩ now Shape.moment
    <*> es.defaulted ⟨"updatedAt", "updated_at"⟩ now Shape.moment

def write (r : Record) : Value :=
  .object [("id", .text r.id), ("workspaceId", .text r.workspace), ("title", .text r.title),
    ("slug", .text r.slug), ("draft", r.draft.write),
    ("published", .optional Snapshot.write r.published), ("createdAt", .text r.createdAt.iso),
    ("updatedAt", .text r.updatedAt.iso)]

def obstacle? (r : Record) : Option Obstacle :=
  (sectionsObstacle? Value.maxDepthInRecord r.draft.sections).or
    (r.published.bind fun s => sectionsObstacle? Value.maxDepthInRecord s.sections)

def write? (r : Record) : Except Obstacle Value := Value.writtenUnless r.obstacle? r.write

end Record

end IntakeForms
