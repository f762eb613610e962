import Changesets.Template.Render

/-!
Renderers: pure functions from the template for a field and a context to a text or a failure. The
template language of this library is the standard one.
-/
namespace Changesets

/-- A failed rendering of the template for a field. -/
structure RenderError where
  field : String
  reason : String
  deriving DecidableEq

def RenderError.message (e : RenderError) : String :=
  s!"failed to render changeset template field '{e.field}': {e.reason}"

/-- Renders the template for a field. -/
abbrev Renderer := (field template : String) → Template.Context → Except RenderError String

def Renderer.standard : Renderer := fun field template context =>
  (Template.render template context).mapError fun failure => ⟨field, failure.message⟩

end Changesets
