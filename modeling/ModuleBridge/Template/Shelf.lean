import ModuleBridge.Template.Reader

/-!
# Named templates

A shelf holds templates under names. A new template replaces the one with its name, unless it cannot
be read.
-/

namespace ModuleBridge

/-- Templates under their names, the latest first. Reference: `TemplateEngine`. -/
abbrev TemplateShelf := List (String × Template)

namespace TemplateShelf

/-- Is there a template with the name? Reference: `has_template`. -/
def has (shelf : TemplateShelf) (name : String) : Bool :=
  (Json.find? name shelf).isSome

/-- Puts the template that a text is on the shelf. Reference: `register_template_string`. -/
def register (shelf : TemplateShelf) (name text : String) : Except Error TemplateShelf :=
  match Template.parse? text with
  | some template => .ok ((name, template) :: shelf)
  | none => .error (.template s!"Failed to register template '{name}'")

/-- Renders the template with the name. Reference: `TemplateEngine::render`. -/
def render (shelf : TemplateShelf) (name : String) (context : Json) : Except Error String :=
  match Json.find? name shelf with
  | some template => template.render name context
  | none => .error (.template s!"Rendering '{name}' failed: Template not found {name}")

end TemplateShelf

end ModuleBridge
