import DevSecOpsPlatform.PythonValues

/-!
# Rendering configuration templates

Jinja2 is a parameter: reading a template body may fail, and rendering what was read
with keyword arguments may fail. `renderTemplate` is `jinja_renderer.render_template`:
syntax errors and missing variables become a `ValueError`, every other exception passes.
-/

namespace DevSecOpsPlatform.TemplateRendering

open PythonValues

inductive JinjaError where
  | templateSyntaxError (lineno : ℕ) (message : String)
  | undefinedError (message : String)
  | other (error : Exn)

/-- `Environment.from_string`, then `Template.render` on keyword arguments. -/
abbrev Jinja := String → Except JinjaError (List (String × Json) → Except JinjaError String)

/-- `tmpl.render(**variables)`; only an object can be spread into keyword arguments. -/
def renderSpread (render : List (String × Json) → Except JinjaError String) :
    Json → Except JinjaError String
  | .obj kvs => render kvs
  | v => .error (.other ⟨.typeError,
      "jinja2.environment.Template.render() argument after ** must be a mapping, not " ++
        v.typeName⟩)

def translateError : JinjaError → Exn
  | .templateSyntaxError lineno message =>
    ⟨.valueError, "Template syntax error at line " ++ toString lineno ++ ": " ++ message⟩
  | .undefinedError message => ⟨.valueError, "Missing variable in template: " ++ message⟩
  | .other e => e

def renderTemplate (jinja : Jinja) (templateBody : String) (vars : Json) :
    Except Exn String :=
  match jinja templateBody >>= fun tmpl => renderSpread tmpl vars with
  | .ok text => .ok text
  | .error e => .error (translateError e)

end DevSecOpsPlatform.TemplateRendering
