import ModuleBridge.Template.Shelf

/-!
# The templates of generated code

Four templates make up what is generated for a module: the code of the module, one wrapper in it for
each function, the declarations of the module, and one alias in them for each function.
-/

namespace ModuleBridge.Generation

open Piece (plain tag₂ tag₃)

/-- The wrapper of a function. Reference: `JS_FUNCTION`. -/
def wrapperTemplate : Template := [
  plain "  const ", tag₂ "binding", plain " = (...args) => \x7b\n    if (args.length !== ",
  tag₂ "arity", plain ") \x7b\n      throw new Error(`Expected ", tag₂ "arity",
  plain " arguments, but got $\x7bargs.length\x7d`);\n    \x7d\n\n    const script = `return ",
  tag₂ "name", plain "(", tag₃ "script_args",
  plain ")`;\n\n    return client.executeScript(script);\n  \x7d;\n"]

/-- The code of a module. Reference: `JS_MODULE`. -/
def codeTemplate : Template := [
  plain "// Auto-generated from ", tag₂ "module_name", plain " by ", tag₂ "generator",
  plain "\nimport \x7b PythonApiClient \x7d from '", tag₂ "runtime_package",
  plain "';\n\nexport const ", tag₂ "export_name",
  plain " = (directorEndpoint) => \x7b\n  const client = new PythonApiClient(directorEndpoint, ",
  tag₃ "module_literal", plain ", ", tag₃ "source_literal",
  plain ");\n\n  const registration = client.register();\n\n", tag₃ "functions",
  plain "  return \x7b\n    ", tag₃ "members", plain "\n  \x7d;\n\x7d;\n"]

/-- The alias for the type of a function. Reference: `DTS_FUNCTION`. -/
def aliasTemplate : Template := [
  plain "export type ", tag₂ "type_name", plain " = (", tag₃ "parameters",
  plain ") => Promise<ExecuteResponse>;\n"]

/-- The declarations of a module. Reference: `DTS_MODULE`. -/
def declarationsTemplate : Template := [
  plain "// Auto-generated from ", tag₂ "module_name", plain " by ", tag₂ "generator",
  plain ("\nimport \x7b AxiosResponse \x7d from 'axios';\n" ++
    "import \x7b PythonApiClient, ExecuteResponse, RegisterResponse \x7d from '"),
  tag₂ "runtime_package", plain "';\n\n", tag₃ "function_types", plain "export declare const ",
  tag₂ "export_name", plain ": (directorEndpoint: string) => \x7b\n  ", tag₃ "members",
  plain "\n\x7d;\n"]

/-- The templates under the names by which they can be replaced and rendered. Reference:
`register_builtin_templates`. -/
def shelf : TemplateShelf := [
  ("js/module", codeTemplate), ("js/function", wrapperTemplate),
  ("dts/module", declarationsTemplate), ("dts/function", aliasTemplate)]

end ModuleBridge.Generation
