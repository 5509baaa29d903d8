import SourceFacts.Grammar
import SourceFacts.Grammar.Script.Statement

/-!
The typed script languages. The two grammars differ only in whether markup elements may stand in
expressions. An export is visible if it is written, and methods are known by their place, so nothing
is left to decide behind the queries.
-/
namespace SourceFacts.Grammar

namespace Script

/-- Modules that something is imported from, is exported from, or that are loaded by a call. -/
def imports : Query :=
  [{ shape := .of "import_statement" [.inField "source" (.named "source" (.of "string" []))] },
    { shape := .of "export_statement" [.inField "source" (.named "source" (.of "string" []))] },
    { shape := .of "call_expression"
        [.inField "function" (.named "_require" (.of "identifier" [])),
          .inField "arguments" (.of "arguments" [.named "source" (.of "string" [])])]
      conditions := [⟨"_require", fun text => text = "require"⟩] }]

/-- A declaration that is exported where it stands. -/
def exportedDeclaration (declared kind : String) (children : List Shape) : Shape :=
  .named declared (.of "export_statement" [.inField "declaration" (.of kind children)])

/-- What exports make known. -/
def exports : Query :=
  let declarator := Shape.of "variable_declarator" [.name "identifier"]
  [{ shape := exportedDeclaration "function" "function_declaration" [.name "identifier"] },
    { shape := exportedDeclaration "function" "generator_function_declaration" [.name "identifier"] },
    { shape := exportedDeclaration "class" "class_declaration" [.name "type_identifier"] },
    { shape := exportedDeclaration "class" "abstract_class_declaration" [.name "type_identifier"] },
    { shape := exportedDeclaration "interface" "interface_declaration" [.name "type_identifier"] },
    { shape := exportedDeclaration "type" "type_alias_declaration" [.name "type_identifier"] },
    { shape := exportedDeclaration "enum" "enum_declaration" [.name "identifier"] },
    { shape := exportedDeclaration "variable" "lexical_declaration" [declarator] },
    { shape := exportedDeclaration "variable" "variable_declaration" [declarator] },
    { shape := .named "variable" (.of "export_statement"
        [.of "export_clause" [.of "export_specifier" [.name "identifier"]]]) },
    { shape := .named "default" (.of "export_statement" [.inField "value" .any]) }]

/-- A variable with a function for its value. -/
def functionVariable (declared valueKind : String) : Shape :=
  .named declared (.of "variable_declarator"
    [.name "identifier", .inField "value" (.of valueKind [])])

/-- Named functions of all kinds. -/
def functions : Query :=
  [{ shape := .declaring "function_declaration" "identifier" "function" },
    { shape := .declaring "generator_function_declaration" "identifier" "function" },
    { shape := .declaring "method_definition" "property_identifier" "method" },
    { shape := functionVariable "arrow" "arrow_function" },
    { shape := functionVariable "function" "function_expression" }]

end Script

/-- TypeScript without markup. -/
def typescript : Grammar where
  name := "typescript"
  extensions := ["ts", "mts", "cts"]
  engine := { tree := Script.tree false }
  imports := .valid Script.imports
  exports := .valid Script.exports
  functions := .valid Script.functions

/-- TypeScript with markup, which also serves for plain scripts. -/
def tsx : Grammar where
  name := "tsx"
  extensions := ["tsx", "jsx", "js", "mjs", "cjs"]
  engine := { tree := Script.tree true }
  imports := .valid Script.imports
  exports := .valid Script.exports
  functions := .valid Script.functions

end SourceFacts.Grammar
