/-!
The constructs that lowering tells apart, by the grammar's symbols.
-/
namespace ScriptLint

inductive Construct where
  | leaf
  | identifier
  | privateIdentifier
  | literal
  | parenthesized
  | importStatement
  | exportStatement
  | variableDeclaration
  | declarator
  | functionDeclaration
  | functionExpression
  | arrowFunction
  | classDeclaration
  | classExpression
  | object
  | objectPattern
  | arrayPattern
  | restPattern
  | assignmentPattern
  | assignment
  | member
  | subscript
  | binary
  | unary
  | ternary
  | typeCast
  | catchClause
  | block
  | forLoop
  | collectionLoop
  | labeled
  | breakStatement
  | continueStatement
  | interfaceDeclaration
  | typeAlias
  | enumDeclaration
  | moduleDeclaration
  | markupElement
  | generic
  deriving DecidableEq, Repr

namespace Construct

def typeSymbols : List String := [
  "type_annotation", "type_arguments", "type_parameters", "predefined_type", "type_identifier",
  "nested_type_identifier", "generic_type", "object_type", "union_type", "intersection_type",
  "function_type", "constructor_type", "array_type", "tuple_type", "literal_type", "lookup_type",
  "conditional_type", "index_type_query", "type_query", "parenthesized_type", "readonly_type",
  "template_literal_type", "infer_type", "existential_type", "this_type", "optional_type",
  "rest_type", "constraint", "default_type", "asserts_annotation", "type_predicate_annotation",
  "implements_clause", "extends_type_clause", "opting_type_annotation",
  "omitting_type_annotation", "adding_type_annotation", "index_signature", "call_signature",
  "construct_signature"]

def isTypeSymbol (symbol : String) : Bool := typeSymbols.contains symbol

def ofSymbol (symbol : String) : Construct :=
  if isTypeSymbol symbol then .leaf
  else match symbol with
    | "identifier" | "shorthand_property_identifier" => .identifier
    | "private_property_identifier" => .privateIdentifier
    | "property_identifier" | "statement_identifier" | "this" | "super" | "import_alias"
    | "jsx_closing_element" => .leaf
    | "string" | "number" | "regex" | "true" | "false" | "null" => .literal
    | "parenthesized_expression" => .parenthesized
    | "import_statement" => .importStatement
    | "export_statement" => .exportStatement
    | "lexical_declaration" | "variable_declaration" => .variableDeclaration
    | "variable_declarator" => .declarator
    | "function_declaration" | "generator_function_declaration" | "function_signature" =>
      .functionDeclaration
    | "function_expression" | "function" | "generator_function" => .functionExpression
    | "arrow_function" => .arrowFunction
    | "class_declaration" | "abstract_class_declaration" => .classDeclaration
    | "class" => .classExpression
    | "object" => .object
    | "object_pattern" => .objectPattern
    | "array_pattern" => .arrayPattern
    | "rest_pattern" => .restPattern
    | "assignment_pattern" => .assignmentPattern
    | "assignment_expression" | "augmented_assignment_expression" => .assignment
    | "member_expression" => .member
    | "subscript_expression" => .subscript
    | "binary_expression" => .binary
    | "unary_expression" => .unary
    | "ternary_expression" => .ternary
    | "as_expression" | "satisfies_expression" | "type_assertion" => .typeCast
    | "catch_clause" => .catchClause
    | "statement_block" | "class_static_block" => .block
    | "for_statement" => .forLoop
    | "for_in_statement" => .collectionLoop
    | "labeled_statement" => .labeled
    | "break_statement" => .breakStatement
    | "continue_statement" => .continueStatement
    | "interface_declaration" => .interfaceDeclaration
    | "type_alias_declaration" => .typeAlias
    | "enum_declaration" => .enumDeclaration
    | "internal_module" | "module" => .moduleDeclaration
    | "jsx_opening_element" | "jsx_self_closing_element" => .markupElement
    | _ => .generic

end Construct

end ScriptLint
