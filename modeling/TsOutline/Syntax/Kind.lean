/-!
# Kinds and Fields of Syntax Nodes

The grammar's node kinds that an outline looks at, one constructor each, and the field names under
which a parent finds a particular child. Every other kind or field keeps the name it came with.
-/

namespace TsOutline

/-! ## §1 Kinds -/

/-- The kind of a syntax node. A keyword and a construct can share a kind; a node's `named` flag
    tells them apart. -/
inductive Kind where
  -- comments and tokens
  | comment | staticToken | asyncToken | optionalToken | getToken | setToken | globalToken
  -- names and literals
  | identifier | typeIdentifier | propertyIdentifier | stringLiteral
  -- annotation wrappers
  | typeAscription | optingTypeAscription | omittingTypeAscription | addingTypeAscription
  | typePredicateAscription | assertsAscription
  -- type expressions
  | genericType | arrayType | unionType | intersectionType | objectType | functionType
  | tupleType | parenthesizedType | conditionalType | lookupType
  -- members and parameters
  | propertySignature | methodSignature | abstractMethodSignature | indexSignature
  | mappedTypeClause | publicFieldDefinition | methodDefinition | typeParameters | typeParameter
  | constraint | defaultType | formalParameters | decorator | enumAssignment
  -- declarations
  | interfaceDeclaration | typeAliasDeclaration | enumDeclaration | classDeclaration
  | abstractClassDeclaration | classExpression | classBody | classHeritage | extendsClause
  | implementsClause | extendsTypeClause | namespaceDeclaration | moduleDeclaration
  | ambientDeclaration | lexicalDeclaration | variableDeclaration | variableDeclarator
  -- callables
  | functionDeclaration | generatorDeclaration | functionSignature | functionExpression
  | functionKeyword | generatorExpression | arrowFunction
  -- statements and scopes
  | program | statementBlock | returnStatement | exportStatement | exportClause | exportSpecifier
  -- expressions
  | callExpression | memberExpression | argumentList | objectLiteral | pair
  | parenthesizedExpression | jsxElement | jsxSelfClosingElement | jsxFragment
  -- everything else
  | other (name : String)
  deriving Repr, DecidableEq

/-- The kind with the given grammar name. -/
def Kind.ofName : String → Kind
  | "comment" => .comment
  | "static" => .staticToken
  | "async" => .asyncToken
  | "?" => .optionalToken
  | "get" => .getToken
  | "set" => .setToken
  | "global" => .globalToken
  | "identifier" => .identifier
  | "type_identifier" => .typeIdentifier
  | "property_identifier" => .propertyIdentifier
  | "string" => .stringLiteral
  | "type_annotation" => .typeAscription
  | "opting_type_annotation" => .optingTypeAscription
  | "omitting_type_annotation" => .omittingTypeAscription
  | "adding_type_annotation" => .addingTypeAscription
  | "type_predicate_annotation" => .typePredicateAscription
  | "asserts_annotation" => .assertsAscription
  | "generic_type" => .genericType
  | "array_type" => .arrayType
  | "union_type" => .unionType
  | "intersection_type" => .intersectionType
  | "object_type" => .objectType
  | "function_type" => .functionType
  | "tuple_type" => .tupleType
  | "parenthesized_type" => .parenthesizedType
  | "conditional_type" => .conditionalType
  | "lookup_type" => .lookupType
  | "property_signature" => .propertySignature
  | "method_signature" => .methodSignature
  | "abstract_method_signature" => .abstractMethodSignature
  | "index_signature" => .indexSignature
  | "mapped_type_clause" => .mappedTypeClause
  | "public_field_definition" => .publicFieldDefinition
  | "method_definition" => .methodDefinition
  | "type_parameters" => .typeParameters
  | "type_parameter" => .typeParameter
  | "constraint" => .constraint
  | "default_type" => .defaultType
  | "formal_parameters" => .formalParameters
  | "decorator" => .decorator
  | "enum_assignment" => .enumAssignment
  | "interface_declaration" => .interfaceDeclaration
  | "type_alias_declaration" => .typeAliasDeclaration
  | "enum_declaration" => .enumDeclaration
  | "class_declaration" => .classDeclaration
  | "abstract_class_declaration" => .abstractClassDeclaration
  | "class" => .classExpression
  | "class_body" => .classBody
  | "class_heritage" => .classHeritage
  | "extends_clause" => .extendsClause
  | "implements_clause" => .implementsClause
  | "extends_type_clause" => .extendsTypeClause
  | "internal_module" => .namespaceDeclaration
  | "module" => .moduleDeclaration
  | "ambient_declaration" => .ambientDeclaration
  | "lexical_declaration" => .lexicalDeclaration
  | "variable_declaration" => .variableDeclaration
  | "variable_declarator" => .variableDeclarator
  | "function_declaration" => .functionDeclaration
  | "generator_function_declaration" => .generatorDeclaration
  | "function_signature" => .functionSignature
  | "function_expression" => .functionExpression
  | "function" => .functionKeyword
  | "generator_function" => .generatorExpression
  | "arrow_function" => .arrowFunction
  | "program" => .program
  | "statement_block" => .statementBlock
  | "return_statement" => .returnStatement
  | "export_statement" => .exportStatement
  | "export_clause" => .exportClause
  | "export_specifier" => .exportSpecifier
  | "call_expression" => .callExpression
  | "member_expression" => .memberExpression
  | "arguments" => .argumentList
  | "object" => .objectLiteral
  | "pair" => .pair
  | "parenthesized_expression" => .parenthesizedExpression
  | "jsx_element" => .jsxElement
  | "jsx_self_closing_element" => .jsxSelfClosingElement
  | "jsx_fragment" => .jsxFragment
  | word => .other word

namespace Kind

/-! ## §2 Groups of kinds -/

/-- Wrappers that stand between a declaration and the type it is annotated with. -/
def isAscription : Kind → Bool
  | typeAscription | optingTypeAscription | omittingTypeAscription | addingTypeAscription
  | typePredicateAscription | assertsAscription => true
  | _ => false

/-- Declarations of a class. -/
def isClassDeclaration : Kind → Bool
  | classDeclaration | abstractClassDeclaration => true
  | _ => false

/-- Statements that declare variables. -/
def isVariableStatement : Kind → Bool
  | lexicalDeclaration | variableDeclaration => true
  | _ => false

/-- Markup: an element, with or without a body, or a fragment. -/
def isMarkup : Kind → Bool
  | jsxElement | jsxSelfClosingElement | jsxFragment => true
  | _ => false

/-- Functions that are declared under a name of their own, bodies optional. -/
def isFunctionDeclaration : Kind → Bool
  | functionDeclaration | generatorDeclaration | functionSignature => true
  | _ => false

/-- Functions inside an expression, whose own name is optional. -/
def isFunctionExpression : Kind → Bool
  | functionExpression | functionKeyword | generatorExpression => true
  | _ => false

/-- Everything that can be called. -/
def isCallable (k : Kind) : Bool :=
  k.isFunctionDeclaration || k.isFunctionExpression || k == arrowFunction || k == methodDefinition

/-- Methods as they stand in the body of a class: defined, overloaded or abstract. -/
def isClassMethod : Kind → Bool
  | methodDefinition | methodSignature | abstractMethodSignature => true
  | _ => false

/-- Statements whose export makes what they contain exported. -/
def isExportable (k : Kind) : Bool :=
  k.isVariableStatement || k.isClassDeclaration || k == functionDeclaration
    || k == generatorDeclaration

/-- Nodes at which the search for the declaring scope stops. -/
def isScope : Kind → Bool
  | program | statementBlock => true
  | _ => false

end Kind

/-! ## §3 Fields -/

/-- The role a child plays for its parent. -/
inductive Field where
  | name | value | typeExpr | body | parameters | parameter | pattern | returnType
  | typeParameters | typeArguments | function | arguments | object | property | key | declaration
  | source | indexType | left | right | consequence | alternative
  | other (name : String)
  deriving Repr, DecidableEq

/-- The field with the given grammar name; the empty name is no field. -/
def Field.ofName? : String → Option Field
  | "" => none
  | "name" => some .name
  | "value" => some .value
  | "type" => some .typeExpr
  | "body" => some .body
  | "parameters" => some .parameters
  | "parameter" => some .parameter
  | "pattern" => some .pattern
  | "return_type" => some .returnType
  | "type_parameters" => some .typeParameters
  | "type_arguments" => some .typeArguments
  | "function" => some .function
  | "arguments" => some .arguments
  | "object" => some .object
  | "property" => some .property
  | "key" => some .key
  | "declaration" => some .declaration
  | "source" => some .source
  | "index_type" => some .indexType
  | "left" => some .left
  | "right" => some .right
  | "consequence" => some .consequence
  | "alternative" => some .alternative
  | word => some (.other word)

end TsOutline
