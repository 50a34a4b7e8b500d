import TsOutline.Export
import TsOutline.Signature
import TsOutline.TypeText

/-!
# Type Declarations

Signatures of interfaces, type aliases, enums, classes, namespaces and ambient modules. A signature
is rebuilt from the parts of the declaration rather than copied, so equal declarations have equal
signatures whatever their layout.
-/

namespace TsOutline.Declaration

open Text (join collapse trim startsWith)
open TypeText (render renderOption renderMember renderParameters placeholder)

/-! ## §1 Shared parts -/

/-- Items between braces. -/
def braced (separator : String) (items : List String) : String :=
  "\x7b " ++ join separator items ++ " \x7d"

/-- What a type parameter is bounded by and defaults to, in the order of the source. -/
def genericSuffix (d : Budget) (part : Node) : String :=
  if part.kind == .constraint then " extends " ++ renderOption part.first? d.spend
  else if part.kind == .defaultType then " = " ++ renderOption part.first? d.spend
  else ""

/-- A type parameter with its bound and its default. -/
def renderTypeParameter (d : Budget) (p : Node) : String :=
  p.nameText ++ join "" (p.members.map (genericSuffix d))

/-- The type parameters of a declaration between angle brackets; nothing if it has none. -/
def renderGenerics (n : Node) (d : Budget) : String :=
  let parameters := (Node.membersOf (n.child? .typeParameters)).filter fun p =>
    p.kind == .typeParameter
  if parameters.isEmpty then ""
  else "<" ++ join ", " (parameters.map (renderTypeParameter d)) ++ ">"

/-- What an asynchronous method without annotation returns. -/
def asyncReturn : String := "Promise<unknown>"

/-- What any other method without annotation returns. -/
def defaultReturn : String := "void"

/-- The return type of a method. -/
def methodReturn (member : Node) (d : Budget) : String :=
  match member.child? .returnType with
  | some ascribed => render ascribed d.spend
  | none => if member.hasToken .asyncToken then asyncReturn else defaultReturn

/-- A method as `name(parameters): type`. -/
def renderMethod (member : Node) (d : Budget) : String :=
  member.nameText ++ "(" ++ renderParameters member d.spend ++ "): " ++ methodReturn member d

/-- An index signature as `[key: type]: type`. -/
def renderIndexSignature (member : Node) (d : Budget) : String :=
  "[" ++ member.nameText ++ ": " ++ renderOption (member.child? .indexType) d.spend ++ "]: "
    ++ renderOption (member.child? .typeExpr) d.spend

/-! ## §2 Interfaces, aliases, enums -/

/-- The types that an interface extends. -/
def interfaceExtends (n : Node) : String :=
  match n.memberOfKind? .extendsTypeClause with
  | some clause => " extends " ++ join ", " (clause.members.map Node.text)
  | none => ""

/-- A member of an interface; call and construct signatures are not listed. -/
def interfaceMember? (d : Budget) (member : Node) : Option String :=
  match member.kind with
  | .propertySignature => some (renderMember member d)
  | .methodSignature => some (renderMethod member d)
  | .indexSignature => some (renderIndexSignature member d)
  | _ => none

/-- The signature of an interface. -/
def interfaceText (n : Node) (d : Budget) : String :=
  "interface " ++ n.nameText ++ renderGenerics n d ++ interfaceExtends n ++ " " ++
    braced "; " ((Node.membersOf (n.child? .body)).filterMap (interfaceMember? d))

/-- The signature of a type alias. -/
def aliasText (n : Node) (d : Budget) : String :=
  "type " ++ n.nameText ++ renderGenerics n d ++ " = " ++ renderOption (n.child? .value) d

/-- A member of an enum with its value, if it has one. -/
def enumMember (member : Node) : String :=
  if member.kind == .enumAssignment then
    member.nameText ++ " = " ++ Node.textOf (member.child? .value)
  else
    member.text

/-- The signature of an enum. -/
def enumText (n : Node) : String :=
  "enum " ++ n.nameText ++ " " ++
    braced ", " ((Node.membersOf (n.child? .body)).map enumMember)

/-! ## §3 Classes -/

/-- A heritage clause: the keyword, once, and what follows it. -/
def heritageText (keyword : String) (clause : Node) : String :=
  let text := trim (collapse clause.text)
  let rest :=
    if startsWith text keyword then trim (String.ofList (text.toList.drop keyword.toList.length))
    else text
  " " ++ keyword ++ " " ++ rest

/-- One clause of the heritage of a class. -/
def heritageClause (clause : Node) : String :=
  match clause.kind with
  | .extendsClause => heritageText "extends" clause
  | .implementsClause => heritageText "implements" clause
  | _ => ""

/-- What a class extends and implements. -/
def classHeritage (n : Node) : String :=
  join "" ((Node.membersOf (n.memberOfKind? .classHeritage)).map heritageClause)

/-- A getter or setter. -/
def isAccessor (member : Node) : Bool :=
  member.hasToken .getToken || member.hasToken .setToken

/-- The mark of a static member. -/
def staticMark (member : Node) : String :=
  if member.hasToken .staticToken then "static " else ""

/-- A member of a class: a field, or a method that is no accessor. -/
def classMember? (d : Budget) (member : Node) : Option String :=
  if member.kind == .publicFieldDefinition then
    some (staticMark member ++ renderMember member d)
  else if member.kind.isClassMethod && !isAccessor member then
    if member.nameText = "constructor" then
      some ("constructor(" ++ renderParameters member d.spend ++ ")")
    else
      some (staticMark member ++ renderMethod member d)
  else
    none

/-- The signature of a class under its name. -/
def classText (n : Node) (name : String) (d : Budget) : String :=
  "class " ++ name ++ renderGenerics n d ++ classHeritage n ++ " " ++
    braced "; " ((Node.membersOf (n.child? .body)).filterMap (classMember? d))

/-! ## §4 Namespaces and modules -/

/-- The declaration inside `export` and `declare` wrappers. -/
def declared? (n : Node) : Option Node :=
  if n.kind == .exportStatement || n.kind == .ambientDeclaration then
    match _h : n.child? .declaration with
    | some c => declared? c
    | none =>
      match _h2 : n.first? with
      | some c => declared? c
      | none => none
  else
    some n
termination_by n.size
decreasing_by
  · exact Node.size_lt_of_child? _h
  · exact Node.size_lt_of_first? _h2

/-- The plain name of the first variable of a statement. -/
def firstVariable? (n : Node) : Option String :=
  match (n.memberOfKind? .variableDeclarator).bind Node.name? with
  | some name => if name.kind == .identifier then some name.text else none
  | none => none

/-- A declaration inside a namespace as `kind Name`; its own body is not opened. -/
def summary? (n : Node) : Option String :=
  match n.kind with
  | .interfaceDeclaration => some ("interface " ++ n.nameText)
  | .typeAliasDeclaration => some ("type " ++ n.nameText)
  | .enumDeclaration => some ("enum " ++ n.nameText)
  | .classDeclaration | .abstractClassDeclaration => n.name?.map fun name => "class " ++ name.text
  | .functionDeclaration | .generatorDeclaration | .functionSignature =>
    n.name?.map fun name => "function " ++ name.text
  | .lexicalDeclaration | .variableDeclaration => (firstVariable? n).map fun name => "const " ++ name
  | _ => none

/-- The declarations directly inside a namespace; a placeholder if there is none to list. -/
def contents (body : Option Node) : String :=
  let text := join "; " ((Node.membersOf body).filterMap fun s => (declared? s).bind summary?)
  if text = "" then placeholder else text

/-- A namespace or module text: a header and the contents between braces. -/
def scopeText (header : String) (body : Option Node) : String :=
  header ++ " \x7b " ++ contents body ++ " \x7d"

/-- The name under which an augmentation of the global scope is listed. -/
def globalName : String := "global"

/-! ## §5 Dispatch -/

/-- Name, kind and text of a declaration, before its place is known. -/
structure Heading where
  name : String
  kind : TypeKind
  text : String

/-- The heading of a namespace or of an ambient module, which has a quoted name. -/
def scopeHeading? (n : Node) : Option Heading :=
  n.name?.map fun name =>
    if name.kind == .stringLiteral then
      ⟨name.text, .moduleKind, scopeText ("declare module " ++ name.text) (n.child? .body)⟩
    else
      ⟨name.text, .namespaceKind, scopeText ("namespace " ++ name.text) (n.child? .body)⟩

/-- The heading of an augmentation of the global scope. -/
def globalHeading? (n : Node) : Option Heading :=
  if n.hasToken .globalToken then
    some ⟨globalName, .namespaceKind,
      scopeText ("namespace " ++ globalName) (n.memberOfKind? .statementBlock)⟩
  else
    none

/-- The heading of a declaration of any kind; none for every other node. -/
def heading? (n : Node) (d : Budget) : Option Heading :=
  match n.kind with
  | .interfaceDeclaration => some ⟨n.nameText, .interfaceKind, interfaceText n d⟩
  | .typeAliasDeclaration => some ⟨n.nameText, .typeAlias, aliasText n d⟩
  | .enumDeclaration => some ⟨n.nameText, .enumKind, enumText n⟩
  | .classDeclaration | .abstractClassDeclaration =>
    n.name?.map fun name => ⟨name.text, .classKind, classText n name.text d⟩
  | .namespaceDeclaration | .moduleDeclaration => scopeHeading? n
  | .ambientDeclaration => globalHeading? n
  | _ => none

/-- The signature of a type declaration; none for every other node. -/
def signature? (c : Cursor) (path : String) (d : Budget) : Option TypeSignature :=
  (heading? c.node d).map fun h => ⟨h.name, h.kind, h.text, path, c.isExported⟩

end TsOutline.Declaration
