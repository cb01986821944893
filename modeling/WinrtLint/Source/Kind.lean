/-!
# Kinds of syntax nodes

The grammar of C# names several hundred kinds of nodes.  Binding tells apart
those below; all others are alike to it.
-/

namespace WinrtLint.Source

/-- The forms of type declarations. -/
inductive TypeForm where
  | classForm
  | structForm
  | interfaceForm
  | enumForm
  | recordForm
  | recordStructForm
  deriving DecidableEq, Repr

/-- The forms of member declarations whose parameters and locals see each other. -/
inductive MemberForm where
  | method
  | constructor
  | destructor
  | operator
  | conversionOperator
  | property
  | indexer
  | event
  deriving DecidableEq, Repr

/-- The kinds of nodes that binding tells apart. -/
inductive Kind where
  | compilationUnit
  | globalStatement
  | usingDirective
  | nameEquals
  | comment
  | namespaceBlock
  | fileScopedNamespace
  | typeDeclaration (form : TypeForm)
  | memberDeclaration (form : MemberForm)
  | fieldDeclaration
  | eventFieldDeclaration
  | parameterList
  | parameter
  | implicitParameter
  | catchDeclaration
  | declarationExpression
  | declarationPattern
  | singleDesignation
  | variableDeclaration
  | variableDeclarator
  | foreachStatement
  | lambda
  | invocation
  | objectCreation
  | castExpression
  | memberAccess
  | identifier
  | qualifiedName
  | aliasQualifiedName
  | genericName
  | nullableType
  | modifier
  | staticWord
  | sealedWord
  | abstractWord
  | structWord
  | inWord
  | equalsSign
  | other (name : String)
  deriving DecidableEq, Repr

namespace Kind

/-- The names by which the grammar calls the kinds that binding tells apart. -/
def vocabulary : List (String × Kind) :=
  [("compilation_unit", .compilationUnit),
    ("global_statement", .globalStatement),
    ("using_directive", .usingDirective),
    ("name_equals", .nameEquals),
    ("comment", .comment),
    ("namespace_declaration", .namespaceBlock),
    ("file_scoped_namespace_declaration", .fileScopedNamespace),
    ("class_declaration", .typeDeclaration .classForm),
    ("struct_declaration", .typeDeclaration .structForm),
    ("interface_declaration", .typeDeclaration .interfaceForm),
    ("enum_declaration", .typeDeclaration .enumForm),
    ("record_declaration", .typeDeclaration .recordForm),
    ("record_struct_declaration", .typeDeclaration .recordStructForm),
    ("method_declaration", .memberDeclaration .method),
    ("constructor_declaration", .memberDeclaration .constructor),
    ("destructor_declaration", .memberDeclaration .destructor),
    ("operator_declaration", .memberDeclaration .operator),
    ("conversion_operator_declaration", .memberDeclaration .conversionOperator),
    ("property_declaration", .memberDeclaration .property),
    ("indexer_declaration", .memberDeclaration .indexer),
    ("event_declaration", .memberDeclaration .event),
    ("field_declaration", .fieldDeclaration),
    ("event_field_declaration", .eventFieldDeclaration),
    ("parameter_list", .parameterList),
    ("parameter", .parameter),
    ("implicit_parameter", .implicitParameter),
    ("catch_declaration", .catchDeclaration),
    ("declaration_expression", .declarationExpression),
    ("declaration_pattern", .declarationPattern),
    ("single_variable_designation", .singleDesignation),
    ("variable_declaration", .variableDeclaration),
    ("variable_declarator", .variableDeclarator),
    ("foreach_statement", .foreachStatement),
    ("lambda_expression", .lambda),
    ("invocation_expression", .invocation),
    ("object_creation_expression", .objectCreation),
    ("cast_expression", .castExpression),
    ("member_access_expression", .memberAccess),
    ("identifier", .identifier),
    ("qualified_name", .qualifiedName),
    ("alias_qualified_name", .aliasQualifiedName),
    ("generic_name", .genericName),
    ("nullable_type", .nullableType),
    ("modifier", .modifier),
    ("static", .staticWord),
    ("sealed", .sealedWord),
    ("abstract", .abstractWord),
    ("struct", .structWord),
    ("in", .inWord),
    ("=", .equalsSign)]

/-- The kind that the grammar calls by a name. -/
def ofName (name : String) : Kind :=
  (vocabulary.lookup name).getD (.other name)

/-- Whether a node declares a type. -/
def declaresType : Kind → Bool
  | .typeDeclaration _ => true
  | _ => false

/-- Whether a node opens a namespace. -/
def opensNamespace : Kind → Bool
  | .namespaceBlock => true
  | .fileScopedNamespace => true
  | _ => false

/-- Whether the parameters and locals inside a node see each other. -/
def isMemberScope : Kind → Bool
  | .memberDeclaration _ => true
  | _ => false

/-- Whether a node stands for a modifier of a declaration. -/
def isModifier : Kind → Bool
  | .modifier => true
  | .staticWord => true
  | .sealedWord => true
  | .abstractWord => true
  | _ => false

/-- The name under which the analysis knows a node that it judges. -/
def hostKind? : Kind → Option String
  | .invocation => some "InvocationExpression"
  | .objectCreation => some "ObjectCreationExpression"
  | .variableDeclaration => some "VariableDeclaration"
  | .castExpression => some "CastExpression"
  | _ => none

end Kind

/-- The fields in which binding looks for sub-nodes. -/
inductive Field where
  | function
  | type
  | name
  | body
  | expression
  | left
  | designation
  | parameters
  | other (name : String)
  deriving DecidableEq, Repr

namespace Field

/-- The names by which the grammar calls the fields. -/
def vocabulary : List (String × Field) :=
  [("function", .function), ("type", .type), ("name", .name), ("body", .body),
    ("expression", .expression), ("left", .left), ("designation", .designation),
    ("parameters", .parameters)]

/-- The field that the grammar calls by a name. -/
def ofName (name : String) : Field :=
  (vocabulary.lookup name).getD (.other name)

end Field

end WinrtLint.Source
