/-
The table that is used when none is given: the kinds of the concrete syntax
tree of PHP.

Each family has a block of consecutive codes, the single constructs first
and the collections of them after. Published codes stay as they are: a new
kind goes to the end of its block.
-/
import SyntaxWire.Table

namespace SyntaxWire

namespace KindTable

/-- Names under consecutive codes, with their tags. -/
def block (start : Nat) (names : List (String × Option Category)) : List TableEntry :=
  names.zipIdx.map fun ((name, category), i) => ⟨name, UInt32.ofNat (start + i), category⟩

def singles (names : List String) : List (String × Option Category) := names.map (·, none)

def collections (names : List String) : List (String × Option Category) :=
  names.map (·, some .collection)

def declNames : List String :=
  ["Decl", "Expr", "Stmt", "UnknownDecl", "ReservedNonModifier", "SemiReserved", "Identifier",
    "NamespaceName", "Name", "NameListItem", "InitializerClause", "TypeClause", "TypeExprClause",
    "ReturnTypeClause", "Parameter", "ParameterListItem", "ParameterClause", "FunctionDefinition",
    "ClassModifier", "ExtendsFromClause", "ImplementsClause", "InterfaceExtendsClause",
    "ClassPropertyClause", "ClassPropertyListItem", "ClassConstClause", "ClassConstListItem",
    "MemberModifier", "ClassPropertyDecl", "ClassConstDecl", "ClassMethodDecl",
    "ClassTraitMethodReference", "ClassAbsoluteTraitMethodReference", "ClassTraitPrecedence",
    "ClassTraitAlias", "ClassTraitAdaptation", "ClassTraitAdaptationBlock", "ClassTraitDecl",
    "MemberDeclListItem", "MemberDeclBlock", "ClassDefinition", "InterfaceDefinition",
    "TraitDefinition", "SourceFile"]

def declListNames : List String :=
  ["NameList", "ParameterList", "ClassModifierList", "MemberDeclList", "MemberModifierList",
    "ClassPropertyList", "ClassConstList", "ClassTraitAdaptationList"]

def exprNames : List String :=
  ["UnknownExpr", "ParenDecoratedExpr", "NullExpr", "OptionalExpr", "ExprListItem",
    "VariableExpr", "ReferencedVariableExpr", "ClassConstIdentifierExpr", "ConstExpr",
    "NewVariableClause", "CallableVariableExpr", "CallableFuncNameClause", "MemberNameClause",
    "PropertyNameClause", "InstancePropertyExpr", "StaticPropertyExpr", "Argument",
    "ArgumentListItem", "ArgumentListClause", "DereferencableClause", "VariableClassNameClause",
    "ClassNameClause", "ClassNameRefClause", "BraceDecoratedExprClause",
    "BraceDecoratedVariableExpr", "ArrayKeyValuePairItem", "ArrayUnpackPairItem", "ArrayPair",
    "ArrayPairListItem", "ListRecursivePairItem", "SimpleVariableExpr", "ArrayCreateExpr",
    "SimplifiedArrayCreateExpr", "ArrayAccessExpr", "BraceDecoratedArrayAccessExpr",
    "SimpleFunctionCallExpr", "FunctionCallExpr", "InstanceMethodCallExpr",
    "StaticMethodCallExpr", "DereferencableScalarExpr", "AnonymousClassDefinitionClause",
    "SimpleInstanceCreateExpr", "AnonymousInstanceCreateExpr", "ClassicLambdaExpr",
    "SimplifiedLambdaExpr", "LambdaExpr", "InstanceCreateExpr", "ScalarExpr",
    "ClassRefParentExpr", "ClassRefSelfExpr", "ClassRefStaticExpr", "IntegerLiteralExpr",
    "FloatLiteralExpr", "StringLiteralExpr", "BooleanLiteralExpr", "IssetVariable",
    "IssetVariableListItem", "IssetVariablesClause", "IssetFuncExpr", "EmptyFuncExpr",
    "IncludeExpr", "RequireExpr", "EvalFuncExpr", "PrintFuncExpr", "FuncLikeExpr",
    "ArrayStructureAssignmentExpr", "ListStructureClause", "ListStructureAssignmentExpr",
    "AssignmentExpr", "CompoundAssignmentExpr", "LogicalExpr", "BitLogicalExpr", "RelationExpr",
    "CastExpr", "ExitExprArgClause", "ExitExpr", "YieldExpr", "YieldFromExpr", "CloneExpr",
    "EncapsVariableOffset", "EncapsArrayVar", "EncapsObjProp", "EncapsDollarCurlyExpr",
    "EncapsDollarCurlyVar", "EncapsDollarCurlyArray", "EncapsCurlyVariable", "EncapsVariable",
    "EncapsListItem", "BackticksClause", "HeredocExpr", "EncapsListStringExpr", "TernaryExpr",
    "SequenceExpr", "PrefixOperatorExpr", "PostfixOperatorExpr", "BinaryOperatorExpr",
    "InstanceofExpr", "ShellCmdExpr", "UseLexicalVariableClause", "LexicalVariable",
    "LexicalVariableListItem"]

def exprListNames : List String :=
  ["ExprList", "LexicalVariableList", "ArrayPairList", "EncapsItemList", "ArgumentList",
    "IssetVariablesList"]

def stmtNames : List String :=
  ["UnknownStmt", "EmptyStmt", "NestStmt", "ExprStmt", "InnerStmt", "InnerCodeBlockStmt",
    "TopStmt", "TopCodeBlockStmt", "DeclareStmt", "GotoStmt", "UnsetVariable",
    "UnsetVariableListItem", "UnsetStmt", "LabelStmt", "ConditionElement", "ContinueStmt",
    "BreakStmt", "FallthroughStmt", "ElseIfClause", "IfStmt", "WhileStmt", "ForStmt",
    "ForeachVariable", "ForeachStmt", "SwitchDefaultLabel", "SwitchCaseLabel",
    "SwitchCaseListClause", "SwitchCase", "SwitchStmt", "DeferStmt", "ThrowStmt", "TryStmt",
    "FinallyClause", "CatchArgTypeHintItem", "CatchListItemClause", "ReturnStmt", "EchoStmt",
    "HaltCompilerStmt", "GlobalVariable", "GlobalVariableListItem",
    "GlobalVariableDeclarationsStmt", "StaticVariableDeclare", "StaticVariableListItem",
    "StaticVariableDeclarationsStmt", "NamespaceUseType", "NamespaceUnprefixedUseDeclaration",
    "NamespaceUnprefixedUseDeclarationListItem", "NamespaceUseDeclaration",
    "NamespaceUseDeclarationListItem", "NamespaceInlineUseDeclaration",
    "NamespaceInlineUseDeclarationListItem", "NamespaceGroupUseDeclaration",
    "NamespaceMixedGroupUseDeclaration", "NamespaceUseStmt", "NamespaceDefinitionStmt",
    "NamespaceBlockStmt", "ConstDeclare", "ConstListItem", "ConstDefinitionStmt",
    "ClassDefinitionStmt", "InterfaceDefinitionStmt", "TraitDefinitionStmt",
    "FunctionDefinitionStmt"]

def stmtListNames : List String :=
  ["ConditionElementList", "SwitchCaseList", "ElseIfList", "InnerStmtList", "TopStmtList",
    "CatchList", "CatchArgTypeHintList", "UnsetVariableList", "GlobalVariableList",
    "StaticVariableList", "NamespaceUseDeclarationList", "NamespaceInlineUseDeclarationList",
    "NamespaceUnprefixedUseDeclarationList", "ConstDeclareList"]

def builtin : KindTable where
  entries := block 2 (singles declNames ++ collections declListNames)
    ++ block 1001 (singles exprNames ++ collections exprListNames)
    ++ block 2001 (singles stmtNames ++ collections stmtListNames)

end KindTable

end SyntaxWire
