/-!
# Kinds of nodes
-/

namespace StructuralLint

/-- What a node of a syntax tree stands for. -/
inductive Kind where
  | fileInput
  | token
  | name
  | function
  | classDef
  | parameterList
  | parameter
  | tupleParameter
  | lambda
  | ifStatement
  | elseClause
  | whileStatement
  | forStatement
  | tryStatement
  | exceptClause
  | finallyClause
  | withStatement
  | withItem
  | matchStatement
  | caseBlock
  | raiseStatement
  | returnStatement
  | passStatement
  | breakStatement
  | continueStatement
  | deleteStatement
  | assertStatement
  | globalStatement
  | nonlocalStatement
  | importName
  | importFrom
  | aliasedName
  | assignment
  | annotatedAssignment
  | compoundAssignment
  | expressionStatement
  | call
  | argument
  | qualifiedExpr
  | subscription
  | sliceItem
  | starredExpr
  | conditionalExpr
  | assignmentExpr
  | await
  | yieldExpr
  | binaryExpr
  | unaryExpr
  | comparison
  | literal
  | stringLiteral
  | tuple
  | listLiteral
  | setLiteral
  | dictionaryLiteral
  | listComprehension
  | setComprehension
  | dictComprehension
  | generatorExpr
  | compFor
  | statement
  | expression
deriving DecidableEq, Repr, Inhabited

namespace Kind

/-- The name of a kind in reports. -/
def label : Kind → String
  | fileInput => "file_input"
  | token => "token"
  | name => "name"
  | function => "funcdef"
  | classDef => "classdef"
  | parameterList => "parameter_list"
  | parameter => "parameter"
  | tupleParameter => "tuple_parameter"
  | lambda => "lambda"
  | ifStatement => "if_stmt"
  | elseClause => "else_clause"
  | whileStatement => "while_stmt"
  | forStatement => "for_stmt"
  | tryStatement => "try_stmt"
  | exceptClause => "except_clause"
  | finallyClause => "finally_clause"
  | withStatement => "with_stmt"
  | withItem => "with_item"
  | matchStatement => "match_stmt"
  | caseBlock => "case_block"
  | raiseStatement => "raise_stmt"
  | returnStatement => "return_stmt"
  | passStatement => "pass_stmt"
  | breakStatement => "break_stmt"
  | continueStatement => "continue_stmt"
  | deleteStatement => "del_stmt"
  | assertStatement => "assert_stmt"
  | globalStatement => "global_stmt"
  | nonlocalStatement => "nonlocal_stmt"
  | importName => "import_name"
  | importFrom => "import_from"
  | aliasedName => "aliased_name"
  | assignment => "assignment_stmt"
  | annotatedAssignment => "annotated_assignment"
  | compoundAssignment => "compound_assignment"
  | expressionStatement => "expression_stmt"
  | call => "call_expr"
  | argument => "argument"
  | qualifiedExpr => "qualified_expr"
  | subscription => "subscription"
  | sliceItem => "slice_item"
  | starredExpr => "starred_expr"
  | conditionalExpr => "conditional_expr"
  | assignmentExpr => "assignment_expression"
  | await => "await"
  | yieldExpr => "yield_expr"
  | binaryExpr => "binary_expr"
  | unaryExpr => "unary_expr"
  | comparison => "comparison"
  | literal => "literal"
  | stringLiteral => "string_literal"
  | tuple => "tuple"
  | listLiteral => "list_literal"
  | setLiteral => "set_literal"
  | dictionaryLiteral => "dictionary_literal"
  | listComprehension => "list_comprehension"
  | setComprehension => "set_comprehension"
  | dictComprehension => "dict_comprehension"
  | generatorExpr => "generator_expr"
  | compFor => "comp_for"
  | statement => "statement"
  | expression => "expression"

/-- Every kind. -/
def all : List Kind :=
  [fileInput, token, name, function, classDef, parameterList, parameter, tupleParameter, lambda,
    ifStatement, elseClause, whileStatement, forStatement, tryStatement, exceptClause,
    finallyClause, withStatement, withItem, matchStatement, caseBlock, raiseStatement,
    returnStatement, passStatement, breakStatement, continueStatement, deleteStatement,
    assertStatement, globalStatement, nonlocalStatement, importName, importFrom, aliasedName,
    assignment, annotatedAssignment, compoundAssignment, expressionStatement, call, argument,
    qualifiedExpr, subscription, sliceItem, starredExpr, conditionalExpr, assignmentExpr, await,
    yieldExpr, binaryExpr, unaryExpr, comparison, literal, stringLiteral, tuple, listLiteral,
    setLiteral, dictionaryLiteral, listComprehension, setComprehension, dictComprehension,
    generatorExpr, compFor, statement, expression]

/-- The kind of a name in reports. -/
def ofLabel? (label : String) : Option Kind := all.find? (·.label == label)

/-- Comprehensions have a scope of their own. -/
def isComprehension : Kind → Bool
  | listComprehension | setComprehension | dictComprehension | generatorExpr => true
  | _ => false

end Kind

end StructuralLint
