namespace ScriptDeps.Grammar

/-! # The symbols of the grammar

Symbols are numbered: the end of the source is `0`, the tokens follow, then the nonterminals. The
table below says how each of them shows in a syntax tree.
-/

/-- How a symbol shows in a syntax tree. -/
inductive SymbolInfo where
  /-- As a node of this kind. -/
  | node (kind : String)
  /-- As a keyword or a punctuator, whose kind is its text. -/
  | token (text : String)
  /-- Not itself, only through its children. The name is for the reader of the table. -/
  | hidden (name : String)
deriving DecidableEq, Repr, Inhabited

/-- The symbol shows. -/
def SymbolInfo.visible : SymbolInfo → Bool
  | hidden _ => false
  | _ => true

/-- The symbol shows as a node that is more than a keyword or a punctuator. -/
def SymbolInfo.named : SymbolInfo → Bool
  | node _ => true
  | _ => false

/-- The kind that the symbol gives a node. -/
def SymbolInfo.kind : SymbolInfo → String
  | node k => k
  | token t => t
  | hidden n => n

/-- The symbols from this number on are nonterminals. -/
def tokenCount : Nat := 134

/-- The end of the source. -/
def endSymbol : Nat := 0

/-- The name token. -/
def wordSymbol : Nat := 1

/-! ## Tokens that depend on what surrounds them -/

/-- A semicolon that is not written. -/
def unwrittenSemicolon : Nat := 129

/-- Plain text of a template. -/
def templateText : Nat := 130

/-- The question mark of a conditional expression. -/
def conditionalMark : Nat := 131

/-- A comment in the manner of markup. -/
def markupComment : Nat := 132

/-- Plain text of an element. -/
def elementText : Nat := 133

/-- The token `||`. -/
def orSymbol : Nat := 78

/-- An escape in a string or a template. -/
def escapeSymbol : Nat := 107

/-- The inside of a regular expression. -/
def regexSymbol : Nat := 112

/-! ## The table -/

/-- The symbols by number. -/
def symbols : Array SymbolInfo :=
  #[
    -- 0
    .hidden "end of source", .node "identifier", .node "hash_bang_line", .token "export",
    .token "*", .token "default", .token "as", .token "\x7b", .token ",", .token "\x7d",
    -- 10
    .token "import", .token "from", .token "with", .token "var", .token "let", .token "const",
    .token "using", .token "await", .token "of", .token "else",
    -- 20
    .token "if", .token "switch", .token "for", .token "(", .token ";", .token ")", .token "in",
    .token "while", .token "do", .token "try",
    -- 30
    .token "break", .token "continue", .token "debugger", .token "return", .token "throw",
    .token ":", .token "case", .token "catch", .token "finally", .token "yield",
    -- 40
    .token "=", .token "[", .token "]", .node "html_character_reference", .token "<", .token ">",
    .node "identifier", .token ".", .token "</", .token "/>",
    -- 50
    .token "\"", .token "'", .node "string_fragment", .node "string_fragment", .token "class",
    .token "extends", .token "async", .token "function", .token "=>", .node "optional_chain",
    -- 60
    .token "new", .token "+=", .token "-=", .token "*=", .token "/=", .token "%=", .token "^=",
    .token "&=", .token "|=", .token ">>=",
    -- 70
    .token ">>>=", .token "<<=", .token "**=", .token "&&=", .token "||=", .token "??=",
    .token "...", .token "&&", .token "||", .token ">>",
    -- 80
    .token ">>>", .token "<<", .token "&", .token "^", .token "|", .token "+", .token "-",
    .token "/", .token "%", .token "**",
    -- 90
    .token "<=", .token "==", .token "===", .token "!=", .token "!==", .token ">=", .token "??",
    .token "instanceof", .token "!", .token "~",
    -- 100
    .token "typeof", .token "void", .token "delete", .token "++", .token "--",
    .node "string_fragment", .node "string_fragment", .node "escape_sequence", .node "comment",
    .token "`",
    -- 110
    .token "$\x7b", .token "/", .node "regex_pattern", .node "regex_flags", .node "number",
    .node "private_property_identifier", .token "target", .token "meta", .node "this",
    .node "super",
    -- 120
    .node "true", .node "false", .node "null", .node "undefined", .token "@", .token "static",
    .token "static get", .token "get", .token "set", .hidden "automatic semicolon",
    -- 130
    .node "string_fragment", .token "?", .node "html_comment", .node "jsx_text", .node "program",
    .node "export_statement", .node "namespace_export", .node "export_clause",
    .node "export_specifier", .hidden "module export name",
    -- 140
    .hidden "declaration", .node "import", .node "import_statement", .node "import_clause",
    .hidden "from clause", .node "namespace_import", .node "named_imports",
    .node "import_specifier", .node "import_attribute", .hidden "statement",
    -- 150
    .node "expression_statement", .node "variable_declaration", .node "lexical_declaration",
    .node "using_declaration", .node "variable_declarator", .node "statement_block",
    .node "else_clause", .node "if_statement", .node "switch_statement", .node "for_statement",
    -- 160
    .node "for_in_statement", .hidden "for header", .node "while_statement",
    .node "do_statement", .node "try_statement", .node "with_statement", .node "break_statement",
    .node "continue_statement", .node "debugger_statement", .node "return_statement",
    -- 170
    .node "throw_statement", .node "empty_statement", .node "labeled_statement",
    .node "switch_body", .node "switch_case", .node "switch_default", .node "catch_clause",
    .node "finally_clause", .node "parenthesized_expression", .hidden "expression",
    -- 180
    .hidden "primary expression", .node "yield_expression", .node "object",
    .node "object_pattern", .node "assignment_pattern", .node "object_assignment_pattern",
    .node "array", .node "array_pattern", .node "jsx_element", .node "jsx_expression",
    -- 190
    .node "jsx_opening_element", .node "member_expression", .node "jsx_namespace_name",
    .node "jsx_closing_element", .node "jsx_self_closing_element", .node "jsx_attribute",
    .node "string", .node "class", .node "class_declaration", .node "class_heritage",
    -- 200
    .node "function_expression", .node "function_declaration", .node "generator_function",
    .node "generator_function_declaration", .node "arrow_function", .node "call_expression",
    .node "new_expression", .node "await_expression", .node "member_expression",
    .node "subscript_expression",
    -- 210
    .node "assignment_expression", .hidden "augmented assignment lhs",
    .node "augmented_assignment_expression", .hidden "initializer",
    .hidden "destructuring pattern", .node "spread_element", .node "ternary_expression",
    .node "binary_expression", .node "unary_expression", .node "update_expression",
    -- 220
    .node "sequence_expression", .node "string", .node "template_string",
    .node "template_substitution", .node "regex", .node "meta_property", .node "arguments",
    .node "decorator", .node "member_expression", .node "call_expression",
    -- 230
    .node "class_body", .node "field_definition", .node "formal_parameters",
    .node "class_static_block", .hidden "pattern", .node "rest_pattern",
    .node "method_definition", .node "pair", .node "pair_pattern", .hidden "property name",
    -- 240
    .node "computed_property_name", .hidden "program elements 1",
    .hidden "export statement elements 1", .hidden "export clause elements 1",
    .hidden "named imports elements 1", .hidden "variable declaration elements 1",
    .hidden "switch body elements 1", .hidden "object elements 1",
    .hidden "object pattern elements 1", .hidden "array elements 1",
    -- 250
    .hidden "array pattern elements 1", .hidden "jsx element elements 1",
    .hidden "jsx opening element elements 1", .hidden "jsx string elements 1",
    .hidden "jsx string elements 2", .hidden "sequence expression elements 1",
    .hidden "string elements 1", .hidden "string elements 2",
    .hidden "template string elements 1", .hidden "class body elements 1",
    -- 260
    .hidden "formal parameters elements 1"]

/-- How the symbol shows. -/
def symbolInfo (s : Nat) : SymbolInfo := symbols.getD s (.hidden "")

end ScriptDeps.Grammar
