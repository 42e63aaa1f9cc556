import ScriptDeps.Grammar.Pattern

namespace ScriptDeps.Grammar

/-! # The tokens of the language

Every token that is recognised by its own text alone, in the order of the grammar's symbols: symbol
`0` is the end of the source, so token `n` is entry `n` of `tokens`. The five tokens that depend on
what surrounds them come behind these and are read by the scanner.
-/

/-- How a token is recognised. -/
structure TokenRule where
  pattern : Pattern
  /-- White space before the token is part of no token, so the token must start at once. -/
  immediate : Bool := false
  /-- Tokens of higher priority win over longer ones. -/
  priority : Int := 0
  /-- Among tokens of one priority that match the same text, the higher rank wins. -/
  rank : Nat := 0
deriving Repr, Inhabited

namespace TokenRule

/-- A token with a fixed text. -/
def literal (s : String) : TokenRule := { pattern := .text s, rank := 2 }

end TokenRule

open Pattern

/-! ## Character classes -/

/-- White space between tokens. -/
def separator : CharClass where
  ranges := [(0x09, 0x0D), (0x20, 0x20), (0xA0, 0xA0), (0x1680, 0x1680), (0x2000, 0x200B),
    (0x2028, 0x2029), (0x202F, 0x202F), (0x205F, 0x2060), (0x3000, 0x3000), (0xFEFF, 0xFEFF)]

/-- What no identifier contains unescaped: controls, white space and punctuation. -/
def nonWord : List (Nat × Nat) :=
  [(0x00, 0x23), (0x25, 0x2F), (0x3A, 0x40), (0x5B, 0x5E), (0x60, 0x60), (0x7B, 0x7E),
    (0xA0, 0xA0), (0x1680, 0x1680), (0x2000, 0x200B), (0x2028, 0x2029), (0x202F, 0x202F),
    (0x205F, 0x2060), (0x3000, 0x3000), (0xFEFF, 0xFEFF)]

private def blank : Pattern := one { ranges := [(0x09, 0x0D), (0x20, 0x20)] }

private def digit : Pattern := within [('0', '9')]

private def hexDigit : Pattern := within [('0', '9'), ('a', 'f'), ('A', 'F')]

/-! ## Identifiers -/

private def unicodeEscape : Pattern :=
  either (chain [text "\\u", times 4 hexDigit])
    (chain [text "\\u\x7b", oneOrMore hexDigit, text "\x7d"])

private def wordStart : Pattern :=
  either (one { ranges := (0x30, 0x39) :: nonWord, complement := true }) unicodeEscape

private def wordPart : Pattern :=
  either (one { ranges := nonWord, complement := true }) unicodeEscape

/-- A name. -/
def identifier : Pattern := andThen wordStart (many wordPart)

/-- A name with a hyphen in it, as attributes of elements have. -/
def hyphenatedName : Pattern :=
  chain [within [('a', 'z'), ('A', 'Z'), ('_', '_'), ('$', '$')],
    many (within [('a', 'z'), ('A', 'Z'), ('0', '9'), ('_', '_'), ('$', '$')]), text "-",
    many (within [('a', 'z'), ('A', 'Z'), ('0', '9'), ('_', '_'), ('$', '$'), ('-', '-')])]

/-! ## Numbers -/

/-- Digits in groups, with single underscores between them. -/
private def grouped (d : Pattern) : Pattern := andThen d (many (andThen (opt (text "_")) d))

private def decimalDigits : Pattern := grouped digit

private def hexLiteral : Pattern := andThen (either (text "0x") (text "0X")) (grouped hexDigit)

private def binaryLiteral : Pattern :=
  andThen (either (text "0b") (text "0B")) (grouped (within [('0', '1')]))

private def octalLiteral : Pattern :=
  andThen (either (text "0o") (text "0O")) (grouped (within [('0', '7')]))

private def exponent : Pattern := chain [oneOf "eE", opt (oneOf "+-"), decimalDigits]

private def integerPart : Pattern :=
  either (text "0") (chain [opt (text "0"), within [('1', '9')],
    opt (andThen (opt (text "_")) decimalDigits)])

private def decimalLiteral : Pattern :=
  anyOf [chain [integerPart, text ".", opt decimalDigits, opt exponent],
    chain [text ".", decimalDigits, opt exponent],
    chain [integerPart, exponent],
    decimalDigits]

/-- A numeric literal. -/
def number : Pattern :=
  anyOf [hexLiteral, decimalLiteral, binaryLiteral, octalLiteral,
    andThen (anyOf [hexLiteral, binaryLiteral, octalLiteral, decimalDigits]) (text "n")]

/-! ## Strings, comments and regular expressions -/

/-- What follows a backslash in a string or a template. -/
def escapeSequence : Pattern :=
  andThen (text "\\") (anyOf [
    one { ranges := [(0x30, 0x37), (0x75, 0x75), (0x78, 0x78)], complement := true,
          undecodable := true },
    andThen (within [('0', '7')]) (upTo 2 (within [('0', '7')])),
    andThen (text "x") (times 2 hexDigit),
    andThen (text "u") (times 4 hexDigit),
    chain [text "u\x7b", oneOrMore hexDigit, text "\x7d"],
    andThen (oneOf "\r?") (oneOf "\n\u2028\u2029")])

/-- A line comment, or a block comment up to the first `*/`. -/
def comment : Pattern :=
  either (andThen (text "//") (many (noneOf "\r\n\u2028\u2029")))
    (chain [text "/*", many (noneOf "*"), oneOrMore (text "*"),
      many (chain [noneOf "/*", many (noneOf "*"), oneOrMore (text "*")]), text "/"])

/-- The inside of a regular expression literal. -/
def regexBody : Pattern :=
  oneOrMore (anyOf [
    chain [text "[", many (either (andThen (text "\\") (noneOf "\n")) (noneOf "]\n\\")), text "]"],
    andThen (text "\\") (noneOf "\n"),
    noneOf "/\\[\n"])

/-- A character reference in an element. -/
def characterReference : Pattern :=
  chain [text "&", either
    (andThen (text "#") (either
      (chain [oneOf "xX", hexDigit, upTo 5 hexDigit])
      (chain [digit, upTo 4 digit])))
    (andThen (within [('A', 'Z'), ('a', 'z')]) (upTo 29 (within [('A', 'Z'), ('a', 'z')]))),
    text ";"]

/-- Text of an attribute value between the given quotes, up to a character reference. -/
private def attributeText (quote : String) : Pattern :=
  oneOrMore (either (noneOf (quote ++ "&"))
    (andThen (text "&")
      (one { ranges := [(0x23, 0x23), (0x41, 0x5A), (0x61, 0x7A)], complement := true,
             undecodable := true })))

/-! ## The table -/

open TokenRule in
/-- The tokens by symbol number. -/
def tokens : List TokenRule :=
  [ -- 0
    { pattern := never },
    { pattern := identifier },
    { pattern := andThen (text "#!") (many (noneOf "\n")) },
    literal "export", literal "*", literal "default", literal "as", literal "\x7b", literal ",",
    literal "\x7d",
    -- 10
    literal "import", literal "from", literal "with", literal "var", literal "let",
    literal "const", literal "using", literal "await", literal "of", literal "else",
    -- 20
    literal "if", literal "switch", literal "for", literal "(", literal ";", literal ")",
    literal "in", literal "while", literal "do", literal "try",
    -- 30
    literal "break", literal "continue", literal "debugger", literal "return", literal "throw",
    literal ":", literal "case", literal "catch", literal "finally", literal "yield",
    -- 40
    literal "=", literal "[", literal "]",
    { pattern := characterReference },
    literal "<", literal ">",
    { pattern := hyphenatedName },
    literal ".", literal "</", literal "/>",
    -- 50
    literal "\"", literal "'",
    { pattern := attributeText "\"", immediate := true, priority := 1, rank := 1 },
    { pattern := attributeText "'", immediate := true, priority := 1, rank := 1 },
    literal "class", literal "extends", literal "async", literal "function", literal "=>",
    literal "?.",
    -- 60
    literal "new", literal "+=", literal "-=", literal "*=", literal "/=", literal "%=",
    literal "^=", literal "&=", literal "|=", literal ">>=",
    -- 70
    literal ">>>=", literal "<<=", literal "**=", literal "&&=", literal "||=", literal "??=",
    literal "...", literal "&&", literal "||", literal ">>",
    -- 80
    literal ">>>", literal "<<", literal "&", literal "^", literal "|", literal "+", literal "-",
    literal "/", literal "%", literal "**",
    -- 90
    literal "<=", literal "==", literal "===", literal "!=", literal "!==", literal ">=",
    literal "??", literal "instanceof", literal "!", literal "~",
    -- 100
    literal "typeof", literal "void", literal "delete", literal "++", literal "--",
    { pattern := oneOrMore (noneOf "\"\\\r\n"), immediate := true, priority := 1, rank := 1 },
    { pattern := oneOrMore (noneOf "'\\\r\n"), immediate := true, priority := 1, rank := 1 },
    { pattern := escapeSequence, immediate := true, rank := 1 },
    { pattern := comment },
    literal "`",
    -- 110
    literal "$\x7b",
    { pattern := text "/", immediate := true, priority := 1, rank := 3 },
    { pattern := regexBody, immediate := true, priority := -1, rank := 1 },
    { pattern := oneOrMore (within [('a', 'z')]), immediate := true, rank := 1 },
    { pattern := number },
    { pattern := andThen (text "#") identifier },
    literal "target", literal "meta", literal "this", literal "super",
    -- 120
    literal "true", literal "false", literal "null", literal "undefined", literal "@",
    literal "static",
    { pattern := chain [text "static", oneOrMore blank, text "get", many blank, text "\n"] },
    literal "get", literal "set"]

end ScriptDeps.Grammar
