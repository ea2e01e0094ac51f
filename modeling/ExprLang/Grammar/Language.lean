import ExprLang.Grammar.Pattern

/-!
# ExprLang.Grammar.Language

The grammar of the language.

An expression is read as a flat run of operators, operands and steps; how they group is decided
afterwards, by the levels of `InfixOp.level`.  Everything nested (a bracket, the middle of a
conditional, a hole in a template) goes through `Pattern.recurse`.
-/

namespace ExprLang.Language

open Pattern

/-! ## Characters -/

def isLetter (c : Char) : Bool := ('a' ≤ c && c ≤ 'z') || ('A' ≤ c && c ≤ 'Z')

def isDigit (c : Char) : Bool := '0' ≤ c && c ≤ '9'

def isHexDigit (c : Char) : Bool :=
  isDigit c || ('a' ≤ c && c ≤ 'f') || ('A' ≤ c && c ≤ 'F')

/-- Names begin with a letter or an underscore. -/
def isNameStart (c : Char) : Bool := isLetter c || c == '_'

/-- Names go on with letters, digits and underscores. -/
def isNamePart (c : Char) : Bool := isNameStart c || isDigit c

/-- The text given. -/
def word (s : String) : Pattern := .text s.toList

def anyChar : Pattern := .one fun _ => true

/-- One of the characters given. -/
def anyOf (cs : List Char) : Pattern := .one fun c => cs.contains c

/-- Any character but those given. -/
def noneOf (cs : List Char) : Pattern := .one fun c => !cs.contains c

/-! ## Names -/

/-- The names with a value of their own, which cannot be assigned to. -/
def keywords : List String := ["true", "false", "null", "undefined", "NaN", "Infinity"]

def keywordBody : Pattern :=
  .seq (choice (keywords.map word)) (.unless (.one isNamePart))

def name : Pattern :=
  .rule .name .lexeme (.seq (.one isNameStart) (.many (.one isNamePart)))

/-- A name that is not a keyword. -/
def identifier : Pattern :=
  .rule .identifier .lexeme (.seq (.unless (.rule .keyword .lexeme keywordBody)) name)

/-- A plain name, or a capture name such as `$1`. -/
def variableName : Pattern :=
  .rule .variable .lexeme
    (.either (.seq (word "$") (oneOrMore (.one isNamePart))) identifier)

def literal : Pattern := .rule .literal .lexeme keywordBody

/-! ## Numbers -/

def digits : Pattern := oneOrMore (.one isDigit)

/-- Digits in another radix, after a mark such as `0x`. -/
def radixNumber (r : Rule) (lower upper : String) (digit : Char → Bool) : Pattern :=
  .rule r .lexeme (.seq (.either (word lower) (word upper)) (oneOrMore (.one digit)))

def decimal : Pattern :=
  .rule .decimal .lexeme
    (.seq
      (.either
        (.seq digits (.maybe (.seq (word ".") digits)))
        (.seq (word ".") digits))
      (.maybe (all [anyOf ['e', 'E'], .maybe (anyOf ['+', '-']), digits])))

def number : Pattern :=
  .rule .number .compact
    (.seq (.maybe (word "-"))
      (choice [
        radixNumber .hexadecimal "0x" "0X" isHexDigit,
        radixNumber .octal "0o" "0O" fun c => '0' ≤ c && c ≤ '7',
        radixNumber .binary "0b" "0B" fun c => c == '0' || c == '1',
        decimal]))

/-! ## Texts, regular expressions and templates -/

/-- A backslash and the character it escapes. -/
def escaped : Pattern := .seq (word "\\") anyChar

/-- The characters between two quotes: any but the quote and the backslash, or an escape. -/
def quotedBody (r : Rule) (quote : Char) : Pattern :=
  .rule r .lexeme (.many (.either (noneOf [quote, '\\']) escaped))

def string : Pattern :=
  .rule .string .compact
    (.either
      (all [word "\"", quotedBody .doubleQuoted '"', word "\""])
      (all [word "\x27", quotedBody .singleQuoted '\x27', word "\x27"]))

def regexp : Pattern :=
  .rule .regexp .compact
    (all [
      word "/",
      .rule .regexpBody .lexeme
        (oneOrMore
          (.either (noneOf ['/', '\\', '\n', '\r']) (.seq (word "\\") (noneOf ['\n', '\r'])))),
      word "/",
      .rule .regexpFlags .lexeme (.many (.one isLetter))])

/-- The text of a template up to a hole or its end. -/
def templateText : Pattern :=
  .rule .templateText .lexeme
    (oneOrMore
      (.either
        (.seq (.unless (choice [word "\x60", word "$\x7b", word "\\"])) anyChar)
        escaped))

def templateHole : Pattern :=
  .rule .templateHole .spaced (all [word "$\x7b", .recurse, word "\x7d"])

def template : Pattern :=
  .rule .template .compact
    (all [word "\x60", .many (.either templateText templateHole), word "\x60"])

/-! ## Operands -/

/-- One or more of `p` with commas between them, and perhaps one after the last. -/
def commaList (p : Pattern) : Pattern :=
  all [p, .many (.seq (word ",") p), .maybe (word ",")]

def grouped : Pattern := .rule .grouped .plain (all [word "(", .recurse, word ")"])

def array : Pattern :=
  .rule .array .plain (all [word "[", .maybe (commaList .recurse), word "]"])

def computedKey : Pattern := .rule .computedKey .plain (all [word "[", .recurse, word "]"])

def objectItem : Pattern :=
  .rule .objectItem .plain
    (all [choice [computedKey, string, number, name], word ":", .recurse])

def object : Pattern :=
  .rule .object .plain (all [word "\x7b", .maybe (commaList objectItem), word "\x7d"])

def operand : Pattern :=
  choice [grouped, template, array, object, regexp, number, string, literal, variableName]

/-! ## Operators and steps -/

def unaryOp (op : UnaryOp) : Pattern := .rule (.unary op) .plain (word op.symbol)

/-- The operators before an operand. -/
def unaryOps : Pattern := .either (unaryOp .not) (unaryOp .bitNot)

def infixOp (op : InfixOp) (symbol : String) : Pattern := .rule (.between op) .plain (word symbol)

/-- A question mark, an expression and a colon; a mark followed by `:` or `.` means another
operator. -/
def choiceOp : Pattern :=
  .rule (.between .choice) .plain
    (all [word "?", .unless (.either (word ":") (word ".")), .recurse, word ":"])

/-- The operators between operands, each before those that its symbol begins with. -/
def infixOps : Pattern :=
  choice (
    [infixOp .fallback "?:", choiceOp]
    ++ ([LogicalOp.or, .and].map fun op => infixOp (.logical op) op.symbol)
    ++ ([BitwiseOp.or, .and].map fun op => infixOp (.bitwise op) op.symbol)
    ++ ([RelationalOp.eq, .neq, .isMatch, .noMatch].map fun op =>
        infixOp (.relational op) op.symbol)
    ++ ([BitwiseOp.shl, .shr].map fun op => infixOp (.bitwise op) op.symbol)
    ++ ([RelationalOp.le, .ge, .lt, .gt].map fun op => infixOp (.relational op) op.symbol)
    ++ ([ArithmeticOp.add, .sub, .pow, .mul, .div, .rem].map fun op =>
        infixOp (.arithmetic op) op.symbol))

/-- The arguments of a call with its brackets. -/
def arguments : Pattern := all [word "(", .maybe (commaList .recurse), word ")"]

/-- The field, index and call steps after an operand, the `?.` forms first. -/
def steps : Pattern :=
  choice [
    .rule (.call true) .plain (.seq (word "?.") arguments),
    .rule (.index true) .plain (all [word "?.", word "[", .recurse, word "]"]),
    .rule (.field true) .plain (.seq (word "?.") name),
    .rule (.call false) .plain arguments,
    .rule (.index false) .plain (all [word "[", .recurse, word "]"]),
    .rule (.field false) .plain (.seq (word ".") name)]

/-! ## Expressions, statements and programs -/

/-- An operand with the operators before it and the steps after it. -/
def operandRun : Pattern := all [.many unaryOps, operand, .many steps]

def expression : Pattern :=
  .rule .expression .plain
    (all [.many unaryOps, operand, .many steps,
      .many (all [infixOps, .many unaryOps, operand, .many steps])])

/-- A name, an equals sign that begins neither `==` nor `=~`, and the value. -/
def assignment : Pattern :=
  .rule .assignment .plain
    (all [identifier, word "=", .unless (.either (word "=") (word "~")), .recurse])

def statement : Pattern := .either assignment .recurse

/-- Statements with semicolons between them, and perhaps one after the last. -/
def statements : Pattern :=
  .rule .statements .plain
    (all [statement, .many (.seq (word ";") statement), .maybe (word ";")])

/-- A whole text: blanks, the statements and the end. -/
def program : Pattern :=
  .rule .program .plain (all [.text [], statements, .rule .endOfText .plain .stop])

end ExprLang.Language
