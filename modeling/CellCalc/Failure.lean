import CellCalc.Text.Quoted

/-!
# Failures — every way in which reading, evaluating or addressing stops

A failure is named by its cause. Its kind groups causes for callers that treat them alike, and its
message is the text that reports and in-band error values show.

* `Failure` — the causes.
* `Failure.kind` — the group of a cause.
* `Failure.message` — the wording; a host may fail without one.
* `Failure.shown` — the failure as log records show it.
-/

namespace CellCalc

/-- Outcomes are equal if they have the same value or the same cause. -/
instance decEqExcept {ε α : Type} [DecidableEq ε] [DecidableEq α] : DecidableEq (Except ε α)
  | .ok a, .ok b => decidable_of_iff (a = b) (by simp)
  | .error a, .error b => decidable_of_iff (a = b) (by simp)
  | .ok _, .error _ => isFalse (by simp)
  | .error _, .ok _ => isFalse (by simp)

/-- The groups of failures. -/
inductive FailureKind
  | lexical
  | grammar
  | value
  | coercion
  | range
  | overflow
  | zeroDivision
  | index
  | attribute
  | character
  | decimal
  | host
  deriving DecidableEq, Repr

/-- The name under which a group of failures is reported. -/
def FailureKind.name : FailureKind → Text
  | .lexical => "TokenizerError"
  | .grammar => "ParseError"
  | .value => "ValueError"
  | .coercion => "CoercionError"
  | .range => "InvalidCellRange"
  | .overflow => "OverflowError"
  | .zeroDivision => "ZeroDivisionError"
  | .index => "IndexError"
  | .attribute => "AttributeError"
  | .character => "IllegalCharacterError"
  | .decimal => "InvalidOperation"
  | .host => "RuntimeError"

/-- The causes of a failure. -/
inductive Failure
  /-- A character that starts no lexeme. -/
  | unknownCharacter (c : Char)
  /-- A string without its closing quote. -/
  | unclosedString
  /-- A name that neither calls a function nor names a cell. -/
  | unknownName (name : Text)
  /-- A sequence of tokens that does not end in an end token. -/
  | noEndToken
  /-- A token where an operand should start, by its text. -/
  | noOperand (found : Text)
  /-- A function name that no opening parenthesis follows. -/
  | noArguments (name : Text)
  /-- A parenthesised expression without its closing parenthesis. -/
  | unclosedGroup
  /-- An argument list without its closing parenthesis. -/
  | unclosedCall
  /-- A missing token that the caller asked for in words of its own. -/
  | expected (message : Text)
  /-- Text that is no integer numeral. -/
  | notAnInteger (text : Text)
  /-- Text that is no decimal numeral. -/
  | notADecimal (text : Text)
  /-- A numeral with more digits than are read. -/
  | tooManyDigits (count : Nat)
  /-- An integer with more digits than are written. -/
  | tooLongToWrite
  /-- Text that labels no column. -/
  | unknownColumn (label : Text)
  /-- An integer, as written, that numbers no column. -/
  | unknownColumnNumber (number : Text)
  /-- Corners of which one is no cell id. -/
  | malformedRange (start stop : Text)
  /-- A range that a source of cells cannot resolve. -/
  | unresolvedRange
  /-- Text with no number at its front. -/
  | notNumericText (text : Text)
  /-- A value, as shown, that has no number. -/
  | notNumeric (shown : Text)
  /-- A binary operator that has no arithmetic. -/
  | unknownOperator (operator : Text)
  /-- Something that is no formula node, by the name of its type. -/
  | unknownNode (typeName : Text)
  /-- An integer beyond the largest double where a double is needed. -/
  | integerBeyondDouble
  /-- A quotient of integers beyond the largest double. -/
  | quotientBeyondDouble
  /-- An integer divided by the integer zero. -/
  | integerByZero
  /-- A division by zero in which a double takes part. -/
  | doubleByZero
  /-- A signaling NaN where a number is read. -/
  | signalingNaN
  /-- Text that is no decimal of a workbook. -/
  | malformedDecimal
  /-- A decimal with an exponent beyond those of a workbook. -/
  | decimalOutOfBounds
  /-- A year, as written, outside the calendar. -/
  | noSuchYear (year : Text)
  /-- A day that its month does not have. -/
  | noSuchDay
  /-- A part of a date or a time outside its bounds. -/
  | partOutOfBounds (part : Text) (first last : Nat)
  /-- A number of days, as written, beyond the longest duration. -/
  | tooManyDays (days : Text)
  /-- A reference to an area of a worksheet that is not written as one. -/
  | malformedReference (reference : Text)
  /-- A reference that names neither a column nor a row. -/
  | emptyReference (reference : Text)
  /-- A row that a worksheet does not have. -/
  | noSuchRow (row : Nat)
  /-- An area that is not a single cell where one is needed. -/
  | notOneCell
  /-- A text, as cut for a worksheet, with a control character. -/
  | controlCharacter (text : Text)
  /-- A value, as shown, that no worksheet holds. -/
  | notStorable (shown : Text)
  /-- A failure of the code that a source or a function belongs to, with its words if it has any. -/
  | host (message : Option Text)
  deriving DecidableEq, Repr

namespace Failure

/-- The group of a cause. -/
def kind : Failure → FailureKind
  | unknownCharacter _ | unclosedString | unknownName _ => .lexical
  | noOperand _ | noArguments _ | unclosedGroup | unclosedCall | expected _ => .grammar
  | noEndToken | notAnInteger _ | notADecimal _ | tooManyDigits _ | tooLongToWrite
  | unknownColumn _ | unknownColumnNumber _ | malformedRange _ _ | unknownOperator _
  | unknownNode _ | signalingNaN | noSuchYear _ | noSuchDay | partOutOfBounds _ _ _
  | malformedReference _ | noSuchRow _ | notStorable _ => .value
  | notNumericText _ | notNumeric _ => .coercion
  | unresolvedRange => .range
  | integerBeyondDouble | quotientBeyondDouble | tooManyDays _ => .overflow
  | integerByZero | doubleByZero => .zeroDivision
  | emptyReference _ => .index
  | notOneCell => .attribute
  | controlCharacter _ => .character
  | malformedDecimal | decimalOutOfBounds => .decimal
  | host _ => .host

/-- Quoted text in the message about an integer numeral is cut to this many characters. -/
def quotedLimit : Nat := 200

/-- The wording of a failure, empty for a host that gives none. -/
def message : Failure → Text
  | unknownCharacter c => "无法识别的字符: ".toList ++ [c]
  | unclosedString => "未闭合的字符串"
  | unknownName name => "无效的单元格引用或函数名: ".toList ++ name
  | noEndToken => "Token sequence must end with an EOF token"
  | noOperand found => "无法解析的表达式: ".toList ++ found
  | noArguments name => "预期函数 ".toList ++ name ++ " 后跟随的是 '('".toList
  | unclosedGroup => "预期表达式结束有 ')'"
  | unclosedCall => "预期函数参数结束有 ')'"
  | expected words => words
  | notAnInteger text =>
      "invalid literal for int() with base 10: ".toList ++ (Text.quoted text).take quotedLimit
  | notADecimal text => "could not convert string to float: ".toList ++ Text.quoted text
  | tooManyDigits count =>
      "Exceeds the limit (4300 digits) for integer string conversion: value has ".toList
        ++ Nat.toDigits 10 count
        ++ " digits; use sys.set_int_max_str_digits() to increase the limit".toList
  | tooLongToWrite =>
      "Exceeds the limit (4300 digits) for integer string conversion; ".toList
        ++ "use sys.set_int_max_str_digits() to increase the limit".toList
  | unknownColumn label =>
      '\'' :: label ++ "' is not a valid column name. Column names are from A to ZZZ".toList
  | unknownColumnNumber number => "Invalid column index ".toList ++ number
  | malformedRange start stop => "Invalid cell range: ".toList ++ start ++ ':' :: stop
  | unresolvedRange => "无效的单元格范围"
  | notNumericText text => "Cannot convert text '".toList ++ text ++ "' to number".toList
  | notNumeric shown => "Cannot convert ".toList ++ shown ++ " to number".toList
  | unknownOperator operator => "Unknown operator: ".toList ++ operator
  | unknownNode typeName => "Unknown node type: ".toList ++ typeName
  | integerBeyondDouble => "int too large to convert to float"
  | quotientBeyondDouble => "integer division result too large for a float"
  | integerByZero => "division by zero"
  | doubleByZero => "float division by zero"
  | signalingNaN => "cannot convert signaling NaN to float"
  | malformedDecimal => "[<class 'decimal.ConversionSyntax'>]"
  | decimalOutOfBounds => "[<class 'decimal.InvalidOperation'>]"
  | noSuchYear year => "year ".toList ++ year ++ " is out of range".toList
  | noSuchDay => "day is out of range for month"
  | partOutOfBounds part first last =>
      part ++ " must be in ".toList ++ Nat.toDigits 10 first ++ "..".toList
        ++ Nat.toDigits 10 last
  | tooManyDays days =>
      "days=".toList ++ days ++ "; must have magnitude <= 999999999".toList
  | malformedReference reference | emptyReference reference =>
      reference ++ " is not a valid coordinate or range".toList
  | noSuchRow row =>
      "Row numbers must be between 1 and 1048576. Row number supplied was ".toList
        ++ Nat.toDigits 10 row
  | notOneCell => "'tuple' object has no attribute 'value'"
  | controlCharacter text => text ++ " cannot be used in worksheets.".toList
  | notStorable shown => "Cannot convert ".toList ++ shown ++ " to Excel".toList
  | host words => words.getD []

/-- The failure as log records show it: its kind, and its wording in quotes. -/
def shown (f : Failure) : Text :=
  let words := if f = host none then [] else Text.quoted f.message
  f.kind.name ++ '(' :: words ++ [')']

end Failure

end CellCalc
