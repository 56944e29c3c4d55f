import CommentTags.Text.Quoted

namespace CommentTags.Expression

inductive FieldProblem where
  | braceExpected
  | loneBrace
  | tooDeep
  | backslash
  | comment
  | tooManyBrackets
  | unmatched (c : Char)
  | mismatched (c opening : Char)
  | openText
  | nothing
  | nothingBefore (c : Char)
  | badConversion
  | unexpectedEnd
deriving DecidableEq, Repr

inductive EscapeProblem where
  | shortHex
  | shortUnicode
  | shortLongUnicode
  | noCharacter
  | badName
  | unknownName
deriving DecidableEq, Repr

inductive Problem where
  | openText (tripled : Bool) (line : Nat)
  | badNumber (kind : Text)
  | badDigit (c : Char) (kind : Text)
  | leadingZeros
  | tooManyDigits (count : Nat)
  | badCharacter (c : Char)
  | unmatched (c : Char)
  | mismatched (c opening : Char) (line : Option Nat)
  | unclosed (opening : Char)
  | tooManyBrackets
  | strayBackslash
  | nothingBehindBackslash
  | unevenIndent
  | mixedIndent
  | deepIndent
  | indented
  | outdented
  | wideBytes
  | mixedTexts
  | badEscape (first last : Nat) (e : EscapeProblem)
  | badByteEscape (position : Nat)
  | field (p : FieldProblem)
  | inField (p : Problem)
  | malformed
  | commaMissing
  | elseMissing
  | callMissing (name : Text)
  | nameAssigned
  | assigned (what : Text)
  | walrus (what : Text)
  | argumentAssigned
  | constantAssigned (name : Text)
  | badTarget (what : Text)
  | starred (doubled : Bool)
  | starredValue
  | valueMissing
  | colonMissing
  | positionalBehindKeyword
  | positionalBehindMapping
  | starredBehindMapping
  | bareGenerator
  | unpackedElement
  | unpackedEntry
  | bareTarget
  | defaultMissing
  | defaultBehindDefault
  | parameterBrackets
  | nothingBeforeSlash
  | secondSlash
  | slashBehindStar
  | starBehindSlash
  | bareStar
  | starDefault
  | secondStar
  | mappingDefault
  | behindMapping
  | noLiteral
  | emptyKey
  | unhashable (kind : Text)
  | hugeNumber
  | deepTree
  | outOfMemory
  | zero
deriving DecidableEq, Repr

namespace FieldProblem

def message : FieldProblem → Text
  | .braceExpected => "f-string: expecting '\x7d'".toList
  | .loneBrace => "f-string: single '\x7d' is not allowed".toList
  | .tooDeep => "f-string: expressions nested too deeply".toList
  | .backslash => "f-string expression part cannot include a backslash".toList
  | .comment => "f-string expression part cannot include '#'".toList
  | .tooManyBrackets => "f-string: too many nested parenthesis".toList
  | .unmatched c => "f-string: unmatched '".toList ++ [c, '\'']
  | .mismatched c opening =>
    "f-string: closing parenthesis '".toList ++ c ::
      "' does not match opening parenthesis '".toList ++ [opening, '\'']
  | .openText => "f-string: unterminated string".toList
  | .nothing => "f-string: empty expression not allowed".toList
  | .nothingBefore c => "f-string: expression required before '".toList ++ [c, '\'']
  | .badConversion =>
    "f-string: invalid conversion character: expected 's', 'r', or 'a'".toList
  | .unexpectedEnd => "f-string: unexpected end of string".toList

end FieldProblem

namespace EscapeProblem

def message : EscapeProblem → Text
  | .shortHex => "truncated \\xXX escape".toList
  | .shortUnicode => "truncated \\uXXXX escape".toList
  | .shortLongUnicode => "truncated \\UXXXXXXXX escape".toList
  | .noCharacter => "illegal Unicode character".toList
  | .badName => "malformed \\N character escape".toList
  | .unknownName => "unknown Unicode character name".toList

end EscapeProblem

namespace Problem

def message : Problem → Text
  | .openText tripled line =>
    "unterminated ".toList ++ (if tripled then "triple-quoted ".toList else []) ++
      "string literal (detected at line ".toList ++ Text.ofNat line ++ [')']
  | .badNumber kind => "invalid ".toList ++ kind ++ " literal".toList
  | .badDigit c kind => "invalid digit '".toList ++ c :: "' in ".toList ++ kind ++ " literal".toList
  | .leadingZeros =>
    ("leading zeros in decimal integer literals are not permitted; " ++
      "use an 0o prefix for octal integers").toList
  | .tooManyDigits count =>
    Text.tooManyDigits count ++
      (" - Consider hexadecimal for huge integer literals" ++
        " to avoid decimal conversion limits.").toList
  | .badCharacter c =>
    let code := "U+".toList ++ (Text.hex 4 c.toNat).map Char.toUpper
    if Text.isPrintable c then "invalid character '".toList ++ c :: "' (".toList ++ code ++ [')']
    else "invalid non-printable character ".toList ++ code
  | .unmatched c => "unmatched '".toList ++ [c, '\'']
  | .mismatched c opening line =>
    "closing parenthesis '".toList ++ c ::
      "' does not match opening parenthesis '".toList ++ [opening, '\''] ++
      (line.map (fun n => " on line ".toList ++ Text.ofNat n)).getD []
  | .unclosed opening => '\'' :: opening :: "' was never closed".toList
  | .tooManyBrackets => "too many nested parentheses".toList
  | .strayBackslash => "unexpected character after line continuation character".toList
  | .nothingBehindBackslash => "unexpected EOF while parsing".toList
  | .unevenIndent => "unindent does not match any outer indentation level".toList
  | .mixedIndent => "inconsistent use of tabs and spaces in indentation".toList
  | .deepIndent => "too many levels of indentation".toList
  | .indented => "unexpected indent".toList
  | .outdented => "unexpected unindent".toList
  | .wideBytes => "bytes can only contain ASCII literal characters".toList
  | .mixedTexts => "cannot mix bytes and nonbytes literals".toList
  | .badEscape first last e =>
    "(unicode error) 'unicodeescape' codec can't decode bytes in position ".toList ++
      Text.ofNat first ++ '-' :: Text.ofNat last ++ ": ".toList ++ e.message
  | .badByteEscape position =>
    "(value error) invalid \\x escape at position ".toList ++ Text.ofNat position
  | .field p => p.message
  | .inField p => "f-string: ".toList ++ p.message
  | .malformed => "invalid syntax".toList
  | .commaMissing => "invalid syntax. Perhaps you forgot a comma?".toList
  | .elseMissing => "expected 'else' after 'if' expression".toList
  | .callMissing name =>
    "Missing parentheses in call to '".toList ++ name ++ "'. Did you mean ".toList ++ name ++
      "(...)?".toList
  | .nameAssigned => "invalid syntax. Maybe you meant '==' or ':=' instead of '='?".toList
  | .assigned what =>
    "cannot assign to ".toList ++ what ++ " here. Maybe you meant '==' instead of '='?".toList
  | .walrus what => "cannot use assignment expressions with ".toList ++ what
  | .argumentAssigned => "expression cannot contain assignment, perhaps you meant \"==\"?".toList
  | .constantAssigned name => "cannot assign to ".toList ++ name
  | .badTarget what => "cannot assign to ".toList ++ what
  | .starred doubled =>
    "cannot use ".toList ++ (if doubled then "double ".toList else []) ++
      "starred expression here".toList
  | .starredValue => "cannot use a starred expression in a dictionary value".toList
  | .valueMissing => "expression expected after dictionary key and ':'".toList
  | .colonMissing => "':' expected after dictionary key".toList
  | .positionalBehindKeyword => "positional argument follows keyword argument".toList
  | .positionalBehindMapping => "positional argument follows keyword argument unpacking".toList
  | .starredBehindMapping =>
    "iterable argument unpacking follows keyword argument unpacking".toList
  | .bareGenerator => "Generator expression must be parenthesized".toList
  | .unpackedElement => "iterable unpacking cannot be used in comprehension".toList
  | .unpackedEntry => "dict unpacking cannot be used in dict comprehension".toList
  | .bareTarget => "did you forget parentheses around the comprehension target?".toList
  | .defaultMissing => "expected default value expression".toList
  | .defaultBehindDefault => "non-default argument follows default argument".toList
  | .parameterBrackets => "Lambda expression parameters cannot be parenthesized".toList
  | .nothingBeforeSlash => "at least one argument must precede /".toList
  | .secondSlash => "/ may appear only once".toList
  | .slashBehindStar => "/ must be ahead of *".toList
  | .starBehindSlash => "expected comma between / and *".toList
  | .bareStar => "named arguments must follow bare *".toList
  | .starDefault => "var-positional argument cannot have default value".toList
  | .secondStar => "* argument may appear only once".toList
  | .mappingDefault => "var-keyword argument cannot have default value".toList
  | .behindMapping => "arguments cannot follow var-keyword argument".toList
  | .noLiteral => "malformed node or string".toList
  | .emptyKey => "malformed node or string: None".toList
  | .unhashable kind => "unhashable type: '".toList ++ kind ++ ['\'']
  | .hugeNumber => "int too large to convert to float".toList
  | .deepTree => "maximum recursion depth exceeded during ast construction".toList
  | .outOfMemory => []
  | .zero => "source code string cannot contain null bytes".toList

def isSyntactic : Problem → Bool
  | .noLiteral => false
  | .emptyKey => false
  | .unhashable _ => false
  | .hugeNumber => false
  | .deepTree => false
  | .outOfMemory => false
  | .zero => false
  | _ => true

end Problem

end CommentTags.Expression
