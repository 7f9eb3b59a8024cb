import TypedPattern.Regex.Syntax
import TypedPattern.Text.Digits

/-! The text of regular expressions. Blanks and comments of verbose mode are not part of the tree and so are gone. -/

namespace TypedPattern.Regex

def controlLetter (c : Char) : Char :=
  if c = '\x07' then 'a'
  else if c = '\x0c' then 'f'
  else if c = '\t' then 't'
  else if c = '\n' then 'n'
  else if c = '\r' then 'r'
  else 'v'

def Literal.chars (l : Literal) : List Char :=
  match l.form with
  | .verbatim => [l.char]
  | .escaped => ['\\', l.char]
  | .control => ['\\', controlLetter l.char]
  | .hexFixed kind => '\\' :: kind.letter :: Text.padLeft kind.digits (Text.upperHex l.char.toNat)
  | .hexBraced kind => '\\' :: kind.letter :: '\x7b' :: Text.upperHex l.char.toNat ++ ['\x7d']

def AssertionKind.chars : AssertionKind → List Char
  | lineStart => ['^']
  | lineEnd => ['$']
  | textStart => ['\\', 'A']
  | textEnd => ['\\', 'z']
  | wordBoundary => ['\\', 'b']
  | notWordBoundary => ['\\', 'B']
  | wordStart => "\\b\x7bstart\x7d".toList
  | wordEnd => "\\b\x7bend\x7d".toList
  | wordStartAngle => ['\\', '<']
  | wordEndAngle => ['\\', '>']
  | wordStartHalf => "\\b\x7bstart-half\x7d".toList
  | wordEndHalf => "\\b\x7bend-half\x7d".toList

def PerlClass.chars (p : PerlClass) : List Char :=
  match p.kind, p.negated with
  | .digit, false => ['\\', 'd']
  | .digit, true => ['\\', 'D']
  | .space, false => ['\\', 's']
  | .space, true => ['\\', 'S']
  | .word, false => ['\\', 'w']
  | .word, true => ['\\', 'W']

def ValueMark.chars : ValueMark → List Char
  | equal => ['=']
  | colon => [':']
  | notEqual => ['!', '=']

def UnicodeClass.chars (u : UnicodeClass) : List Char :=
  '\\' :: (if u.negated then 'P' else 'p') ::
    match u.kind with
    | .letter c => [c]
    | .named name => '\x7b' :: name ++ ['\x7d']
    | .valued mark name value => '\x7b' :: name ++ mark.chars ++ value ++ ['\x7d']

def SetOperator.chars : SetOperator → List Char
  | intersection => ['&', '&']
  | difference => ['-', '-']
  | symmetricDifference => ['~', '~']

def openBracket (negated : Bool) : List Char :=
  if negated then ['[', '^'] else ['[']

mutual

def ClassSet.chars : ClassSet → List Char
  | .empty _ => []
  | .literal l => l.chars
  | .range _ first last => first.chars ++ '-' :: last.chars
  | .ascii _ kind negated => '[' :: ':' :: (if negated then ['^'] else []) ++ kind.name.toList ++ [':', ']']
  | .unicode u => u.chars
  | .perl p => p.chars
  | .bracketed _ negated inner => openBracket negated ++ inner.chars ++ [']']
  | .union _ items => ClassSet.charsOfAll items
  | .operation _ operator left right => left.chars ++ operator.chars ++ right.chars

def ClassSet.charsOfAll : List ClassSet → List Char
  | [] => []
  | x :: xs => x.chars ++ ClassSet.charsOfAll xs

end

def FlagItem.char : FlagItem → Char
  | negation _ => '-'
  | flag _ f => f.letter

def RepetitionKind.chars : RepetitionKind → List Char
  | zeroOrOne => ['?']
  | zeroOrMore => ['*']
  | oneOrMore => ['+']
  | exactly n => '\x7b' :: Text.decimal n ++ ['\x7d']
  | atLeast n => '\x7b' :: Text.decimal n ++ [',', '\x7d']
  | between m n => '\x7b' :: Text.decimal m ++ ',' :: Text.decimal n ++ ['\x7d']

def GroupKind.chars : GroupKind → List Char
  | numbered => ['(']
  | named true name => '(' :: '?' :: 'P' :: '<' :: name ++ ['>']
  | named false name => '(' :: '?' :: '<' :: name ++ ['>']
  | plain items => '(' :: '?' :: items.map FlagItem.char ++ [':']

mutual

def Syntax.chars : Syntax → List Char
  | .empty _ => []
  | .flags _ items => '(' :: '?' :: items.map FlagItem.char ++ [')']
  | .literal l => l.chars
  | .dot _ => ['.']
  | .assertion _ kind => kind.chars
  | .unicode u => u.chars
  | .perl p => p.chars
  | .bracketed _ negated inner => openBracket negated ++ inner.chars ++ [']']
  | .repetition _ _ kind greedy body => body.chars ++ kind.chars ++ (if greedy then [] else ['?'])
  | .group _ kind body => kind.chars ++ body.chars ++ [')']
  | .alternation _ branches => Syntax.charsBetweenBars branches
  | .concat _ items => Syntax.charsOfAll items

def Syntax.charsOfAll : List Syntax → List Char
  | [] => []
  | x :: xs => x.chars ++ Syntax.charsOfAll xs

def Syntax.charsBetweenBars : List Syntax → List Char
  | [] => []
  | [x] => x.chars
  | x :: y :: rest => x.chars ++ '|' :: Syntax.charsBetweenBars (y :: rest)

end

end TypedPattern.Regex
