import SchemaGraph.Text.Case

/-!
# Words of a name

`words` splits a name at every character that is not an ASCII letter or digit and where the letter
case shows the start of a word. An acronym stays one word, so `HTTPResponse` has the words `HTTP`
and `Response`. `snakeCase` and `camelCase` put the words together again.
-/

namespace SchemaGraph.Naming

/-- Whether a word starts at `c`, after the letter or digit `before` and ahead of `after`: at an
uppercase letter that follows a lowercase letter or a digit, and at the last letter of a run of
uppercase ones when a lowercase letter follows it. -/
def startsWord (before c : Char) (after : Option Char) : Bool :=
  c.isUpper && (before.isLower || before.isDigit || (before.isUpper && after.any Char.isLower))

/-- A word given in reverse, left out when it is empty. -/
def finished (current : List Char) : List (List Char) :=
  if current.isEmpty then [] else [current.reverse]

/-- The words of a text after the current word, which is given in reverse. -/
def wordsFrom : List Char → List Char → List (List Char)
  | current, [] => finished current
  | current, c :: rest =>
      if c.isAlphanum then
        match current with
        | [] => wordsFrom [c] rest
        | before :: _ =>
            if startsWord before c rest.head? then
              current.reverse :: wordsFrom [c] rest
            else wordsFrom (c :: current) rest
      else finished current ++ wordsFrom [] rest

/-- The words of a text. -/
def words (text : List Char) : List (List Char) :=
  wordsFrom [] text

/-- A word of ASCII letters and digits with its first letter in upper case. -/
def capitalize : List Char → List Char
  | [] => []
  | c :: rest => c.toUpper :: rest

/-- The words of a name in lower case, joined by underscores. -/
def snakeCase (name : String) : String :=
  String.ofList (['_'].intercalate ((words name.toList).map Text.lowerAscii))

/-- Words in lower case, all but the first with a capital. -/
def camelWords : List (List Char) → List Char
  | [] => []
  | first :: rest =>
      Text.lowerAscii first ++ rest.flatMap fun word => capitalize (Text.lowerAscii word)

/-- The words of a name joined in lower camel case. -/
def camelCase (name : String) : String :=
  String.ofList (camelWords (words name.toList))

end SchemaGraph.Naming
