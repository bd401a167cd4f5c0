import BeanGauge.Text.Case
/-!
Metric names. A camel-case name is cut into words at its capitals, and a normalised name consists of
letters, digits, dots and underscores, with no underscore next to a dot or at an end.
-/

namespace BeanGauge.Metric

/-- Whether `c` is an ASCII capital. -/
def isCapital (c : Char) : Bool := 'A' ≤ c && c ≤ 'Z'

/-- Whether `c` is an ASCII lower-case letter. -/
def isSmall (c : Char) : Bool := 'a' ≤ c && c ≤ 'z'

/-- Whether `c` is an ASCII letter. -/
def isLetter (c : Char) : Bool := isCapital c || isSmall c

/-- Whether `c` is an ASCII digit. -/
def isDigit (c : Char) : Bool := '0' ≤ c && c ≤ '9'

/-- Cuts before every capitalised word that follows another character of its line. While `inWord`,
small letters belong to the word just cut off and start nothing new. -/
def cutWords (inWord : Bool) : List Char → List Char
  | x :: c :: l :: cs =>
    if inWord && isSmall x then x :: cutWords true (c :: l :: cs)
    else if x != '\n' && isCapital c && isSmall l then x :: '_' :: c :: l :: cutWords true cs
    else x :: cutWords false (c :: l :: cs)
  | cs => cs

/-- Cuts before every capital that follows a small letter or a digit. -/
def cutCapitals : List Char → List Char
  | x :: c :: cs =>
    if (isSmall x || isDigit x) && isCapital c then x :: '_' :: c :: cutCapitals cs
    else x :: cutCapitals (c :: cs)
  | cs => cs

/-- The words of a camel-case name in lower case, joined by underscores. -/
def snakeChars (cs : List Char) : List Char := Text.lowerChars (cutCapitals (cutWords false cs))

/-- The words of a camel-case name in lower case, joined by underscores. -/
def camelToSnake (name : String) : String := String.ofList (snakeChars name.toList)

/-- Whether `c` may stand in a normalised name. -/
def isNameChar (c : Char) : Bool := isLetter c || isDigit c || c == '_' || c == '.'

/-- One underscore for every run of characters that may not stand in a name. `inRun` while such a
run goes on. -/
def foldIllegal (inRun : Bool) : List Char → List Char
  | [] => []
  | c :: cs =>
    if isNameChar c then c :: foldIllegal false cs
    else if inRun then foldIllegal true cs
    else '_' :: foldIllegal true cs

/-- One underscore for every run of illegal characters, and one for the characters before the first
letter if the name starts with a legal one. -/
def replaceIllegal : List Char → List Char
  | [] => []
  | c :: cs =>
    if isNameChar c && !isLetter c then
      '_' :: foldIllegal false (cs.dropWhile (!isLetter ·))
    else foldIllegal false (c :: cs)

/-- Drops the underscores next to dots. `pending` underscores have been read and not written;
`afterDot` while the last character written is a dot. -/
def hugDots (pending : Nat) (afterDot : Bool) : List Char → List Char
  | [] => List.replicate pending '_'
  | c :: cs =>
    if c == '_' then
      if afterDot then hugDots pending true cs else hugDots (pending + 1) false cs
    else if c == '.' then '.' :: hugDots 0 true cs
    else List.replicate pending '_' ++ c :: hugDots 0 false cs

def trimUnderscores (cs : List Char) : List Char :=
  ((cs.dropWhile (· == '_')).reverse.dropWhile (· == '_')).reverse

def normalizeChars (cs : List Char) : List Char :=
  trimUnderscores (hugDots 0 false (replaceIllegal (snakeChars cs)))

def normalize (name : String) : String := String.ofList (normalizeChars name.toList)

end BeanGauge.Metric
