import BeanHarvest.Text.Lower

/-! Metric names. Normalising a name goes through six rewritings, each a scan from left to right:
word breaks become underscores, letters become small, everything else that a name may not hold
becomes an underscore, underscores beside a dot go, and a name that does not begin with a letter
begins with one underscore. -/
namespace BeanHarvest.MetricName

def isUpper (c : Char) : Bool := 'A' ≤ c && c ≤ 'Z'

def isLower (c : Char) : Bool := 'a' ≤ c && c ≤ 'z'

def isDigit (c : Char) : Bool := '0' ≤ c && c ≤ '9'

def isLegal (c : Char) : Bool := isLower c || isDigit c || c == '_' || c == '.'

/-- Put an underscore before each capitalised word that follows a character on its line. While
`inWord` holds, small letters still belong to the word found last, and none of them can be the
character before the next word. -/
def breakWords (inWord : Bool) : List Char → List Char
  | c :: u :: l :: after =>
    if inWord && isLower c then c :: breakWords true (u :: l :: after)
    else if c ≠ '\n' && isUpper u && isLower l then c :: '_' :: u :: l :: breakWords true after
    else c :: breakWords false (u :: l :: after)
  | text => text

/-- Put an underscore between a small letter or digit and a capital that follows it. -/
def breakCapitals : List Char → List Char
  | c :: u :: rest =>
    if (isLower c || isDigit c) && isUpper u then c :: '_' :: breakCapitals (u :: rest)
    else c :: breakCapitals (u :: rest)
  | text => text

/-- Put one underscore in place of each run of characters that a name may not hold; `inRun` says
that the last character belonged to such a run. -/
def maskIllegal (inRun : Bool) : List Char → List Char
  | [] => []
  | c :: rest =>
    if isLegal c then c :: maskIllegal false rest
    else if inRun then maskIllegal true rest
    else '_' :: maskIllegal true rest

/-- Whether the next character that is no underscore is a dot. -/
def dotFollows : List Char → Bool
  | [] => false
  | c :: rest => if c = '_' then dotFollows rest else c == '.'

/-- Drop the runs of underscores beside a dot; `afterDot` says that only dropped ones lie between
the last dot and here. -/
def tidyDots (afterDot : Bool) : List Char → List Char
  | [] => []
  | c :: rest =>
    if c = '_' && (afterDot || dotFollows rest) then tidyDots afterDot rest
    else c :: tidyDots (c == '.') rest

/-- Put one underscore in place of everything before the first small letter. -/
def maskLead : List Char → List Char
  | [] => []
  | c :: rest => if isLower c then c :: rest else '_' :: rest.dropWhile (! isLower ·)

def normalForm (name : List Char) : List Char :=
  maskLead (tidyDots false (maskIllegal false (Text.lower (breakCapitals (breakWords false name)))))

def normalize (name : String) : String :=
  String.ofList (normalForm name.toList)

end BeanHarvest.MetricName
