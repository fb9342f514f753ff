import SourceCheck.StandIn.Shell.Octets

/-! # Patterns

    A pattern is matched character by character; a star stands for any text, a
    question mark for any character, and brackets for one of several.  Characters
    that stood in quotes have no such meaning.
-/

namespace SourceCheck.Shell

/-- A character of a pattern, and whether it stood in quotes. -/
abbrev Mark := Char × Bool

/-- A backslash outside quotes takes the meaning of the character after it. -/
def unescapeMarks : List Mark → List Mark
  | ('\\', false) :: (c, _) :: rest => (c, true) :: unescapeMarks rest
  | ('\\', false) :: [] => [('\\', true)]
  | m :: rest => m :: unescapeMarks rest
  | [] => []

/-- The pattern that a text outside a script writes; a circumflex negates a bracket, too. -/
def patternOf : List Char → List Mark
  | '\\' :: c :: rest => ('\\', false) :: (c, false) :: patternOf rest
  | '[' :: '^' :: rest => ('[', false) :: ('!', false) :: patternOf rest
  | c :: rest => (c, false) :: patternOf rest
  | [] => []

/-! ## Classes -/

def isLower (c : Char) : Bool := 'a' ≤ c && c ≤ 'z'

def isUpper (c : Char) : Bool := 'A' ≤ c && c ≤ 'Z'

def isDecimal (c : Char) : Bool := '0' ≤ c && c ≤ '9'

def isGraphic (c : Char) : Bool := 0x21 ≤ c.toNat && c.toNat ≤ 0x7E

def characterClasses : List (String × (Char → Bool)) := [
  ("alnum", fun c => isLower c || isUpper c || isDecimal c),
  ("alpha", fun c => isLower c || isUpper c),
  ("blank", fun c => c == ' ' || c == '\t'),
  ("cntrl", fun c => c.toNat < 0x20 || c.toNat == 0x7F),
  ("digit", isDecimal),
  ("graph", isGraphic),
  ("lower", isLower),
  ("print", fun c => isGraphic c || c == ' '),
  ("punct", fun c => isGraphic c && !(isLower c || isUpper c || isDecimal c)),
  ("space", fun c => c == ' ' || (0x09 ≤ c.toNat && c.toNat ≤ 0x0D)),
  ("upper", isUpper),
  ("xdigit", fun c => isDecimal c || ('a' ≤ c && c ≤ 'f') || ('A' ≤ c && c ≤ 'F'))]

/-- The class whose name stands at the start of a pattern, after the bracket that
    opens it, and what follows. -/
def readClass (pattern : List Mark) : Option ((Char → Bool) × List Mark) :=
  characterClasses.findSome? fun (name, holds) =>
    ((':' :: name.toList ++ [':', ']']).map (·, false)).isPrefixOf? pattern |>.map (holds, ·)

/-! ## Brackets -/

/-- A member of a bracket. -/
inductive Member where
  | range (low high : Char)
  | all (holds : Char → Bool)

def Member.holds (c : Char) : Member → Bool
  | .range low high => low ≤ c && c ≤ high
  | .all p => p c

/-- The members of a bracket up to its end, and what follows; the first member may
    be a closing bracket.  `fuel` bounds their number. -/
def bracketWith : Nat → Bool → List Mark → Option (List Member × List Mark)
  | 0, _, _ => none
  | fuel + 1, isFirst, pattern =>
    match pattern with
    | [] => none
    | (c, q) :: rest =>
      let closes := c == ']' && !q && !isFirst
      if closes then some ([], rest)
      else match if c == '[' && !q then readClass rest else none with
        | some (p, rest) => (bracketWith fuel false rest).map fun (ms, after) => (.all p :: ms, after)
        | none =>
          match rest with
          | ('-', false) :: (high, qh) :: more =>
            if high == ']' && !qh then
              (bracketWith fuel false rest).map fun (ms, after) => (.range c c :: ms, after)
            else (bracketWith fuel false more).map fun (ms, after) => (.range c high :: ms, after)
          | _ => (bracketWith fuel false rest).map fun (ms, after) => (.range c c :: ms, after)

/-- A bracket after its opening: whether it is negated, its members, and what
    follows. -/
def readBracket (pattern : List Mark) : Option (Bool × List Member × List Mark) :=
  let (negated, body) := match pattern with
    | ('!', false) :: rest => (true, rest)
    | rest => (false, rest)
  (bracketWith (body.length + 1) true body).map fun (ms, after) => (negated, ms, after)

/-! ## Matching -/

def endsOf : List Char → List (List Char)
  | [] => [[]]
  | c :: rest => (c :: rest) :: endsOf rest

/-- A text matches a pattern; `fuel` bounds the length of the pattern. -/
def matchesWith : Nat → List Mark → List Char → Bool
  | 0, _, _ => false
  | fuel + 1, pattern, s =>
    match pattern with
    | [] => s.isEmpty
    | ('*', false) :: ('*', false) :: rest => matchesWith fuel (('*', false) :: rest) s
    | ('*', false) :: rest => (endsOf s).any (matchesWith fuel rest)
    | ('?', false) :: rest =>
      match s with
      | [] => false
      | _ :: s => matchesWith fuel rest s
    | ('[', false) :: rest =>
      match readBracket rest, s with
      | some (negated, members, after), c :: s =>
        (members.any (·.holds c) != negated) && matchesWith fuel after s
      | some _, [] => false
      | none, c :: s => c == '[' && matchesWith fuel rest s
      | none, [] => false
    | (p, _) :: rest =>
      match s with
      | [] => false
      | c :: s => p == c && matchesWith fuel rest s

def matchesPattern (pattern : List Mark) (s : List Char) : Bool :=
  let pattern := unescapeMarks pattern
  matchesWith (pattern.length + 1) pattern s

/-- A bracket after its opening is closed, with a member in it at least. -/
def closesBracket (pattern : List Mark) : Bool :=
  let body := match pattern with
    | ('!', false) :: rest => rest
    | rest => rest
  (body.drop 1).any fun (c, q) => c == ']' && !q

def isPattern : List Mark → Bool
  | [] => false
  | (c, q) :: rest =>
    (!q && (c == '*' || c == '?' || (c == '[' && closesBracket rest))) || isPattern rest

/-- A text without the part at its start that matches a pattern: the longest one,
    or the shortest. -/
def dropMatch (longest : Bool) (pattern : List Mark) (s : List Char) : List Char :=
  let cuts := List.range (s.length + 1)
  let cuts := if longest then cuts.reverse else cuts
  match cuts.find? fun n => matchesPattern pattern (s.take n) with
  | some n => s.drop n
  | none => s

/-- A text without the part at its end that matches a pattern: the longest one, or
    the shortest. -/
def dropMatchEnd (longest : Bool) (pattern : List Mark) (s : List Char) : List Char :=
  let cuts := List.range (s.length + 1)
  let cuts := if longest then cuts else cuts.reverse
  match cuts.find? fun n => matchesPattern pattern (s.drop n) with
  | some n => s.take n
  | none => s

end SourceCheck.Shell
