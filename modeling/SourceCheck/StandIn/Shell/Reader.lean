import SourceCheck.StandIn.Shell.Token

/-! # Reading scripts

    Commands are separated by line feeds, semicolons and ampersands; certain words
    at the start of a command open and close the commands that are built from
    others.  A script is read line by line, so that a line that breaks the rules
    does not touch those before it, and what a line defines holds for the next one.
-/

namespace SourceCheck.Shell

/-- What a token may be read as. -/
structure Admits where
  /-- Line feeds before it are left out. -/
  newlines : Bool
  keywords : Bool
  /-- A word that stands for another text. -/
  aliases : Bool
  isMark : Bool

namespace Admits

def plain : Admits := ⟨false, false, false, false⟩

/-- The start of a command, perhaps on a later line. -/
def command : Admits := ⟨true, true, true, false⟩

def commandHere : Admits := ⟨false, true, true, false⟩

end Admits

/-- Which commands make a row. -/
inductive RowKind where
  /-- Those up to a word or mark that ends the row, at least one. -/
  | inner
  /-- The same, perhaps none. -/
  | anyInner
  | line
  deriving DecidableEq

def keyword? (word : List Part) : Option String :=
  match word.mapM fun
    | Part.char c false => some c
    | _ => none with
  | some cs => keywords.find? fun k => k.toList == cs
  | none => none

/-- The text that a word stands for, unless it stands in that very text. -/
def Reader.alias? (r : Reader) : Option (String × String) :=
  match r.word.mapM fun
    | Part.char c false => some c
    | _ => none with
  | some cs =>
    let name := String.ofList cs
    match r.aliases.lookup name with
    | some text =>
      if r.standing.any fun s => s.name == name && s.after ≤ r.left then none
      else some (name, text)
    | none => none
  | none => none

def Reader.stand (r : Reader) (name text : String) : Reader :=
  if text.isEmpty then r
  else
    let cs := text.toList
    let endsBlank := cs.getLast?.any fun c => c == ' ' || c == '\t'
    { r with
      rest := cs ++ r.rest
      left := cs.length + r.left
      standing := ⟨name, r.left, endsBlank⟩ :: r.standing.filter (·.after ≤ r.left) }

def bareText (word : List Part) : List Char :=
  word.filterMap fun
    | Part.char c _ => some c
    | _ => none

/-- An assignment: the name, and the parts after the equals sign. -/
def assignmentOf (word : List Part) : Option (String × List Part) :=
  let name := word.takeWhile fun
    | Part.char c false => isNameChar c
    | _ => false
  let cs := bareText name
  match word.drop name.length with
  | Part.char '=' false :: rest => if isName cs then some (String.ofList cs, rest) else none
  | _ => none

def plainName? (word : List Part) : Option String :=
  (word.mapM fun
    | Part.char c false => if isNameChar c then some c else none
    | _ => none).bind fun cs => if isName cs then some (String.ofList cs) else none

def rowOf : List Command → Command
  | [c] => c
  | cs => .row cs

def withRedirects (line : Nat) (body : Command) (rs : List Redirect) : Command :=
  if rs.isEmpty then body
  else match body with
    | .subshell line body _ => .subshell line body rs
    | body => .redirected line body rs

mutual

/-- A word is read up to its end.  `atStart` tells that a line starts here. -/
def readWord : Nat → Bool → WordReading → Reading WordReading
  | 0, _, w => return w
  | fuel + 1, atStart, w => do
    if let some d := w.document then
      if atStart then
        if ← readMark d then return w
    let c ← if w.frame.quoting == .single then do
        pure (← get).rest.head?
      else look
    match c with
    | none =>
      if w.frame.quoting == .arithmetic then refuse "Missing '))'"
      else if w.frame.quoting != .plain && w.document.isNone then
        refuse "Unterminated quoted string"
      else if w.frame.braces != 0 then refuse "Missing '\x7d'"
      else return w
    | some c =>
      if w.frame.quoting == .plain && w.frame.braces == 0 && isMeta c then return w
      advance
      if c = '\n' then
        countLine
        readWord fuel true (w.putChar '\n' w.inQuotes)
      else match w.frame.quoting with
        | .single =>
          readWord fuel false (if c = '\'' then w.closeQuotes c else w.putChar c true)
        | quoting =>
          if c = '\\' then
            let after ← nextRaw
            if after = some '\n' then countLine
            readWord fuel false (w.putEscaped after)
          else if c = '$' then
            if w.isMark then readWord fuel false (w.putChar c false)
            else readWord fuel false (← readDollar fuel w)
          else if c = '\x60' then
            if w.isMark then readWord fuel false { w.putChar c false with isQuoted := true }
            else
              let body ← readBackquotes fuel w.frame.isDouble
              readWord fuel false (w.put (.part (.output body)))
          else if c = '\x7d' then readWord fuel false w.closeBrace
          else if c = '"' && quoting == .double then readWord fuel false (w.closeQuotes c)
          else if c = '"' && quoting == .plain then readWord fuel false (w.openQuotes .double)
          else if c = '\'' && quoting == .plain then readWord fuel false (w.openQuotes .single)
          else if c = '(' && quoting == .arithmetic then
            readWord fuel false
              { w.putChar c false with
                frame := { w.frame with parentheses := w.frame.parentheses + 1 } }
          else if c = ')' && quoting == .arithmetic then
            if 0 < w.frame.parentheses then
              readWord fuel false
                { w.putChar c false with
                  frame := { w.frame with parentheses := w.frame.parentheses - 1 } }
            else if (← look) = some ')' then
              advance
              readWord fuel false (w.put .close).leave
            else readWord fuel false (w.putChar c false)
          else readWord fuel false (w.putChar c w.inQuotes)

def readDollar : Nat → WordReading → Reading WordReading
  | 0, w => return w
  | fuel + 1, w => do
    match ← look with
    | some '(' =>
      advance
      if (← look) = some '(' then
        advance
        return w.openArithmetic
      else
        let body ← readSubstitution fuel
        return w.put (.part (.output body))
    | some '\x7b' =>
      advance
      return w.putVariable (← readBraced)
    | some c =>
      if isNameStart c then
        return w.putVariable ⟨← readLongName c, .value, false, false⟩
      else if isSpecialVariable c then
        advance
        return w.putVariable ⟨String.ofList [c], .value, false, false⟩
      else return w.putChar '$' false
    | none => return w.putChar '$' false

/-- A script in parentheses whose output is put in its place. -/
def readSubstitution : Nat → Reading (List Command)
  | 0 => return []
  | fuel + 1 => do
    let waiting := (← get).waiting
    modify ({ · with waiting := [] })
    let body ← readRow fuel .anyInner
    let t ← nextToken fuel .plain
    if t != .mark ")" then unexpected (some (.mark ")"))
    modify fun r =>
      { r with
        documents := r.waiting.map (fun d => (d.number, [])) ++ r.documents
        waiting := waiting }
    return body

/-- A script in backquotes whose output is put in its place.  It is read as a text
    of its own; what follows its last command is left out. -/
def readBackquotes : Nat → Bool → Reading (List Command)
  | 0, _ => return []
  | fuel + 1, inQuotes => do
    let script ← readBackquoted inQuotes ((← get).left + 1) []
    let r ← get
    set { Reader.ofText script 1 with
      aliases := r.aliases
      documents := r.documents
      nextDocument := r.nextDocument }
    let body ← readRow fuel .anyInner
    let inner ← get
    set { r with documents := inner.documents, nextDocument := inner.nextDocument }
    return body

def readToken : Nat → Bool → Reading Token
  | 0, _ => return .ending
  | fuel + 1, isMark => do
    let r ← get
    if r.isHeld then
      set { r with isHeld := false }
      return r.token
    set r.skipBlanks
    let put := fun (t : Token) => do
      modify ({ · with token := t })
      return t
    let pair := fun (c : Char) => do
      advance
      if (← look) = some c then
        advance
        put (.mark (String.ofList [c, c]))
      else put (.mark (String.ofList [c]))
    match ← look with
    | none => put .ending
    | some '\n' =>
      advance
      countLine
      put .newline
    | some c =>
      if c = '&' ∨ c = '|' ∨ c = ';' then pair c
      else if c = '(' ∨ c = ')' then
        advance
        put (.mark (String.ofList [c]))
      else
        let w ← readWord fuel false (.start .plain none isMark)
        let after ← look
        let mark? := if (after == some '<' || after == some '>') && !w.isQuoted then
            match w.plainText? with
            | some [] => some none
            | some [d] => if isDigitChar d then some (some (d.toNat - 0x30)) else none
            | _ => none
          else none
        match mark? with
        | some descriptor =>
          readRedirectMark descriptor
          return .redirect
        | none =>
          modify ({ · with word := partsOf w.atoms.reverse, isQuoted := w.isQuoted })
          put .word

def nextToken : Nat → Admits → Reading Token
  | 0, _ => return .ending
  | fuel + 1, admits => do
    let before := (← get).left
    let t ← readToken fuel admits.isMark
    if t = .newline && admits.newlines then
      readDocuments fuel
      nextToken fuel admits
    else
      let r ← get
      if t != .word || r.isQuoted then return t
      match if admits.keywords then keyword? r.word else none with
      | some k =>
        set { r with token := .keyword k }
        return .keyword k
      | none =>
        let passed := r.standing.any fun s => s.endsBlank && r.left < s.after && s.after ≤ before
        if admits.aliases || passed then
          match r.alias? with
          | some (name, text) =>
            set (r.stand name text)
            nextToken fuel { admits with aliases := true }
          | none => return t
        else return t

/-- The texts that were asked for on the line that ends here are read. -/
def readDocuments : Nat → Reading Unit
  | 0 => return
  | fuel + 1 => do
    match (← get).waiting with
    | [] => return
    | d :: rest =>
      modify ({ · with waiting := rest })
      let quoting := if d.isQuoted then Quoting.single else .double
      let w ← readWord fuel true (.start quoting (some d) false)
      modify fun r => { r with documents := (d.number, partsOf w.atoms.reverse) :: r.documents }
      readDocuments fuel

def readRedirect : Nat → Reading Redirect
  | 0 => unexpected none
  | fuel + 1 => do
    let descriptor := (← get).descriptor
    let mark := (← get).mark
    let isDocument := match mark with
      | .document _ => true
      | _ => false
    let t ← nextToken fuel ⟨false, false, false, isDocument⟩
    if t != .word then unexpected none
    let r ← get
    match mark with
    | .file how => return .file descriptor how r.word
    | .copy => return .copy descriptor r.word
    | .document dropsTabs =>
      let d : Waiting := ⟨r.nextDocument, bareText r.word, dropsTabs, r.isQuoted⟩
      set { r with waiting := r.waiting ++ [d], nextDocument := r.nextDocument + 1 }
      return .document descriptor d.number

def readRedirects : Nat → Admits → Reading (List Redirect)
  | 0, _ => return []
  | fuel + 1, admits => do
    let t ← nextToken fuel admits
    if t = .redirect then
      let r ← readRedirect fuel
      return r :: (← readRedirects fuel .plain)
    else
      hold
      return []

/-- Words in a row; the token after them stays the last one. -/
def readWords : Nat → Reading (List (List Part))
  | 0 => return []
  | fuel + 1 => do
    if (← nextToken fuel .plain) = .word then
      let word := (← get).word
      return word :: (← readWords fuel)
    else return []

def readSimple : Nat → Bool → List (String × List Part) → List (List Part) → List Redirect →
    Reading (List (String × List Part) × List (List Part) × List Redirect ⊕ String)
  | 0, _, as, ws, rs => return .inl (as, ws, rs)
  | fuel + 1, isFirst, as, ws, rs => do
    match ← nextToken fuel ⟨false, false, isFirst, false⟩ with
    | .word =>
      let word := (← get).word
      match if isFirst then assignmentOf word else none with
      | some a => readSimple fuel true (as ++ [a]) ws rs
      | none => readSimple fuel false as (ws ++ [word]) rs
    | .redirect =>
      let r ← readRedirect fuel
      readSimple fuel isFirst as ws (rs ++ [r])
    | .mark "(" =>
      match as, ws, rs with
      | [], [name], [] =>
        if (← nextToken fuel .plain) != .mark ")" then unexpected (some (.mark ")"))
        match plainName? name with
        | some name =>
          if specialCommands.contains name then refuse "Bad function name"
          return .inr name
        | none => refuse "Bad function name"
      | _, _, _ =>
        hold
        return .inl (as, ws, rs)
    | _ =>
      hold
      return .inl (as, ws, rs)

def readBranch : Nat → Reading Command
  | 0 => unexpected none
  | fuel + 1 => do
    let condition ← readRow fuel .inner
    if (← nextToken fuel .plain) != .keyword "then" then unexpected (some (.keyword "then"))
    let body ← readRow fuel .inner
    match ← nextToken fuel .plain with
    | .keyword "elif" => return .branch condition body [← readBranch fuel]
    | .keyword "else" => return .branch condition body (← readRow fuel .inner)
    | _ =>
      hold
      return .branch condition body []

/-- The body of a loop, up to its last word. -/
def readBody : Nat → Admits → Reading (List Command)
  | 0, _ => unexpected none
  | fuel + 1, admits => do
    if (← nextToken fuel admits) != .keyword "do" then unexpected (some (.keyword "do"))
    let body ← readRow fuel .inner
    if (← nextToken fuel .plain) != .keyword "done" then unexpected (some (.keyword "done"))
    return body

/-- A loop over words, after its first word. -/
def readEach : Nat → Nat → Reading Command
  | 0, _ => unexpected none
  | fuel + 1, line => do
    let t ← nextToken fuel .plain
    let word := (← get).word
    match if t = .word then plainName? word else none with
    | none => refuse "Bad for loop variable"
    | some name =>
      match ← nextToken fuel .command with
      | .keyword "in" =>
        let words ← readWords fuel
        let t := (← get).token
        if t != .newline && t != .mark ";" then unexpected none
        return .each line name words (← readBody fuel .command)
      | t =>
        if t != .mark ";" then hold
        return .each line name [allArguments] (← readBody fuel .command)

def readChoice : Nat → Nat → Reading Command
  | 0, _ => unexpected none
  | fuel + 1, line => do
    if (← nextToken fuel .plain) != .word then unexpected (some .word)
    let word := (← get).word
    if (← nextToken fuel .command) != .keyword "in" then unexpected (some (.keyword "in"))
    return .choose line word (← readArms fuel)

/-- The arms of a choice up to its closing word. -/
def readArms : Nat → Reading (List (List (List Part) × List Command))
  | 0 => unexpected none
  | fuel + 1 => do
    let t ← nextToken fuel ⟨true, true, false, false⟩
    if t = .keyword "esac" then return []
    if t = .mark "(" then
      let _ ← nextToken fuel .plain
    let patterns ← readPatterns fuel
    if (← get).token != .mark ")" then unexpected (some (.mark ")"))
    let body ← readRow fuel .anyInner
    match ← nextToken fuel ⟨true, true, false, false⟩ with
    | .keyword "esac" => return [(patterns, body)]
    | .mark ";;" => return (patterns, body) :: (← readArms fuel)
    | _ => unexpected (some (.mark ";;"))

def readPatterns : Nat → Reading (List (List Part))
  | 0 => return []
  | fuel + 1 => do
    let pattern := (← get).word
    if (← nextToken fuel .plain) = .mark "|" then
      let _ ← nextToken fuel .plain
      return pattern :: (← readPatterns fuel)
    else return [pattern]

def readCommand : Nat → Admits → Reading Command
  | 0, _ => unexpected none
  | fuel + 1, admits => do
    let line := (← get).line
    let t ← nextToken fuel admits
    let finish := fun (body : Command) => do
      return withRedirects line body (← readRedirects fuel .commandHere)
    let close := fun (t : Token) => do
      if (← nextToken fuel .plain) != t then unexpected (some t)
    match t with
    | .keyword "if" =>
      let body ← readBranch fuel
      close (.keyword "fi")
      finish body
    | .keyword "while" =>
      let condition ← readRow fuel .inner
      finish (.loop false condition (← readBody fuel .plain))
    | .keyword "until" =>
      let condition ← readRow fuel .inner
      finish (.loop true condition (← readBody fuel .plain))
    | .keyword "for" => finish (← readEach fuel line)
    | .keyword "case" => finish (← readChoice fuel line)
    | .mark "(" =>
      let body ← readRow fuel .inner
      close (.mark ")")
      finish (.subshell line body [])
    | .keyword "\x7b" =>
      let body ← readRow fuel .inner
      close (.keyword "\x7d")
      finish (rowOf body)
    | .word | .redirect =>
      hold
      let line := (← get).line
      match ← readSimple fuel true [] [] [] with
      | .inl (as, ws, rs) => return .simple line as ws rs
      | .inr name => return .define name (← readCommand fuel .command)
    | _ => unexpected none

def readPipes : Nat → List Command → Reading (List Command)
  | 0, commands => return commands
  | fuel + 1, commands => do
    if (← nextToken fuel .plain) = .mark "|" then
      let command ← readCommand fuel .command
      readPipes fuel (commands ++ [command])
    else
      hold
      return commands

/-- Commands joined by pipes, perhaps negated. -/
def readPipeline : Nat → Admits → Reading Command
  | 0, _ => unexpected none
  | fuel + 1, admits => do
    let t ← nextToken fuel admits
    let negated := t == .keyword "!"
    if !negated then hold
    let first ← readCommand fuel (if negated then .commandHere else .plain)
    let whole := match ← readPipes fuel [first] with
      | [command] => command
      | commands => .pipeline commands
    return if negated then .negate whole else whole

/-- What follows a command that may be joined with others by success or
    failure. -/
def readJoined : Nat → Command → Reading Command
  | 0, first => return first
  | fuel + 1, first => do
    match ← nextToken fuel .plain with
    | .mark "&&" => readJoined fuel (.both first (← readPipeline fuel .command))
    | .mark "||" => readJoined fuel (.either first (← readPipeline fuel .command))
    | _ =>
      hold
      return first

/-- Commands in a row after some that were read.  `mayEnd` tells that a word or
    mark may end the row here. -/
def readRowFrom : Nat → Bool → Bool → List Command → Reading (List Command)
  | 0, _, _, commands => return commands
  | fuel + 1, isLine, mayEnd, commands => do
    let t ← nextToken fuel (if isLine then .commandHere else .command)
    if t = .newline then
      readDocuments fuel
      return commands
    if t = .ending then
      readDocuments fuel
      modify ({ · with isHeld := true, token := .ending })
      return commands
    hold
    if mayEnd && !isLine && t.endsRow then return commands
    let first ← readPipeline fuel .plain
    let command ← readJoined fuel first
    let t ← nextToken fuel .plain
    let command := if t = .mark "&" then .background command else command
    let commands := commands ++ [command]
    match t with
    | .ending =>
      readDocuments fuel
      modify ({ · with isHeld := true, token := .ending })
      return commands
    | .newline =>
      hold
      readRowFrom fuel isLine true commands
    | .mark "&" => readRowFrom fuel isLine true commands
    | .mark ";" => readRowFrom fuel isLine true commands
    | _ =>
      if isLine then unexpected none
      hold
      return commands

def readRow : Nat → RowKind → Reading (List Command)
  | 0, _ => return []
  | fuel + 1, kind => readRowFrom fuel (kind == .line) (kind == .anyInner) []

end

/-! ## Lines -/

/-- How many steps the reading of a text may take. -/
def Reader.fuel (r : Reader) : Nat :=
  let texts := r.aliases.foldl (fun n a => n + a.2.length + 1) 1
  20 * (r.left + 2) * min texts 50 + 100

/-- The commands of the next line and the reader after it; nothing at the end of
    the text. -/
def Reader.nextLine? (r : Reader) : Except SyntaxFault (Option (List Command) × Reader) :=
  let r := { r with isHeld := false, waiting := [], standing := r.standing.filter (·.after ≤ r.left) }
  match (readRow r.fuel .line).run r with
  | .error e => .error e
  | .ok (commands, after) =>
    if commands.isEmpty && after.token == .ending then .ok (none, after)
    else .ok (some commands, { after with isHeld := false })

/-- The parts of a text as it would stand in double quotes; nothing if it breaks
    the rules. -/
def quotedParts? (text : String) : Option (List Part) :=
  let r := Reader.ofText text.toList 1
  let whole : Waiting := ⟨0, ['\n'], false, false⟩
  match (readWord r.fuel false (.start .double (some whole) false)).run r with
  | .ok (w, _) => some (partsOf w.atoms.reverse)
  | .error _ => none

end SourceCheck.Shell
