import SourceCheck.Proofs.Json.Numbers
import SourceCheck.Proofs.Json.Strings
import SourceCheck.Proofs.Output.Lines

/-! # Values in JSON

    A value that JSON has a form of its own for (`Plain`) is read back from its text, in
    every layout (`read_write`).  The claim about one text is `ReadsBack`: with fuel for
    its characters the reader gives the value and stops right behind the text.  It goes
    from the parts of a value to the value; the loops over items and members carry it
    along what is still to be read.

    Paths, severities, members of enumerations and dates have no form of their own and are
    written as what stands for them.  The plain form of a value has that in their place, at every
    depth (`writeAt_plainForm`), and a nested value has one that can be read back
    (`Nested.plain`). -/

namespace SourceCheck.Json

open SourceCheck.Number SourceCheck.Text

/-! ## White space -/

/-- White space between the parts of a JSON text. -/
def isGapChar (c : Char) : Bool := c == ' ' || c == '\n' || c == '\r' || c == '\t'

/-- A run of white space. -/
def IsGap (s : List Char) : Prop := ∀ c ∈ s, isGapChar c = true

theorem skipSpace_gap_append {gap : List Char} (h : IsGap gap) (s : List Char) :
    skipSpace (gap ++ s) = skipSpace s :=
  List.dropWhile_append_of_pos h

theorem skipSpace_cons {c : Char} (h : isGapChar c = false) (s : List Char) :
    skipSpace (c :: s) = c :: s :=
  List.dropWhile_cons_of_neg (by simpa [isGapChar] using h)

theorem skipSpace_gap {gap : List Char} (h : IsGap gap) : skipSpace gap = [] := by
  rw [← List.append_nil gap, skipSpace_gap_append h]
  rfl

theorem isGap_lineBreak (style : Style) (depth : Nat) : IsGap (lineBreak style depth).toList := by
  unfold lineBreak IsGap
  cases style.indent with
  | none => simp
  | some n =>
    intro c hc
    rw [String.toList_ofList, List.mem_cons, List.mem_replicate] at hc
    obtain rfl | ⟨-, rfl⟩ := hc <;> rfl

theorem itemSeparator_eq (style : Style) (depth : Nat) :
    ∃ gap, IsGap gap ∧ (itemSeparator style depth).toList = ',' :: gap := by
  unfold itemSeparator
  cases style.indent with
  | none => exact ⟨[' '], by simp [IsGap, isGapChar], by simp⟩
  | some n => exact ⟨_, isGap_lineBreak style depth, by simp⟩

theorem stops_gap_append {gap s : List Char} (hgap : IsGap gap) (h : Stops s) :
    Stops (gap ++ s) := by
  cases gap with
  | nil => exact h
  | cons c gap =>
    refine stops_cons ?_ _
    have hc := hgap c List.mem_cons_self
    simp only [isGapChar, Bool.or_eq_true, beq_iff_eq] at hc
    obtain ((rfl | rfl) | rfl) | rfl := hc <;> decide

/-! ## Words -/

theorem readWord_null (rest : List Char) : readWord ("null".toList ++ rest) = some (.null, rest) :=
  rfl

theorem readWord_bool (b : Bool) (rest : List Char) :
    readWord ((if b then "true" else "false" : String).toList ++ rest) = some (.bool b, rest) := by
  cases b <;> rfl

theorem isPrefixOf?_cons_cons (c d : Char) (word s : List Char) :
    (d :: word).isPrefixOf? (c :: s) = if d = c then word.isPrefixOf? s else none := by
  change (if (d == c) = true then word.isPrefixOf? s else none) = _
  simp only [beq_iff_eq]

/-- No word opens with a digit. -/
theorem readWord_of_digit (negative : Bool) {c : Char} (hc : isAsciiDigit c = true)
    (rest : List Char) : readWord ((if negative then ['-'] else []) ++ c :: rest) = none := by
  have hletters : ∀ d ∈ ['n', 't', 'f', 'N', 'I', '-'], isAsciiDigit d = false := by
    simp [isAsciiDigit]
  have hne : ∀ d ∈ ['n', 't', 'f', 'N', 'I', '-'], d ≠ c := by
    rintro d hd rfl
    exact Bool.false_ne_true ((hletters d hd).symm.trans hc)
  simp only [List.forall_mem_cons] at hne
  cases negative <;> simp [readWord, words, isPrefixOf?_cons_cons, hne]

/-! ## One value -/

/-- A value that JSON has a form of its own for. -/
inductive Plain : Value → Prop
  | null : Plain .null
  | bool (b : Bool) : Plain (.bool b)
  | int (n : Int) : Plain (.int n)
  /-- It is a number of 53 digits. -/
  | double {x : Double} (hfinite : x.isFinite = true) (hbinary : x.IsBinary64) : Plain (.double x)
  | text (s : String) : Plain (.text s)
  | list {items : List Value} (hitems : ∀ v ∈ items, Plain v) : Plain (.list items)
  /-- No key comes twice. -/
  | map {members : List (String × Value)} (hkeys : (members.map Prod.fst).Nodup)
      (hvalues : ∀ m ∈ members, Plain m.2) : Plain (.map members)

/-- A text is read back as a value: with fuel for its characters, behind white space and
    whatever follows. -/
structure ReadsBack (text : List Char) (v : Value) : Prop where
  /-- It opens with a character of its own. -/
  opens : ∃ c body, text = c :: body ∧ isGapChar c = false ∧ c ≠ ']'
  read : ∀ {fuel : Nat} {s rest : List Char}, text.length ≤ fuel → skipSpace s = text ++ rest →
    Stops rest → readValue fuel s = some (v, rest)

/-- The reader goes by words and numbers where no quote and no bracket opens. -/
theorem readValue_of_scalar {fuel : Nat} {s : List Char} {c : Char} {body : List Char}
    (hs : skipSpace s = c :: body) (hc : c ∉ ['"', '[', '\x7b']) :
    readValue (fuel + 1) s = (readWord (c :: body)).or (readNumber (c :: body)) := by
  simp only [List.mem_cons, List.not_mem_nil, or_false, not_or] at hc
  unfold readValue
  split
  · next h => exact absurd (List.cons.inj (hs.symm.trans h)).1 hc.1
  · next h => exact absurd (List.cons.inj (hs.symm.trans h)).1 hc.2.1
  · next h => exact absurd (List.cons.inj (hs.symm.trans h)).1 hc.2.2
  · rw [hs]
    cases readWord (c :: body) <;> rfl

/-- A text without quotes and brackets is read back if it is a word or a number for the
    reader. -/
theorem ReadsBack.of_scalar {text : List Char} {c : Char} {body : List Char} {v : Value}
    (htext : text = c :: body)
    (hc : c ∉ ['"', '[', '\x7b', ']', ' ', '\n', '\r', '\t'])
    (h : ∀ rest, Stops rest →
      (readWord (text ++ rest)).or (readNumber (text ++ rest)) = some (v, rest)) :
    ReadsBack text v := by
  simp only [List.mem_cons, List.not_mem_nil, or_false, not_or] at hc
  refine ⟨⟨c, body, htext, by simp [isGapChar, hc], hc.2.2.2.1⟩, ?_⟩
  intro fuel s rest hfuel hs hstops
  subst htext
  obtain ⟨fuel, rfl⟩ : ∃ k, fuel = k + 1 := ⟨fuel - 1, by rw [List.length_cons] at hfuel; omega⟩
  rw [readValue_of_scalar hs (by simp [hc])]
  exact h rest hstops

theorem readsBack_null : ReadsBack "null".toList .null := by
  refine ReadsBack.of_scalar (show _ = 'n' :: ['u', 'l', 'l'] from rfl) (by decide) ?_
  intro rest _
  rw [readWord_null, Option.some_or]

theorem readsBack_bool (b : Bool) :
    ReadsBack (if b then "true" else "false" : String).toList (.bool b) := by
  have hread : ∀ rest, (readWord ((if b then "true" else "false" : String).toList ++ rest)).or
      (readNumber ((if b then "true" else "false" : String).toList ++ rest))
        = some (.bool b, rest) := by
    intro rest
    rw [readWord_bool, Option.some_or]
  cases b with
  | false =>
    exact ReadsBack.of_scalar (show _ = 'f' :: ['a', 'l', 's', 'e'] from rfl) (by decide)
      fun rest _ => hread rest
  | true =>
    exact ReadsBack.of_scalar (show _ = 't' :: ['r', 'u', 'e'] from rfl) (by decide)
      fun rest _ => hread rest

/-- A text that opens with a digit, or with a minus and a digit, is read back if it is a number
    for the reader. -/
theorem ReadsBack.of_number (negative : Bool) {c : Char} {body : List Char} {v : Value}
    (hc : isAsciiDigit c = true)
    (h : ∀ rest, Stops rest →
      readNumber ((if negative then ['-'] else []) ++ c :: (body ++ rest)) = some (v, rest)) :
    ReadsBack ((if negative then ['-'] else []) ++ c :: body) v := by
  have hread : ∀ rest, Stops rest →
      (readWord ((if negative then ['-'] else []) ++ c :: body ++ rest)).or
        (readNumber ((if negative then ['-'] else []) ++ c :: body ++ rest)) = some (v, rest) := by
    intro rest hstops
    rw [List.append_assoc, List.cons_append, readWord_of_digit negative hc, Option.none_or,
      h rest hstops]
  cases negative with
  | true => exact ReadsBack.of_scalar rfl (by decide) hread
  | false =>
    refine ReadsBack.of_scalar rfl ?_ hread
    have hother : ∀ d ∈ ['"', '[', '\x7b', ']', ' ', '\n', '\r', '\t'],
        ¬isAsciiDigit d = true := by simp [isAsciiDigit]
    exact fun hmem => hother c hmem hc

theorem toList_intText (n : Int) :
    (intText n).toList = (if n < 0 then ['-'] else []) ++ natDigits n.natAbs := by
  unfold intText natText
  split <;> simp

theorem readsBack_int (n : Int) : ReadsBack (intText n).toList (.int n) := by
  have hvalue : (if decide (n < 0) = true then -(n.natAbs : Int) else n.natAbs) = n := by
    simp only [decide_eq_true_eq]
    split <;> omega
  obtain ⟨c, body, hdigits⟩ := List.exists_cons_of_ne_nil (natDigits_ne_nil n.natAbs)
  have hc : isAsciiDigit c = true :=
    isAsciiDigit_of_mem_natDigits (n := n.natAbs) (hdigits ▸ List.mem_cons_self)
  have hback : ReadsBack ((if decide (n < 0) = true then ['-'] else []) ++ c :: body) (.int n) := by
    refine ReadsBack.of_number _ hc fun rest hstops => ?_
    have hnumber := readNumber_natDigits (decide (n < 0)) n.natAbs hstops
    rwa [hdigits, hvalue] at hnumber
  simp only [decide_eq_true_eq] at hback
  rwa [toList_intText, hdigits]

theorem toList_doubleText_finite (negative : Bool) (m : Nat) (e : Int) :
    (doubleText (.finite negative m e)).toList
      = (if negative then ['-'] else []) ++ magnitudeText m e := by
  cases negative <;> simp [doubleText, Double.text]

/-- **A finite number** is read back from its text. -/
theorem readsBack_double {x : Double} (hfinite : x.isFinite = true) (hbinary : x.IsBinary64) :
    ReadsBack (doubleText x).toList (.double x) := by
  cases x with
  -- a number that is not finite has no text in JSON
  | nan => contradiction
  | infinite negative => contradiction
  | finite negative m e =>
    obtain ⟨d, htext, hvalue⟩ := exists_numeral hbinary
    -- a numeral starts with a digit, and by it the reader tells the value is a number
    obtain ⟨c, body, hopens, hc⟩ : ∃ c body, d.text = c :: body ∧ isAsciiDigit c = true := by
      obtain ⟨c, body, hwhole⟩ := List.exists_cons_of_ne_nil d.whole_ne_nil
      refine ⟨c, _, by rw [Numeral.text, hwhole]; rfl, d.isDigit c ?_⟩
      rw [hwhole]
      exact List.mem_cons_self
    rw [toList_doubleText_finite, ← htext, hopens]
    refine ReadsBack.of_number negative hc fun rest hstops => ?_
    have hnumber := readNumber_numeral negative d hstops
    rwa [hvalue, hopens] at hnumber

theorem readsBack_text (ascii : Bool) (t : String) :
    ReadsBack (stringText ascii t).toList (.text t) := by
  rw [toList_stringText]
  refine ⟨⟨_, _, rfl, by decide, by decide⟩, ?_⟩
  intro fuel s rest hfuel hs hstops
  obtain ⟨fuel, rfl⟩ : ∃ k, fuel = k + 1 := ⟨fuel - 1, by rw [List.length_cons] at hfuel; omega⟩
  rw [List.cons_append, List.append_assoc, List.singleton_append] at hs
  unfold readValue
  rw [hs]
  simp only [readString_stringText, Option.map_some]

/-! ## Items and members -/

/-- The texts behind the first one, with a comma and white space in front of each. -/
def trailing (gap : List Char) (texts : List (List Char)) : List Char :=
  texts.flatMap fun t => ',' :: (gap ++ t)

theorem trailing_nil (gap : List Char) : trailing gap [] = [] := rfl

theorem trailing_cons (gap t : List Char) (texts : List (List Char)) :
    trailing gap (t :: texts) = ',' :: (gap ++ (t ++ trailing gap texts)) := by
  simp [trailing]

section Loops

variable {text : Value → List Char} {gap closing rest : List Char}

theorem stops_closing (hclosing : IsGap closing) {c : Char} (hc : c ∈ [']', '\x7d'])
    (rest : List Char) : Stops (closing ++ c :: rest) := by
  refine stops_gap_append hclosing (stops_cons ?_ rest)
  obtain rfl | rfl : c = ']' ∨ c = '\x7d' := by simpa using hc
  all_goals decide

theorem skipSpace_closing (hclosing : IsGap closing) {c : Char} (hc : c ∈ [']', '\x7d'])
    (rest : List Char) : skipSpace (closing ++ c :: rest) = c :: rest := by
  rw [skipSpace_gap_append hclosing]
  refine skipSpace_cons ?_ rest
  obtain rfl | rfl : c = ']' ∨ c = '\x7d' := by simpa using hc
  all_goals decide

/-- Items up to the closing bracket. -/
theorem readItems_trailing (hgap : IsGap gap) (hclosing : IsGap closing) {v : Value}
    {items : List Value} (h : ∀ w ∈ v :: items, ReadsBack (text w) w) {fuel : Nat}
    {before : List Value} {s : List Char}
    (hfuel : (text v ++ trailing gap (items.map text)).length < fuel)
    (hs : skipSpace s
      = text v ++ (trailing gap (items.map text) ++ (closing ++ ']' :: rest))) :
    readItems fuel before s = some (before.reverse ++ v :: items, rest) := by
  induction items generalizing v fuel before s with
  | nil =>
    obtain ⟨fuel, rfl⟩ : ∃ k, fuel = k + 1 := ⟨fuel - 1, by omega⟩
    rw [List.map_nil, trailing_nil, List.append_nil] at hfuel
    rw [List.map_nil, trailing_nil, List.nil_append] at hs
    have hv := (h v List.mem_cons_self).read (Nat.le_of_lt_succ hfuel) hs
      (stops_closing hclosing List.mem_cons_self rest)
    rw [readItems, hv]
    simp only [skipSpace_closing hclosing List.mem_cons_self rest, List.reverse_cons]
  | cons w items ih =>
    obtain ⟨fuel, rfl⟩ : ∃ k, fuel = k + 1 := ⟨fuel - 1, by omega⟩
    obtain ⟨c, body, htext, hc, -⟩ := (h w (by simp)).opens
    rw [List.map_cons, trailing_cons] at hfuel hs
    simp only [List.length_append, List.length_cons] at hfuel
    have hv := (h v List.mem_cons_self).read (show _ ≤ fuel by omega) hs
      (stops_cons (by decide) _)
    -- behind the comma stands the next item, with the rest of the items
    have hnext : readItems fuel (v :: before) (gap ++ (text w ++ trailing gap (items.map text))
        ++ (closing ++ ']' :: rest)) = some ((v :: before).reverse ++ w :: items, rest) := by
      refine ih (fun u hu => h u (List.mem_cons_of_mem v hu)) ?_ ?_
      · rw [List.length_append]
        omega
      · rw [List.append_assoc, skipSpace_gap_append hgap, List.append_assoc, htext,
          List.cons_append, skipSpace_cons hc]
    rw [readItems, hv]
    simp only [List.cons_append, skipSpace_cons (c := ',') rfl, hnext]
    simp

/-- The text of a member. -/
def memberText (ascii : Bool) (text : Value → List Char) (m : String × Value) : List Char :=
  (stringText ascii m.1).toList ++ ':' :: ' ' :: text m.2

/-- A member with a new key goes to the end. -/
theorem insert_of_nodup {m : String × Value} {before members : List (String × Value)}
    (hkeys : ((before ++ m :: members).map Prod.fst).Nodup) :
    Value.insert m.1 m.2 before = before ++ [m] := by
  induction before with
  | nil => rfl
  | cons n before ih =>
    rw [List.cons_append, List.map_cons, List.nodup_cons] at hkeys
    have hne : n.1 ≠ m.1 := fun heq => hkeys.1 (by rw [heq]; simp)
    rw [Value.insert, if_neg hne, ih hkeys.2, List.cons_append]

/-- One member, and what follows it. -/
theorem readMembers_memberText {ascii : Bool} {m : String × Value} (h : ReadsBack (text m.2) m.2)
    {fuel : Nat} (before : List (String × Value)) {s after : List Char}
    (hfuel : (memberText ascii text m).length ≤ fuel)
    (hs : skipSpace s = memberText ascii text m ++ after) (hafter : Stops after) :
    (∀ rest, skipSpace after = ',' :: rest →
        readMembers (fuel + 1) before s = readMembers fuel (Value.insert m.1 m.2 before) rest)
      ∧ ∀ rest, skipSpace after = '\x7d' :: rest →
        readMembers (fuel + 1) before s = some (Value.insert m.1 m.2 before, rest) := by
  obtain ⟨c, body, htext, hc, -⟩ := h.opens
  have hvalue : skipSpace (' ' :: (text m.2 ++ after)) = text m.2 ++ after := by
    rw [htext, List.cons_append]
    exact skipSpace_cons hc _
  unfold memberText at hs hfuel
  simp only [List.length_append, List.length_cons] at hfuel
  simp only [toList_stringText, List.cons_append, List.append_assoc, List.nil_append] at hs
  have hread := h.read (show _ ≤ fuel by omega) hvalue hafter
  constructor
  all_goals
    intro rest hrest
    rw [readMembers, hs]
    simp only [readString_stringText, skipSpace_cons (c := ':') rfl, hread, hrest]

/-- Members up to the closing brace, if no key comes twice. -/
theorem readMembers_trailing (ascii : Bool) (hgap : IsGap gap) (hclosing : IsGap closing)
    {m : String × Value} {members : List (String × Value)}
    (h : ∀ n ∈ m :: members, ReadsBack (text n.2) n.2) {fuel : Nat}
    {before : List (String × Value)} {s : List Char}
    (hkeys : ((before ++ m :: members).map Prod.fst).Nodup)
    (hfuel : (memberText ascii text m
      ++ trailing gap (members.map (memberText ascii text))).length < fuel)
    (hs : skipSpace s = memberText ascii text m
      ++ (trailing gap (members.map (memberText ascii text)) ++ (closing ++ '\x7d' :: rest))) :
    readMembers fuel before s = some (before ++ m :: members, rest) := by
  induction members generalizing m fuel before s with
  | nil =>
    obtain ⟨fuel, rfl⟩ : ∃ k, fuel = k + 1 := ⟨fuel - 1, by omega⟩
    rw [List.map_nil, trailing_nil, List.append_nil] at hfuel
    rw [List.map_nil, trailing_nil, List.nil_append] at hs
    have hbrace : '\x7d' ∈ [']', '\x7d'] := by decide
    have hm := readMembers_memberText (h m List.mem_cons_self) before (Nat.le_of_lt_succ hfuel) hs
      (stops_closing hclosing hbrace rest)
    rw [hm.2 rest (skipSpace_closing hclosing hbrace rest), insert_of_nodup hkeys]
  | cons n members ih =>
    obtain ⟨fuel, rfl⟩ : ∃ k, fuel = k + 1 := ⟨fuel - 1, by omega⟩
    rw [List.map_cons, trailing_cons] at hfuel hs
    simp only [List.length_append, List.length_cons] at hfuel
    have hm := readMembers_memberText (h m List.mem_cons_self) before (show _ ≤ fuel by omega) hs
      (stops_cons (by decide) _)
    -- behind the comma stands the next member, which opens with a quote
    have hnext : readMembers fuel (before ++ [m]) (gap ++ (memberText ascii text n
        ++ trailing gap (members.map (memberText ascii text))) ++ (closing ++ '\x7d' :: rest))
          = some (before ++ [m] ++ n :: members, rest) := by
      refine ih (fun u hu => h u (List.mem_cons_of_mem m hu)) (by simpa using hkeys) ?_ ?_
      · rw [List.length_append]
        omega
      · rw [List.append_assoc, skipSpace_gap_append hgap, List.append_assoc, memberText,
          toList_stringText]
        exact skipSpace_cons rfl _
    rw [hm.1 _ (skipSpace_cons rfl _), insert_of_nodup hkeys]
    simpa using hnext

/-- Brackets with nothing between them are an empty sequence, others hold items. -/
theorem readValue_bracket {fuel : Nat} {s after : List Char} (hs : skipSpace s = '[' :: after) :
    (∀ rest, skipSpace after = ']' :: rest → readValue (fuel + 1) s = some (.list [], rest))
      ∧ ∀ body, skipSpace after = body → body.head? ≠ some ']' → readValue (fuel + 1) s
        = (readItems fuel [] body).map fun (vs, rest) => (.list vs, rest) := by
  constructor
  · intro rest hrest
    rw [readValue, hs]
    simp only [hrest]
  · intro body hbody hhead
    rw [readValue, hs]
    simp only [hbody]
    split
    · exact absurd rfl hhead
    · rfl

/-- Braces with nothing between them are an empty mapping, others hold members. -/
theorem readValue_brace {fuel : Nat} {s after : List Char} (hs : skipSpace s = '\x7b' :: after) :
    (∀ rest, skipSpace after = '\x7d' :: rest → readValue (fuel + 1) s = some (.map [], rest))
      ∧ ∀ body, skipSpace after = body → body.head? ≠ some '\x7d' → readValue (fuel + 1) s
        = (readMembers fuel [] body).map fun (ms, rest) => (.map ms, rest) := by
  constructor
  · intro rest hrest
    rw [readValue, hs]
    simp only [hrest]
  · intro body hbody hhead
    rw [readValue, hs]
    simp only [hbody]
    split
    · exact absurd rfl hhead
    · rfl

theorem ReadsBack.brackets {opening : List Char} (hopening : IsGap opening) (hgap : IsGap gap)
    (hclosing : IsGap closing) {v : Value} {items : List Value}
    (h : ∀ w ∈ v :: items, ReadsBack (text w) w) :
    ReadsBack
      ('[' :: (opening ++ (text v ++ (trailing gap (items.map text) ++ (closing ++ [']'])))))
      (.list (v :: items)) := by
  refine ⟨⟨_, _, rfl, by decide, by decide⟩, ?_⟩
  intro fuel s rest hfuel hs _
  simp only [List.length_cons, List.length_append] at hfuel
  obtain ⟨fuel, rfl⟩ : ∃ k, fuel = k + 1 := ⟨fuel - 1, by omega⟩
  simp only [List.cons_append, List.append_assoc, List.nil_append] at hs
  -- the first item opens with a character of its own, so the brackets are not empty
  obtain ⟨c, body, htext, hc, hne⟩ := (h v List.mem_cons_self).opens
  have hfirst : skipSpace (text v ++ (trailing gap (items.map text) ++ (closing ++ ']' :: rest)))
      = text v ++ (trailing gap (items.map text) ++ (closing ++ ']' :: rest)) := by
    rw [htext, List.cons_append]
    exact skipSpace_cons hc _
  have hitems : readItems fuel [] (text v ++ (trailing gap (items.map text)
      ++ (closing ++ ']' :: rest))) = some (v :: items, rest) :=
    readItems_trailing hgap hclosing h (by rw [List.length_append]; omega) hfirst
  rw [(readValue_bracket hs).2 _ ((skipSpace_gap_append hopening _).trans hfirst)
    (by simpa [htext] using hne), hitems]
  rfl

theorem ReadsBack.braces (ascii : Bool) {opening : List Char} (hopening : IsGap opening)
    (hgap : IsGap gap) (hclosing : IsGap closing) {m : String × Value}
    {members : List (String × Value)} (hkeys : ((m :: members).map Prod.fst).Nodup)
    (h : ∀ n ∈ m :: members, ReadsBack (text n.2) n.2) :
    ReadsBack ('\x7b' :: (opening ++ (memberText ascii text m
      ++ (trailing gap (members.map (memberText ascii text)) ++ (closing ++ ['\x7d'])))))
      (.map (m :: members)) := by
  refine ⟨⟨_, _, rfl, by decide, by decide⟩, ?_⟩
  intro fuel s rest hfuel hs _
  simp only [List.length_cons, List.length_append] at hfuel
  -- one unit of fuel is spent on the brace itself
  obtain ⟨fuel, rfl⟩ : ∃ k, fuel = k + 1 := ⟨fuel - 1, by omega⟩
  simp only [List.cons_append, List.append_assoc, List.nil_append] at hs
  have hopen : ∃ body, memberText ascii text m = '"' :: body :=
    ⟨_, by rw [memberText, toList_stringText, List.cons_append]⟩
  obtain ⟨body, htext⟩ := hopen
  -- the gap in front of the first member is skipped, and a member starts with a quotation mark
  have hfirst : skipSpace (memberText ascii text m
      ++ (trailing gap (members.map (memberText ascii text)) ++ (closing ++ '\x7d' :: rest)))
        = memberText ascii text m
          ++ (trailing gap (members.map (memberText ascii text))
            ++ (closing ++ '\x7d' :: rest)) := by
    rw [htext, List.cons_append]
    exact skipSpace_cons rfl _
  have hmembers : readMembers fuel [] (memberText ascii text m
      ++ (trailing gap (members.map (memberText ascii text)) ++ (closing ++ '\x7d' :: rest)))
        = some (m :: members, rest) :=
    readMembers_trailing ascii hgap hclosing h hkeys (by rw [List.length_append]; omega) hfirst
  rw [(readValue_brace hs).2 _ ((skipSpace_gap_append hopening _).trans hfirst)
    (by simp [htext]), hmembers]
  rfl

end Loops

/-! ## Written values -/

theorem writeItems_eq_map (style : Style) (depth : Nat) (items : List Value) :
    writeItems style depth items = items.map (writeAt style depth) := by
  induction items with
  | nil => rfl
  | cons v items ih => rw [writeItems, ih, List.map_cons]

theorem writeMembers_eq_map (style : Style) (depth : Nat) (members : List (String × Value)) :
    writeMembers style depth members
      = members.map fun m => stringText style.ascii m.1 ++ ": " ++ writeAt style depth m.2 := by
  induction members with
  | nil => rfl
  | cons m members ih => rw [writeMembers, ih, List.map_cons]

/-- What stands between brackets, from the first text on. -/
theorem toList_bracketed (style : Style) (depth : Nat) :
    ∃ gap, IsGap gap ∧ ∀ (opening closing first : String) (texts : List String),
      (bracketed style depth opening closing (first :: texts)).toList
        = opening.toList ++ ((lineBreak style (depth + 1)).toList ++ (first.toList
          ++ (trailing gap (texts.map String.toList)
            ++ ((lineBreak style depth).toList ++ closing.toList)))) := by
  obtain ⟨gap, hgap, hseparator⟩ := itemSeparator_eq style (depth + 1)
  refine ⟨gap, hgap, fun opening closing first texts => ?_⟩
  have hjoined := toList_joinWith_cons (itemSeparator style (depth + 1)) first texts
  rw [hseparator] at hjoined
  simp [bracketed, hjoined, trailing, List.flatMap_map]

theorem readsBack_list {style : Style} {depth : Nat} {items : List Value}
    (h : ∀ v ∈ items, ReadsBack (writeAt style (depth + 1) v).toList v) :
    ReadsBack (writeAt style depth (.list items)).toList (.list items) := by
  obtain ⟨gap, hgap, hbracketed⟩ := toList_bracketed style depth
  rw [writeAt, writeItems_eq_map]
  cases items with
  -- the empty list is written without a line break, so it is read apart
  | nil =>
    have htext : (bracketed style depth "[" "]" []).toList = ['[', ']'] := by simp [bracketed]
    rw [List.map_nil, htext]
    refine ⟨⟨_, _, rfl, by decide, by decide⟩, ?_⟩
    intro fuel s rest hfuel hs _
    obtain ⟨fuel, rfl⟩ : ∃ k, fuel = k + 1 := ⟨fuel - 1, by simp at hfuel; omega⟩
    exact (readValue_bracket hs).1 rest (skipSpace_cons rfl rest)
  | cons v items =>
    rw [List.map_cons, hbracketed, List.map_map]
    exact ReadsBack.brackets (isGap_lineBreak style (depth + 1)) hgap
      (isGap_lineBreak style depth) h

theorem readsBack_map {style : Style} {depth : Nat} {members : List (String × Value)}
    (hkeys : (members.map Prod.fst).Nodup)
    (h : ∀ m ∈ members, ReadsBack (writeAt style (depth + 1) m.2).toList m.2) :
    ReadsBack (writeAt style depth (.map members)).toList (.map members) := by
  obtain ⟨gap, hgap, hbracketed⟩ := toList_bracketed style depth
  rw [writeAt, writeMembers_eq_map]
  cases members with
  | nil =>
    have htext : (bracketed style depth "\x7b" "\x7d" []).toList = ['\x7b', '\x7d'] := by
      simp [bracketed]
    rw [List.map_nil, htext]
    refine ⟨⟨_, _, rfl, by decide, by decide⟩, ?_⟩
    intro fuel s rest hfuel hs _
    obtain ⟨fuel, rfl⟩ : ∃ k, fuel = k + 1 := ⟨fuel - 1, by simp at hfuel; omega⟩
    exact (readValue_brace hs).1 rest (skipSpace_cons rfl rest)
  | cons m members =>
    -- what the writer makes of a member is the text that the reader's lemma is about
    have htext : ∀ n : String × Value,
        (stringText style.ascii n.1 ++ ": " ++ writeAt style (depth + 1) n.2).toList
          = memberText style.ascii (fun w => (writeAt style (depth + 1) w).toList) n := by
      intro n
      simp [memberText]
    have htexts : members.map (String.toList ∘ fun n =>
        stringText style.ascii n.1 ++ ": " ++ writeAt style (depth + 1) n.2)
          = members.map (memberText style.ascii fun w => (writeAt style (depth + 1) w).toList) :=
      List.map_congr_left fun n _ => htext n
    rw [List.map_cons, hbracketed, List.map_map, htext, htexts]
    exact ReadsBack.braces style.ascii (isGap_lineBreak style (depth + 1)) hgap
      (isGap_lineBreak style depth) hkeys h

/-- **A value is read back from its text**, in every layout and at every depth. -/
theorem readsBack_writeAt {v : Value} (h : Plain v) (style : Style) (depth : Nat) :
    ReadsBack (writeAt style depth v).toList v := by
  induction h generalizing depth with
  | null => exact readsBack_null
  | bool b => exact readsBack_bool b
  | int n => exact readsBack_int n
  | double hfinite hbinary => exact readsBack_double hfinite hbinary
  | text s => exact readsBack_text style.ascii s
  | list _ ih => exact readsBack_list fun v hv => ih v hv (depth + 1)
  | map hkeys _ ih => exact readsBack_map hkeys fun m hm => ih m hm (depth + 1)

/-- **The text of a value, with or without white space behind it, reads as that value.** -/
theorem read_write {v : Value} (h : Plain v) (style : Style) {gap : String}
    (hgap : IsGap gap.toList) : read (write style v ++ gap) = some v := by
  have hback := readsBack_writeAt h style 0
  obtain ⟨c, body, htext, hc, -⟩ := hback.opens
  have hskip : skipSpace ((writeAt style 0 v).toList ++ gap.toList)
      = (writeAt style 0 v).toList ++ gap.toList := by
    rw [htext, List.cons_append]
    exact skipSpace_cons hc _
  have hstops : Stops gap.toList := List.append_nil gap.toList ▸ stops_gap_append hgap stops_nil
  have hvalue : readValue (2 * ((writeAt style 0 v).toList ++ gap.toList).length + 2)
      ((writeAt style 0 v).toList ++ gap.toList) = some (v, gap.toList) :=
    hback.read (by rw [List.length_append]; omega) hskip hstops
  unfold read write
  rw [String.toList_append]
  simp only [hvalue, skipSpace_gap hgap, List.isEmpty_nil, if_true]

/-! ## The characters of a value -/

/-- What a layout allows: no control characters on one line, and ASCII where it asks for it. -/
def Style.Allows (style : Style) (c : Char) : Prop :=
  (style.indent = none → 0x20 ≤ c.toNat) ∧ (style.ascii = true → c.toNat < 0x80)

section Characters

variable {style : Style}

theorem Style.allows_of_isShown {c : Char} (h : IsShown style.ascii c) : style.Allows c :=
  ⟨fun _ => h.1, h.2⟩

theorem Style.allows_of_isShown_true {c : Char} (h : IsShown true c) : style.Allows c :=
  ⟨fun _ => h.1, fun _ => h.2 rfl⟩

/-- A text that is known consists of printable characters. -/
theorem allows_of_mem_fixed {s : String} (h : s.toList.all (IsShown true ·) = true) {c : Char}
    (hc : c ∈ s.toList) : style.Allows c :=
  Style.allows_of_isShown_true (of_decide_eq_true (List.all_eq_true.mp h c hc))

theorem allows_of_mem_lineBreak {depth : Nat} {c : Char}
    (hc : c ∈ (lineBreak style depth).toList) : style.Allows c := by
  unfold lineBreak at hc
  split at hc
  · simp at hc
  · next hindent =>
    refine ⟨fun hnone => by rw [hnone] at hindent; contradiction, fun _ => ?_⟩
    rw [String.toList_ofList, List.mem_cons, List.mem_replicate] at hc
    obtain rfl | ⟨-, rfl⟩ := hc <;> decide

theorem allows_of_mem_itemSeparator {depth : Nat} {c : Char}
    (hc : c ∈ (itemSeparator style depth).toList) : style.Allows c := by
  unfold itemSeparator at hc
  split at hc
  · exact allows_of_mem_fixed (by decide) hc
  · rw [String.toList_append, List.mem_append] at hc
    obtain hc | hc := hc
    · exact allows_of_mem_fixed (by decide) hc
    · exact allows_of_mem_lineBreak hc

theorem allows_of_mem_joinWith {depth : Nat} {texts : List String}
    (h : ∀ t ∈ texts, ∀ c ∈ t.toList, style.Allows c) :
    ∀ c ∈ (joinWith (itemSeparator style depth) texts).toList, style.Allows c := by
  cases texts with
  | nil => simp [joinWith]
  | cons t texts =>
    rw [toList_joinWith_cons, List.forall_mem_append]
    refine ⟨h t List.mem_cons_self, fun c hc => ?_⟩
    obtain ⟨u, hu, hc⟩ := List.mem_flatMap.mp hc
    obtain hc | hc := List.mem_append.mp hc
    · exact allows_of_mem_itemSeparator hc
    · exact h u (List.mem_cons_of_mem t hu) c hc

theorem allows_of_mem_bracketed {depth : Nat} {opening closing : String} {texts : List String}
    (hopening : opening.toList.all (IsShown true ·) = true)
    (hclosing : closing.toList.all (IsShown true ·) = true)
    (h : ∀ t ∈ texts, ∀ c ∈ t.toList, style.Allows c) :
    ∀ c ∈ (bracketed style depth opening closing texts).toList, style.Allows c := by
  unfold bracketed
  split
  · rw [String.toList_append, List.forall_mem_append]
    exact ⟨fun c => allows_of_mem_fixed hopening, fun c => allows_of_mem_fixed hclosing⟩
  · simp only [String.toList_append, List.forall_mem_append]
    exact ⟨⟨⟨⟨fun c => allows_of_mem_fixed hopening, fun c => allows_of_mem_lineBreak⟩,
      allows_of_mem_joinWith h⟩, fun c => allows_of_mem_lineBreak⟩,
      fun c => allows_of_mem_fixed hclosing⟩

theorem isShown_of_isAsciiDigit {c : Char} (h : isAsciiDigit c = true) : IsShown true c := by
  have hbounds := bounds_of_isAsciiDigit h
  exact ⟨by omega, fun _ => by omega⟩

theorem isShown_of_mem_sign {negative : Prop} [Decidable negative] {c : Char}
    (hc : c ∈ if negative then ['-'] else []) : IsShown true c := by
  split at hc
  · obtain rfl := List.mem_singleton.mp hc
    decide
  · simp at hc

theorem isShown_of_mem_intText {n : Int} {c : Char} (hc : c ∈ (intText n).toList) :
    IsShown true c := by
  rw [toList_intText, List.mem_append] at hc
  obtain hc | hc := hc
  · exact isShown_of_mem_sign hc
  · exact isShown_of_isAsciiDigit (isAsciiDigit_of_mem_natDigits hc)

theorem isShown_of_mem_exponentText {e : Int} {c : Char} (hc : c ∈ exponentText e) :
    IsShown true c := by
  obtain ⟨ds, -, hds, -, htext⟩ := exponentText_eq e
  rw [htext, List.mem_cons] at hc
  obtain rfl | hc := hc
  · split <;> decide
  · exact isShown_of_isAsciiDigit (hds c hc)

theorem isShown_of_mem_numeral {d : Numeral} {c : Char} (hc : c ∈ d.text) : IsShown true c := by
  have hdigit : ∀ c ∈ d.whole ++ d.fraction, IsShown true c :=
    fun c hc => isShown_of_isAsciiDigit (d.isDigit c hc)
  rw [List.forall_mem_append] at hdigit
  unfold Numeral.text at hc
  -- the whole part, the point with the fraction, and the exponent
  obtain hc | hc := List.mem_append.mp hc
  · exact hdigit.1 c hc
  obtain hc | hc := List.mem_append.mp hc
  · split at hc
    · simp at hc
    · obtain rfl | hc := List.mem_cons.mp hc
      · decide
      · exact hdigit.2 c hc
  · cases hexponent : d.exponent with
    | none => simp [hexponent] at hc
    | some e =>
      rw [hexponent] at hc
      obtain rfl | hc := List.mem_cons.mp hc
      · decide
      · exact isShown_of_mem_exponentText hc

theorem isShown_of_mem_doubleText {x : Double} (hfinite : x.isFinite = true)
    (hbinary : x.IsBinary64) {c : Char} (hc : c ∈ (doubleText x).toList) : IsShown true c := by
  cases x with
  | nan => contradiction
  | infinite negative => contradiction
  | finite negative m e =>
    obtain ⟨d, htext, -⟩ := exists_numeral hbinary
    rw [toList_doubleText_finite, ← htext, List.mem_append] at hc
    obtain hc | hc := hc
    · exact isShown_of_mem_sign hc
    · exact isShown_of_mem_numeral hc

/-- **A value is written in the characters that its layout allows.** -/
theorem allows_of_mem_writeAt {v : Value} (h : Plain v) (depth : Nat) :
    ∀ c ∈ (writeAt style depth v).toList, style.Allows c := by
  -- containers add brackets, commas and line breaks to what is allowed of their items
  induction h generalizing depth with
  | null => exact fun c => allows_of_mem_fixed (s := "null") (by decide)
  | bool b =>
    cases b with
    | false => exact fun c => allows_of_mem_fixed (s := "false") (by decide)
    | true => exact fun c => allows_of_mem_fixed (s := "true") (by decide)
  | int n => exact fun c hc => Style.allows_of_isShown_true (isShown_of_mem_intText hc)
  | double hfinite hbinary =>
    exact fun c hc =>
      Style.allows_of_isShown_true (isShown_of_mem_doubleText hfinite hbinary hc)
  | text t => exact fun c hc => Style.allows_of_isShown (isShown_of_mem_stringText hc)
  | list _ ih =>
    rw [writeAt, writeItems_eq_map]
    refine allows_of_mem_bracketed (by decide) (by decide) ?_
    intro t ht
    obtain ⟨v, hv, rfl⟩ := List.mem_map.mp ht
    exact ih v hv (depth + 1)
  | map _ _ ih =>
    rw [writeAt, writeMembers_eq_map]
    refine allows_of_mem_bracketed (by decide) (by decide) ?_
    intro t ht
    obtain ⟨m, hm, rfl⟩ := List.mem_map.mp ht
    simp only [String.toList_append, List.forall_mem_append]
    exact ⟨⟨fun c hc => Style.allows_of_isShown (isShown_of_mem_stringText hc),
      fun c => allows_of_mem_fixed (by decide)⟩, ih m hm (depth + 1)⟩

/-- **A value is written in ASCII alone**, where the style asks for it. -/
theorem isAscii_writeAt {v : Value} (h : Plain v) (hstyle : style.ascii = true) (depth : Nat) :
    IsAscii (writeAt style depth v).toList :=
  fun c hc => (allows_of_mem_writeAt h depth c hc).2 hstyle

end Characters

/-! ## Plain forms -/

mutual

/-- A value with a text or a plain value in place of what JSON has no form for. -/
def plainForm : Value → Value
  | .null => .null
  | .bool b => .bool b
  | .int n => .int n
  | .double x => .double x
  | .text s => .text s
  | .list items => .list (plainItems items)
  | .map members => .map (plainMembers members)
  | .path p => .text p
  | .severity s => .text s.name
  | .member v => plainForm v
  | .moment m => .text (m.textWith " ")

/-- The plain forms of the items of a sequence. -/
def plainItems : List Value → List Value
  | [] => []
  | v :: rest => plainForm v :: plainItems rest

/-- The members of a mapping with the plain forms of their values. -/
def plainMembers : List (String × Value) → List (String × Value)
  | [] => []
  | (k, v) :: rest => (k, plainForm v) :: plainMembers rest

end

theorem plainItems_eq_map (items : List Value) : plainItems items = items.map plainForm := by
  induction items with
  | nil => rfl
  | cons v items ih => rw [plainItems, ih, List.map_cons]

theorem plainMembers_eq_map (members : List (String × Value)) :
    plainMembers members = members.map fun m => (m.1, plainForm m.2) := by
  induction members with
  | nil => rfl
  | cons m members ih => rw [plainMembers, ih, List.map_cons]

theorem map_fst_plainMembers (members : List (String × Value)) :
    (plainMembers members).map Prod.fst = members.map Prod.fst := by
  rw [plainMembers_eq_map, List.map_map]
  rfl

mutual

/-- **A value is written as its plain form.** -/
theorem writeAt_plainForm (style : Style) :
    ∀ (depth : Nat) (v : Value), writeAt style depth (plainForm v) = writeAt style depth v
  | _, .null | _, .bool _ | _, .int _ | _, .double _ | _, .text _ => rfl
  | _, .path _ | _, .severity _ | _, .moment _ => rfl
  | depth, .member v => by
    rw [plainForm, writeAt_plainForm style depth v]
    rfl
  | depth, .list items => by
    rw [plainForm, writeAt, writeAt, writeItems_plainItems style (depth + 1) items]
  | depth, .map members => by
    rw [plainForm, writeAt, writeAt, writeMembers_plainMembers style (depth + 1) members]

theorem writeItems_plainItems (style : Style) :
    ∀ (depth : Nat) (items : List Value),
      writeItems style depth (plainItems items) = writeItems style depth items
  | _, [] => rfl
  | depth, v :: rest => by
    rw [plainItems, writeItems, writeItems, writeAt_plainForm style depth v,
      writeItems_plainItems style depth rest]

theorem writeMembers_plainMembers (style : Style) :
    ∀ (depth : Nat) (members : List (String × Value)),
      writeMembers style depth (plainMembers members) = writeMembers style depth members
  | _, [] => rfl
  | depth, (k, v) :: rest => by
    rw [plainMembers, writeMembers, writeMembers, writeAt_plainForm style depth v,
      writeMembers_plainMembers style depth rest]

end

theorem plain_map {members : List (String × Value)} (hkeys : (members.map Prod.fst).Nodup)
    (hvalues : ∀ m ∈ members, Plain (plainForm m.2)) : Plain (plainForm (.map members)) := by
  rw [plainForm]
  refine .map ((map_fst_plainMembers members).symm ▸ hkeys) fun n hn => ?_
  rw [plainMembers_eq_map] at hn
  obtain ⟨m, hm, rfl⟩ := List.mem_map.mp hn
  exact hvalues m hm

/-! ## Nested values -/

/-- A value made of nothing, truth values, finite numbers, texts, paths and members of
    enumerations, in sequences and mappings of any depth. -/
inductive Nested : Value → Prop
  | null : Nested .null
  | bool (b : Bool) : Nested (.bool b)
  | int (n : Int) : Nested (.int n)
  /-- It is a number of 53 digits. -/
  | double {x : Double} (hfinite : x.isFinite = true) (hbinary : x.IsBinary64) :
    Nested (.double x)
  | text (s : String) : Nested (.text s)
  | list {items : List Value} (hitems : ∀ v ∈ items, Nested v) : Nested (.list items)
  /-- No key comes twice. -/
  | map {members : List (String × Value)} (hkeys : (members.map Prod.fst).Nodup)
      (hvalues : ∀ m ∈ members, Nested m.2) : Nested (.map members)
  | path (p : String) : Nested (.path p)
  | severity (s : Severity) : Nested (.severity s)
  | member {v : Value} (hvalue : Nested v) : Nested (.member v)

theorem Nested.plain {v : Value} (h : Nested v) : Plain (plainForm v) := by
  induction h with
  | null => exact .null
  | bool b => exact .bool b
  | int n => exact .int n
  | double hfinite hbinary => exact .double hfinite hbinary
  | text s => exact .text s
  | list _ ih =>
    rw [plainForm, plainItems_eq_map]
    refine .list fun w hw => ?_
    obtain ⟨v, hv, rfl⟩ := List.mem_map.mp hw
    exact ih v hv
  | map hkeys _ ih => exact plain_map hkeys ih
  | path p => exact .text p
  | severity s => exact .text s.name
  | member _ ih => exact ih

/-- **A value whose plain form can be read back** is read back as that. -/
theorem read_write_plainForm {v : Value} (h : Plain (plainForm v)) (style : Style) :
    read (write style v) = some (plainForm v) := by
  have hnothing : IsGap "".toList := by simp [IsGap]
  have hread := read_write h style hnothing
  rwa [String.append_empty, write, writeAt_plainForm] at hread

end SourceCheck.Json
