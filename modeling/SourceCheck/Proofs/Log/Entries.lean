import SourceCheck.Log.Entry
import SourceCheck.Log.Normalise
import SourceCheck.Proofs.Json.Values
import SourceCheck.Proofs.Log.Instants
import SourceCheck.Proofs.Number.Rounding
import SourceCheck.Proofs.Results

/-! # Entries in JSON

    The attributes of a record are its component, the normalised fields that are given, in the
    order of the normalisers, and details last (`normalise_spec`).  Each is of a kind of its own;
    a duration is a number of 53 digits however it was given (`normalDouble_eq_ok`).

    An entry that carries such attributes is written on one line, and reading that line gives its
    time, its level, its logger, its message and the fields in their order, with nothing changed
    but what JSON has no form for (`read_json`). -/

namespace SourceCheck.Number

/-! ## Numbers that are read -/

theorem isBinary64_namedDouble? {negative : Bool} {word : List Char} {x : Double}
    (h : namedDouble? negative word = some x) : x.IsBinary64 := by
  unfold namedDouble? at h
  dsimp only at h
  split at h
  · obtain rfl := Option.some.inj h
    trivial
  split at h
  · obtain rfl := Option.some.inj h
    trivial
  · contradiction

theorem isBinary64_readDouble? {s : List Char} {x : Double} (h : readDouble? s = some x) :
    x.IsBinary64 := by
  unfold readDouble? at h
  dsimp only at h
  split at h
  · next hname =>
    obtain rfl := Option.some.inj h
    exact isBinary64_namedDouble? hname
  -- with and without a point the number is made of a decimal
  split at h
  all_goals
    split at h
    · contradiction
    split at h
    · obtain rfl := Option.some.inj h
      exact Double.isBinary64_ofDecimal _ _ _
    · contradiction

theorem isBinary64_readLenientDouble? {s : String} {x : Double}
    (h : readLenientDouble? s = some x) : x.IsBinary64 := by
  unfold readLenientDouble? at h
  dsimp only at h
  split at h
  · obtain ⟨body, -, hbody⟩ := Option.bind_eq_some_iff.mp h
    exact isBinary64_readDouble? hbody
  · exact isBinary64_readDouble? h

end SourceCheck.Number

namespace SourceCheck.Log

open SourceCheck.Json SourceCheck.Number SourceCheck.Text

/-! ## The fields that are given -/

/-- A field is there and not null. -/
def isGiven (fields : List (String × Value)) (name : String) : Bool :=
  (Value.lookup name fields).any fun v => !v.isNull

/-- A member is a field as its normaliser gives it. -/
def NormalisedBy (fields : List (String × Value))
    (step : String × (Value → Except FieldFault Value)) (m : String × Value) : Prop :=
  m.1 = step.1 ∧ ∃ v, Value.lookup step.1 fields = some v ∧ step.2 v = .ok m.2

/-- **The normalised fields** are those that are given, each as its normaliser gives it. -/
theorem normaliseWith_spec {fields : List (String × Value)}
    {steps : List (String × (Value → Except FieldFault Value))} {normal : List (String × Value)}
    (h : normaliseWith fields steps = .ok normal) :
    List.Forall₂ (NormalisedBy fields) (steps.filter fun step => isGiven fields step.1) normal := by
  -- one step looks up one field; a field that is absent or null adds no member
  induction steps generalizing normal with
  | nil =>
    obtain rfl := Except.ok.inj h
    exact .nil
  | cons step steps ih =>
    obtain ⟨name, normaliser⟩ := step
    unfold normaliseWith at h
    split at h
    · next hlookup =>
      rw [List.filter_cons_of_neg (by simp [isGiven, hlookup])]
      exact ih h
    · next hlookup =>
      rw [List.filter_cons_of_neg (by simp [isGiven, hlookup, Value.isNull])]
      exact ih h
    · next v hnull hlookup =>
      have hgiven : isGiven fields name = true := by
        rw [isGiven, hlookup]
        cases v with
        | null => exact absurd rfl hnull
        | _ => rfl
      split at h
      · contradiction
      · next w hw =>
        obtain ⟨rest, hrest, rfl⟩ := eq_ok_of_map h
        rw [List.filter_cons_of_pos (by exact hgiven)]
        exact .cons ⟨rfl, v, hlookup, hw⟩ (ih hrest)

/-- What becomes of the details among some fields. -/
inductive IsDetails (fields : List (String × Value)) : List (String × Value) → Prop
  /-- They are kept if they are a mapping that is not empty. -/
  | kept {members : List (String × Value)}
    (hlookup : Value.lookup "details" fields = some (.map members)) (hne : members ≠ []) :
    IsDetails fields [("details", .map members)]
  /-- They are left out if they are anything else. -/
  | out (hempty : ∀ members, Value.lookup "details" fields = some (.map members) → members = []) :
    IsDetails fields []

theorem isDetails_detailsOf (fields : List (String × Value)) :
    IsDetails fields (detailsOf fields) := by
  unfold detailsOf
  split
  · next m rest hlookup => exact .kept hlookup (List.cons_ne_nil m rest)
  · next hother =>
    refine .out fun members hmembers => ?_
    cases members with
    | nil => rfl
    | cons m rest => exact absurd hmembers (hother m rest)

/-- **The attributes** are the component, the fields that are given and the details. -/
theorem normalise_spec {c : Component} {fields attributes : List (String × Value)}
    (h : normalise c fields = .ok attributes) :
    ∃ normal details, attributes = ("component", .text c.name) :: normal ++ details
      ∧ List.Forall₂ (NormalisedBy fields)
        (normalisers.filter fun step => isGiven fields step.1) normal
      ∧ IsDetails fields details := by
  obtain ⟨normal, hnormal, rfl⟩ := eq_ok_of_map h
  exact ⟨normal, detailsOf fields, rfl, normaliseWith_spec hnormal, isDetails_detailsOf fields⟩

theorem map_fst_normalised {fields normal : List (String × Value)}
    {steps : List (String × (Value → Except FieldFault Value))}
    (h : List.Forall₂ (NormalisedBy fields) steps normal) :
    normal.map Prod.fst = steps.map Prod.fst := by
  induction h with
  | nil => rfl
  | cons hstep _ ih => rw [List.map_cons, List.map_cons, ih, hstep.1]

theorem exists_step_of_mem {fields normal : List (String × Value)}
    {steps : List (String × (Value → Except FieldFault Value))}
    (h : List.Forall₂ (NormalisedBy fields) steps normal) {m : String × Value}
    (hm : m ∈ normal) : ∃ step ∈ steps, NormalisedBy fields step m := by
  induction h with
  | nil => contradiction
  | @cons step n steps normal hstep _ ih =>
    obtain rfl | hm := List.mem_cons.mp hm
    · exact ⟨step, List.mem_cons_self, hstep⟩
    · obtain ⟨found, hfound, hby⟩ := ih hm
      exact ⟨found, List.mem_cons_of_mem step hfound, hby⟩

/-! ## The kinds of normalised fields -/

theorem normalCheck_eq_ok {v w : Value} (h : normalCheck v = .ok w) :
    ∃ k : CheckKind, w = .text k.name := by
  unfold normalCheck at h
  split at h
  · exact ⟨_, (Except.ok.inj h).symm⟩
  · contradiction

theorem doubleOfText_eq_ok {s shown : String} {w : Value} (h : doubleOfText s shown = .ok w) :
    ∃ x, w = .double x ∧ x.IsBinary64 := by
  unfold doubleOfText at h
  split at h
  · next x hx => exact ⟨x, (Except.ok.inj h).symm, isBinary64_readLenientDouble? hx⟩
  · contradiction

/-- **A duration is a number of 53 digits**, unless it was given as another. -/
theorem normalDouble_eq_ok {v w : Value} (h : normalDouble v = .ok w)
    (hbinary : ∀ x, v = .double x → x.IsBinary64) : ∃ x, w = .double x ∧ x.IsBinary64 := by
  unfold normalDouble at h
  split at h
  · exact ⟨_, (Except.ok.inj h).symm, Double.isBinary64_ofInt _⟩
  · dsimp only at h
    split at h
    · exact ⟨_, (Except.ok.inj h).symm, Double.isBinary64_ofInt _⟩
    · contradiction
  · exact ⟨_, (Except.ok.inj h).symm, hbinary _ rfl⟩
  · exact doubleOfText_eq_ok h
  · exact doubleOfText_eq_ok h
  · contradiction

theorem intOfText_eq_ok {s shown : String} {w : Value} (h : intOfText s shown = .ok w) :
    ∃ n, w = .int n := by
  unfold intOfText at h
  split at h
  · exact ⟨_, (Except.ok.inj h).symm⟩
  all_goals contradiction

theorem normalInt_eq_ok {v w : Value} (h : normalInt v = .ok w) : ∃ n, w = .int n := by
  unfold normalInt at h
  split at h
  · exact ⟨_, (Except.ok.inj h).symm⟩
  · exact ⟨_, (Except.ok.inj h).symm⟩
  · contradiction
  · contradiction
  · exact ⟨_, (Except.ok.inj h).symm⟩
  · exact intOfText_eq_ok h
  · exact intOfText_eq_ok h
  · contradiction

theorem normalPath_eq_ok {v w : Value} (h : normalPath v = .ok w) : ∃ s, w = .text s := by
  unfold normalPath at h
  split at h
  · exact ⟨_, (Except.ok.inj h).symm⟩
  · exact ⟨_, (Except.ok.inj h).symm⟩
  · exact ⟨_, (Except.ok.inj h).symm⟩
  · contradiction

/-! ## The attributes that are shown -/

/-- Members whose keys come in the order of some names are all found by these names. -/
theorem filterMap_lookup {names : List String} {members : List (String × Value)}
    (hnames : names.Nodup) (h : (members.map Prod.fst).Sublist names) :
    (names.filterMap fun name => (Value.lookup name members).map (name, ·)) = members := by
  induction names generalizing members with
  | nil =>
    rw [List.sublist_nil, List.map_eq_nil_iff] at h
    rw [h]
    rfl
  | cons name names ih =>
    obtain ⟨hnew, hnodup⟩ := List.nodup_cons.mp hnames
    cases members with
    | nil =>
      rw [List.filterMap_cons_none rfl]
      exact ih hnodup (List.nil_sublist names)
    | cons m members =>
      obtain ⟨key, v⟩ := m
      by_cases hkey : key = name
      · subst hkey
        have hrest := List.cons_sublist_cons.mp h
        -- the other names are those of the other members
        have hother : ∀ other ∈ names,
            Value.lookup other ((key, v) :: members) = Value.lookup other members := by
          intro other hmem
          have hne : key ≠ other := by
            rintro rfl
            exact hnew hmem
          exact Value.lookup_cons_of_ne hne v members
        rw [List.filterMap_cons_some (by rw [Value.lookup_cons_self]; rfl),
          List.filterMap_congr fun other hmem => by rw [hother other hmem], ih hnodup hrest]
      · have hrest : (((key, v) :: members).map Prod.fst).Sublist names := by
          cases h with
          | cons _ h => exact h
          | cons_cons _ _ => exact absurd rfl hkey
        rw [List.filterMap_cons_none, ih hnodup hrest]
        rw [Value.lookup_eq_none fun hmem => hnew (hrest.subset hmem)]
        rfl

/-- The names of the fields that are given come in the order of all names. -/
theorem sublist_shownAttributes {c : Component} {fields normal details : List (String × Value)}
    (hnormal : List.Forall₂ (NormalisedBy fields)
      (normalisers.filter fun step => isGiven fields step.1) normal)
    (hdetails : IsDetails fields details) :
    ((("component", Value.text c.name) :: normal ++ details).map Prod.fst).Sublist
      shownAttributes := by
  have hnames : (normal.map Prod.fst).Sublist (normalisers.map Prod.fst) := by
    rw [map_fst_normalised hnormal]
    exact List.filter_sublist.map Prod.fst
  have hlast : (details.map Prod.fst).Sublist ["details"] := by
    cases hdetails with
    | kept _ _ => exact List.Sublist.refl _
    | out _ => exact List.nil_sublist _
  rw [List.map_append, List.map_cons]
  exact (hnames.cons_cons "component").append hlast

/-! ## The values of attributes -/

/-- The fields of an entry that can be written: numbers that were given have 53 digits and are
    finite where they are shown, and details are nested values. -/
structure CanBeWritten (fields attributes : List (String × Value)) : Prop where
  binary : ∀ x, Value.lookup "duration_ms" fields = some (.double x) → x.IsBinary64
  finite : ∀ x, ("duration_ms", .double x) ∈ attributes → x.isFinite = true
  nested : ∀ members, Value.lookup "details" fields = some (.map members) → Nested (.map members)

/-- A normalised field has a plain form that can be read back. -/
theorem plain_of_normalisedBy {fields : List (String × Value)}
    {step : String × (Value → Except FieldFault Value)} {m : String × Value}
    (hstep : step ∈ normalisers) (h : NormalisedBy fields step m)
    (hbinary : ∀ x, Value.lookup "duration_ms" fields = some (.double x) → x.IsBinary64)
    (hfinite : ∀ x, m = ("duration_ms", .double x) → x.isFinite = true) :
    Plain (plainForm m.2) := by
  obtain ⟨name, w⟩ := m
  obtain ⟨rfl, v, hlookup, hw⟩ := h
  dsimp only at hw hfinite ⊢
  simp only [normalisers, List.mem_cons, List.not_mem_nil, or_false] at hstep
  -- one case per normaliser, in the order of the table
  obtain rfl | rfl | rfl | rfl | rfl := hstep
  all_goals dsimp only at hw hlookup
  · obtain rfl := Except.ok.inj hw
    exact .text _
  · obtain ⟨k, rfl⟩ := normalCheck_eq_ok hw
    exact .text _
  -- a duration is the one value that can stay a double, hence the assumption about it
  · have hgiven : ∀ x, v = .double x → x.IsBinary64 := by
      rintro x rfl
      exact hbinary x hlookup
    obtain ⟨x, rfl, hx⟩ := normalDouble_eq_ok hw hgiven
    exact .double (hfinite x rfl) hx
  · obtain ⟨n, rfl⟩ := normalInt_eq_ok hw
    exact .int n
  · obtain ⟨s, rfl⟩ := normalPath_eq_ok hw
    exact .text s

/-! ## Entries -/

/-- An entry tells a message as it stands. -/
structure Tells (e : Entry) (label logger message : String) : Prop where
  labelled : e.label = .text label
  logged : e.logger = .text logger
  worded : e.template = .text message
  /-- There are no arguments for the message. -/
  whole : e.arguments = none
  /-- It is of one of the years from 1 to 9999. -/
  dated : IsDated e.created
  /-- Nothing was raised with it. -/
  quiet : e.raised = .ok none

/-- The members of the JSON form in front of the attributes. -/
def leading (label logger message time : String) : List (String × Value) :=
  [("timestamp", .text time), ("level", .text (lowerText label)), ("logger", .text logger),
    ("message", .text message)]

theorem nodup_leading (label logger message time : String) :
    ((leading label logger message time).map Prod.fst ++ shownAttributes).Nodup := by
  change (["timestamp", "level", "logger", "message"] ++ shownAttributes).Nodup
  decide

/-- The members of an entry have plain forms that can be read back. -/
theorem plain_members {c : Component} {fields normal details : List (String × Value)}
    (hfields : CanBeWritten fields (("component", .text c.name) :: normal ++ details))
    (hnormal : List.Forall₂ (NormalisedBy fields)
      (normalisers.filter fun step => isGiven fields step.1) normal)
    (hdetails : IsDetails fields details) (label logger message time : String) :
    Plain (plainForm (.map (leading label logger message time
      ++ (("component", .text c.name) :: normal ++ details)))) := by
  refine plain_map ?_ ?_
  · rw [List.map_append]
    exact (nodup_leading label logger message time).sublist
      ((List.Sublist.refl _).append (sublist_shownAttributes hnormal hdetails))
  · intro m hm
    simp only [leading, List.cons_append, List.nil_append, List.mem_cons, List.mem_append] at hm
    obtain rfl | rfl | rfl | rfl | rfl | hm | hm := hm
    -- a field is one that its normaliser gave
    case inr.inr.inr.inr.inr.inl =>
      obtain ⟨step, hstep, hby⟩ := exists_step_of_mem hnormal hm
      refine plain_of_normalisedBy (List.mem_of_mem_filter hstep) hby hfields.binary ?_
      rintro x rfl
      exact hfields.finite x (List.mem_cons_of_mem _ (List.mem_append_left _ hm))
    case inr.inr.inr.inr.inr.inr =>
      cases hdetails with
      | kept hlookup _ =>
        obtain rfl := List.mem_singleton.mp hm
        exact (hfields.nested _ hlookup).plain
      | out _ => exact absurd hm List.not_mem_nil
    all_goals exact .text _

theorem json_of_tells {e : Entry} {label logger message time : String}
    (h : Tells e label logger message) (htime : e.time = .ok time) :
    e.json
      = .ok (write plain (.map (leading label logger message time ++ shownOf e.attributes))) := by
  have hlevel : e.level = .ok (lowerText label) := by rw [Entry.level, h.labelled]
  have hmessage : e.message = .ok message := by
    rw [Entry.message, h.worded, h.whole]
    rfl
  have htold : e.told = .ok .null := by
    rw [Entry.told, h.quiet]
    rfl
  unfold Entry.json
  rw [htime, hlevel, hmessage, htold, h.logged]
  exact congrArg (fun members => Except.ok (write plain (.map members))) (List.append_nil _)

/-- **The fields of an entry survive the JSON form.**  It is a text without control characters
    that is read as one object: time, level, logger, message and component, then the fields that
    are given, in their order and as their normalisers give them, then the details if they are a
    mapping that is not empty, all of it with a text or a plain value in place of what JSON has
    no form for. -/
theorem read_json {c : Component} {fields attributes : List (String × Value)} {e : Entry}
    {label logger message : String} (hnormal : normalise c fields = .ok attributes)
    (hfields : CanBeWritten fields attributes) (hentry : Tells e label logger message)
    (hcarries : e.attributes = attributes) :
    ∃ time text normal details,
      e.time = .ok time
      ∧ e.json = .ok text
      ∧ (∀ ch ∈ text.toList, 0x20 ≤ ch.toNat)
      ∧ Json.read text = some (.map
        ([("timestamp", .text time), ("level", .text (lowerText label)), ("logger", .text logger),
            ("message", .text message), ("component", .text c.name)]
          ++ plainMembers normal ++ plainMembers details))
      ∧ attributes = ("component", .text c.name) :: normal ++ details
      ∧ normal.map Prod.fst
        = ["tool", "check", "duration_ms", "exit_code", "path"].filter (isGiven fields)
      ∧ List.Forall₂ (NormalisedBy fields)
        (normalisers.filter fun step => isGiven fields step.1) normal
      ∧ IsDetails fields details := by
  obtain ⟨normal, details, rfl, hsteps, hdetails⟩ := normalise_spec hnormal
  obtain ⟨time, htime⟩ := time_of_isDated hentry.dated
  have hsublist := sublist_shownAttributes (c := c) hsteps hdetails
  have hshown := filterMap_lookup (by decide) hsublist
  -- the line's members are the four leading ones and then the attributes in their own order
  have hmembers : plainMembers (leading label logger message time
      ++ (("component", .text c.name) :: normal ++ details))
        = [("timestamp", .text time), ("level", .text (lowerText label)),
            ("logger", .text logger), ("message", .text message), ("component", .text c.name)]
          ++ plainMembers normal ++ plainMembers details := by
    simp only [plainMembers_eq_map, List.map_append]
    rfl
  have hplain := plain_members hfields hsteps hdetails label logger message time
  refine ⟨time, write plain (.map (leading label logger message time
    ++ (("component", .text c.name) :: normal ++ details))), normal, details, htime, ?_, ?_, ?_,
    rfl, ?_, hsteps, hdetails⟩
  · rw [json_of_tells hentry htime, hcarries]
    exact congrArg (fun members => Except.ok (write plain (.map (_ ++ members)))) hshown
  · intro ch hch
    -- a character of the text comes from a plain value, and those are escaped when low
    rw [write, ← writeAt_plainForm] at hch
    exact (allows_of_mem_writeAt hplain 0 ch hch).1 rfl
  · rw [read_write_plainForm hplain, plainForm, hmembers]
  · rw [map_fst_normalised hsteps]
    exact (List.filter_map (p := isGiven fields) (l := normalisers)).symm

/-- Fields of every kind, with one left out and details that are nested. -/
def mixedFields : List (String × Value) := [
  ("exit_code", .bool true), ("tool", .severity .error), ("check", .null),
  ("path", .path "/work/a.go"), ("duration_ms", .double (.finite false (Nat.pow 2 52) (-51))),
  ("details", .map [("lines", .list [.text "\"\n", .path "b", .null]),
    ("level", .member (.severity .warning))])]

/-- An entry that carries them. -/
def mixedEntry : Entry where
  label := .text "WARNING"
  logger := .text "gocheck.engines"
  template := .text "100%"
  arguments := none
  created := .int 0
  raised := .ok none
  raisedText := .null
  stack := .null
  attributes := [("component", .text "runner"), ("tool", .text "error"),
    ("duration_ms", .double (.finite false (Nat.pow 2 52) (-51))), ("exit_code", .int 1),
    ("path", .text "/work/a.go"),
    ("details", .map [("lines", .list [.text "\"\n", .path "b", .null]),
      ("level", .member (.severity .warning))])]

theorem read_json_mixedFields :
    normalise .runner mixedFields = .ok mixedEntry.attributes
      ∧ CanBeWritten mixedFields mixedEntry.attributes
      ∧ Tells mixedEntry "WARNING" "gocheck.engines" "100%"
      ∧ ∃ time text normal details,
        mixedEntry.time = .ok time
        ∧ mixedEntry.json = .ok text
        ∧ (∀ ch ∈ text.toList, 0x20 ≤ ch.toNat)
        ∧ Json.read text = some (.map
          ([("timestamp", .text time), ("level", .text "warning"),
              ("logger", .text "gocheck.engines"), ("message", .text "100%"),
              ("component", .text "runner")]
            ++ plainMembers normal ++ plainMembers details))
        ∧ mixedEntry.attributes = ("component", .text "runner") :: normal ++ details
        ∧ normal.map Prod.fst
          = ["tool", "check", "duration_ms", "exit_code", "path"].filter (isGiven mixedFields)
        ∧ List.Forall₂ (NormalisedBy mixedFields)
          (normalisers.filter fun step => isGiven mixedFields step.1) normal
        ∧ IsDetails mixedFields details := by
  have hnormal : normalise .runner mixedFields = .ok mixedEntry.attributes := rfl
  have hfields : CanBeWritten mixedFields mixedEntry.attributes := by
    -- the three fields of the assumption: the double, its normal form, and the details
    refine ⟨?_, ?_, ?_⟩
    · intro x hx
      obtain rfl : Number.Double.finite false (Nat.pow 2 52) (-51) = x :=
        Value.double.inj (Option.some.inj hx)
      exact ⟨by decide, by decide, by decide, .inl le_rfl⟩
    · intro x hx
      obtain rfl : x = .finite false (Nat.pow 2 52) (-51) := by simpa [mixedEntry] using hx
      rfl
    · intro members hmembers
      obtain rfl := Value.map.inj (Option.some.inj hmembers)
      refine .map (by decide) ?_
      simp only [List.forall_mem_cons, List.not_mem_nil, false_imp_iff, implies_true, and_true]
      refine ⟨.list ?_, .member (.severity .warning)⟩
      simp only [List.forall_mem_cons, List.not_mem_nil, false_imp_iff, implies_true, and_true]
      exact ⟨.text _, .path _, .null⟩
  have hentry : Tells mixedEntry "WARNING" "gocheck.engines" "100%" :=
    ⟨rfl, rfl, rfl, rfl, ⟨by decide, by decide⟩, rfl⟩
  have hlevel : lowerText "WARNING" = "warning" := rfl
  have hread := read_json hnormal hfields hentry rfl
  rw [hlevel] at hread
  exact ⟨hnormal, hfields, hentry, hread⟩

end SourceCheck.Log
