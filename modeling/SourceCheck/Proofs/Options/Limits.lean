import SourceCheck.Command.Run
import SourceCheck.Proofs.Command.Settings

/-! # Time limits

    Two checks keep time limits of zero and less out: one on the options of a mapping or a file,
    one on the value of an option of the command line.  Both refuse a number that is at most
    zero.  This refuses all that is not greater than zero, but for one number: what is no number
    is neither (`Double.isAtMostZero_eq_false_iff`).  So the limit of options that were accepted,
    from wherever they come, is greater than zero if there is one, unless it is no number
    (`limit_isPositive_iff`). -/

namespace SourceCheck

open SourceCheck.Text SourceCheck.Number SourceCheck.CommandLine

/-! ## Numbers greater than zero -/

namespace Number.Double

/-- The number is greater than zero. -/
def IsPositive : Double → Prop
  | .nan => False
  | .infinite negative => negative = false
  | .finite negative mantissa _ => negative = false ∧ 0 < mantissa

theorem isAtMostZero_eq_false_iff {x : Double} :
    x.isAtMostZero = false ↔ x.IsPositive ∨ x = .nan := by
  cases x with
  | nan => simp [isAtMostZero]
  | infinite negative => simp [isAtMostZero, IsPositive]
  | finite negative mantissa exponent =>
    simp [isAtMostZero, IsPositive, Nat.pos_iff_ne_zero]

/-- What is no number is not greater than zero. -/
theorem not_isPositive_nan : ¬nan.IsPositive := id

end Number.Double

/-- The number of seconds is greater than zero. -/
def Seconds.IsPositive : Seconds → Prop
  | .whole n => 0 < n
  | .real x => x.IsPositive
  | .truth b => b = true

/-- A time limit that is missing or greater than zero. -/
def Value.IsPositiveLimit (v : Value) : Prop :=
  v = .null ∨ ∃ s, Seconds.ofValue? v = some s ∧ s.IsPositive

/-- A time limit that is let through: it is missing, or a floating-point number that is not at
    most zero. -/
def IsAccepted (t : Option Seconds) : Prop :=
  ∀ s, t = some s → ∃ x : Double, s = .real x ∧ x.isAtMostZero = false

theorem isAccepted_none : IsAccepted none := by
  intro s hs
  contradiction

theorem isAccepted_real {x : Double} (h : x.isAtMostZero = false) :
    IsAccepted (some (.real x)) := by
  intro s hs
  exact ⟨x, (Option.some.inj hs).symm, h⟩

/-- **A limit that is let through** is greater than zero if there is one, unless it is no
    number. -/
theorem IsAccepted.isPositiveLimit_iff {t : Option Seconds} (h : IsAccepted t) :
    (Options.timeoutValue t).IsPositiveLimit ↔ t ≠ some (.real .nan) := by
  cases t with
  | none =>
    constructor
    · intro _ hnan
      contradiction
    · intro _
      exact .inl rfl
  -- the check asks that the number is not at most zero, which NaN is not either
  | some s =>
    obtain ⟨x, rfl, hx⟩ := h s rfl
    constructor
    · rintro (hnull | ⟨s, hs, hpositive⟩) hnan
      · contradiction
      · obtain rfl := Option.some.inj hs
        rw [Option.some.inj hnan] at hpositive
        exact Double.not_isPositive_nan hpositive
    · intro hnan
      rcases Double.isAtMostZero_eq_false_iff.mp hx with hpositive | rfl
      · exact .inr ⟨.real x, rfl, hpositive⟩
      · exact absurd rfl hnan

/-! ## Options of a mapping -/

theorem isAccepted_of_checkTimeout {v : Value} {t : Option Seconds} (h : checkTimeout v = .ok t) :
    IsAccepted t := by
  unfold checkTimeout at h
  split at h
  · rw [← Except.ok.inj h]
    exact isAccepted_none
  · split at h
    · contradiction
    · next x _ =>
      split at h
      · contradiction
      · next hx =>
        rw [← Except.ok.inj h]
        exact isAccepted_real (Bool.eq_false_iff.mpr hx)

theorem eq_ok_of_issueOf {α : Type} {other : α} {x : Except Issue α} (h : issueOf x = []) :
    x = .ok (valueOr other x) := by
  cases x with
  | ok a => rfl
  | error i => contradiction

/-- The time limit of validated options is what the check makes of the value that is given. -/
theorem timeout_of_validate {options : List (String × Value)} {o : Options}
    (h : Options.validate options = .ok o) :
    option "toolTimeout" "tool_timeout" checkTimeout none options = .ok o.timeout := by
  unfold Options.validate at h
  dsimp only at h
  split at h
  · next hissues =>
    -- without issues the check of the limit went well, the last one of all
    obtain rfl := Except.ok.inj h
    exact eq_ok_of_issueOf (List.append_eq_nil_iff.mp (List.isEmpty_iff.mp hissues)).2
  · contradiction

theorem isAccepted_of_validate {options : List (String × Value)} {o : Options}
    (h : Options.validate options = .ok o) : IsAccepted o.timeout := by
  have htimeout := timeout_of_validate h
  unfold option at htimeout
  split at htimeout
  · rw [← Except.ok.inj htimeout]
    exact isAccepted_none
  · split at htimeout
    · next t hcheck =>
      rw [← Except.ok.inj htimeout]
      exact isAccepted_of_checkTimeout hcheck
    · contradiction

/-! ## Options that are loaded -/

/-- The options are those of some mapping that is valid. -/
def Options.IsValidated (o : Options) : Prop := ∃ options, Options.validate options = .ok o

theorem Options.isValidated_default : Options.default.IsValidated := ⟨[], rfl⟩

theorem Options.IsValidated.isAccepted {o : Options} (h : o.IsValidated) : IsAccepted o.timeout := by
  obtain ⟨options, hvalid⟩ := h
  exact isAccepted_of_validate hvalid

variable {h : Host} {loaded : Loaded}

theorem isValidated_of_loadCandidate {required : Bool} {file : Path}
    (hload : loadCandidate h required file = .ok (some loaded)) :
    loaded.options.IsValidated := by
  -- a mapping is handed on only after it was validated, every other branch ends without one
  unfold loadCandidate at hload
  split at hload
  · contradiction
  · cases Except.ok.inj hload
  · split at hload
    · contradiction
    · split at hload
      · contradiction
      · split at hload
        · contradiction
        · cases Except.ok.inj hload
      · next options _ =>
        split at hload
        · next o hvalid =>
          obtain rfl := Option.some.inj (Except.ok.inj hload)
          exact ⟨options, hvalid⟩
        · contradiction

theorem isValidated_of_loadFirst {files : List Path} (hload : loadFirst h files = .ok loaded) :
    loaded.options.IsValidated := by
  induction files with
  | nil =>
    obtain rfl := Except.ok.inj hload
    exact Options.isValidated_default
  | cons file rest ih =>
    unfold loadFirst at hload
    split at hload
    · contradiction
    · next loaded' hcandidate =>
      obtain rfl := Except.ok.inj hload
      exact isValidated_of_loadCandidate hcandidate
    · exact ih hload

/-- **Options that are loaded are valid**, from a file that is named, from one that is found, and
    where there is none. -/
theorem isValidated_of_loadOptions {named start : Option Path}
    (hload : (loadOptions h named start).1 = .ok loaded) : loaded.options.IsValidated := by
  cases named with
  | some file =>
    change loadNamed h file = .ok loaded at hload
    unfold loadNamed at hload
    dsimp only at hload
    split at hload
    · contradiction
    · split at hload
      · contradiction
      · next loaded' hcandidate =>
        obtain rfl := Except.ok.inj hload
        exact isValidated_of_loadCandidate hcandidate
      · contradiction
  | none =>
    change discover h (start.getD h.workingPath) = .ok loaded at hload
    unfold discover at hload
    split at hload
    · contradiction
    · split at hload
      · contradiction
      · exact isValidated_of_loadFirst hload

/-! ## Options of a command line -/

/-- A time limit that is set is one that is let through. -/
def SetsAccepted : Setting → Prop
  | .timeout t => IsAccepted t
  | _ => True

theorem setsAccepted_of_readTimeout {word : String} {a : Setting} (h : readTimeout word = .ok a) :
    SetsAccepted a := by
  unfold readTimeout at h
  split at h
  · contradiction
  · next x _ =>
    split at h
    · contradiction
    · next hx =>
      obtain rfl := Except.ok.inj h
      exact isAccepted_real (Bool.eq_false_iff.mpr hx)

theorem holdsOfSettings_setsAccepted : HoldsOfSettings SetsAccepted where
  level _ _ := trivial
  timeout _ _ hread := setsAccepted_of_readTimeout hread
  others a _ htimeout := by
    cases a with
    | timeout t =>
      cases t with
      | none => exact isAccepted_none
      | some s => exact absurd rfl (htimeout s)
    | _ => trivial

/-- **Every time limit that a command line sets** is let through. -/
theorem setsAccepted_of_read {args : List String} {settings : List Setting}
    (h : programGrammar.read args = .ok settings) : ∀ a ∈ settings, SetsAccepted a :=
  holds_of_read holdsOfSettings_setsAccepted h

theorem isAccepted_of_lastTimeout {settings : List Setting} {t : Option Seconds}
    (hsettings : ∀ a ∈ settings, SetsAccepted a) (h : lastTimeout settings = some t) :
    IsAccepted t := by
  obtain ⟨a, ha, htells⟩ := exists_of_lastOf h
  have hset := hsettings a ha
  cases a with
  | timeout t' =>
    obtain rfl := Option.some.inj htells
    exact hset
  | _ => contradiction

theorem isAccepted_of_readRequest {args : List String} {log : LogRequest} {r : CheckRequest}
    (h : readRequest args = .ok (.check log r)) : IsAccepted r.overrides.timeout := by
  obtain ⟨settings, hread, rfl⟩ := exists_settings_of_readRequest h
  change IsAccepted ((lastTimeout settings).getD none)
  cases hlast : lastTimeout settings with
  | none => exact isAccepted_none
  | some t => exact isAccepted_of_lastTimeout (setsAccepted_of_read hread) hlast

theorem isAccepted_override {o : Options} {c : Options.Overrides} (ho : IsAccepted o.timeout)
    (hc : IsAccepted c.timeout) : IsAccepted (o.override c).timeout := by
  change IsAccepted (c.timeout <|> o.timeout)
  cases htimeout : c.timeout with
  | none => exact ho
  | some s =>
    rw [htimeout] at hc
    exact hc

/-! ## The limit of a check -/

/-- The time limit of options. -/
def UsableOptions.limit (o : UsableOptions) : Value := o.toNamed.value "tool_timeout"

theorem limit_typed (o : Options) :
    (UsableOptions.typed o).limit = Options.timeoutValue o.timeout := rfl

/-- A limit that lacks its number is an empty list. -/
theorem limit_optionsOn (r : CheckRequest) (o : Options) :
    (r.optionsOn o).limit = if r.lacksTimeout then .list []
      else Options.timeoutValue (o.override r.overrides).timeout := by
  unfold CheckRequest.optionsOn
  dsimp only
  split
  · rfl
  · rfl

theorem not_isPositiveLimit_list (items : List Value) :
    ¬(Value.list items).IsPositiveLimit := by
  rintro (hnull | ⟨s, hs, -⟩)
  · contradiction
  · contradiction

/-- **The time limit of accepted options** is missing or greater than zero, unless it is no
    number: of a valid mapping, of options that are loaded, and of a command line on top of
    them.  There a limit whose number was dropped is an empty list, and not positive either. -/
theorem limit_isPositive_iff (options : List (String × Value)) (h : Host)
    (named start : Option Path) (args : List String) :
    (∀ o : Options, Options.validate options = .ok o →
        ((UsableOptions.typed o).limit.IsPositiveLimit ↔ o.timeout ≠ some (.real .nan)))
      ∧ ∀ loaded : Loaded, (loadOptions h named start).1 = .ok loaded →
        ((UsableOptions.typed loaded.options).limit.IsPositiveLimit
            ↔ loaded.options.timeout ≠ some (.real .nan))
          ∧ ∀ (log : LogRequest) (r : CheckRequest), readRequest args = .ok (.check log r) →
            ((r.optionsOn loaded.options).limit.IsPositiveLimit
              ↔ (loaded.options.override r.overrides).timeout ≠ some (.real .nan)
                ∧ r.lacksTimeout = false) := by
  refine ⟨?_, ?_⟩
  · intro o hvalid
    rw [limit_typed]
    exact (isAccepted_of_validate hvalid).isPositiveLimit_iff
  · intro loaded hload
    have hloaded : IsAccepted loaded.options.timeout := (isValidated_of_loadOptions hload).isAccepted
    refine ⟨?_, ?_⟩
    · rw [limit_typed]
      exact hloaded.isPositiveLimit_iff
    · intro log r hrequest
      -- the override replaces the limit by one that was checked on its own
      have hlimit : IsAccepted (loaded.options.override r.overrides).timeout :=
        isAccepted_override hloaded (isAccepted_of_readRequest hrequest)
      rw [limit_optionsOn]
      -- an option whose value was dropped gives the limit an empty list
      cases r.lacksTimeout with
      | true =>
        constructor
        · intro hpositive
          exact absurd hpositive (not_isPositiveLimit_list [])
        · rintro ⟨-, hfalse⟩
          contradiction
      | false =>
        rw [if_neg Bool.false_ne_true, hlimit.isPositiveLimit_iff]
        exact ⟨fun hnan => ⟨hnan, rfl⟩, fun hboth => hboth.1⟩

/-- Two and a half. -/
def shortLimit : Double := .finite false 5629499534213120 (-51)

/-- Options with that time limit. -/
def shortOptions : Options := { Options.default with timeout := some (.real shortLimit) }

/-- A command line with that time limit. -/
def shortArgs : List String := ["check", "--timeout", "2.5", "a.go"]

/-- The check that it asks for. -/
def shortRequest : CheckRequest :=
  checkRequest [.command "check", .timeout (some (.real shortLimit)), .file (Path.ofText "a.go")]

theorem readRequest_shortArgs :
    readRequest shortArgs = .ok (.check ⟨some .text, some .warning⟩ shortRequest) := by
  have hread : programGrammar.read shortArgs = .ok
      [.command "check", .timeout (some (.real shortLimit)), .file (Path.ofText "a.go")] :=
    eq_ok_of_toOption (by decide +kernel)
  unfold readRequest
  rw [hread]
  rfl

theorem limit_isPositive_iff_short :
    Options.validate [("toolTimeout", .double shortLimit)] = .ok shortOptions
      ∧ (UsableOptions.typed shortOptions).limit.IsPositiveLimit
      ∧ (loadOptions ⟨{ entries := [] }, [], []⟩ none none).1 = .ok ⟨Options.default, none⟩
      ∧ (UsableOptions.typed Options.default).limit.IsPositiveLimit
      ∧ readRequest shortArgs = .ok (.check ⟨some .text, some .warning⟩ shortRequest)
      ∧ (shortRequest.optionsOn Options.default).limit.IsPositiveLimit := by
  have hvalid : Options.validate [("toolTimeout", .double shortLimit)] = .ok shortOptions := rfl
  have hload : (loadOptions ⟨{ entries := [] }, [], []⟩ none none).1
      = .ok ⟨Options.default, none⟩ := rfl
  obtain ⟨hvalidated, hsources⟩ := limit_isPositive_iff [("toolTimeout", .double shortLimit)]
    ⟨{ entries := [] }, [], []⟩ none none shortArgs
  obtain ⟨hloaded, hrequested⟩ := hsources _ hload
  exact ⟨hvalid, (hvalidated _ hvalid).mpr (by decide), hload, hloaded.mpr (by decide),
    readRequest_shortArgs, (hrequested _ _ readRequest_shortArgs).mpr ⟨by decide, by decide⟩⟩

/-- **A limit that is accepted and not positive**: no number, in a mapping and on a command
    line. -/
theorem not_isPositiveLimit_nan :
    Options.validate [("toolTimeout", .text "nan")]
        = .ok { Options.default with timeout := some (.real .nan) }
      ∧ readTimeout "nan" = .ok (.timeout (some (.real .nan)))
      ∧ ¬(UsableOptions.typed
        { Options.default with timeout := some (.real .nan) }).limit.IsPositiveLimit := by
  have hread : readTimeout "nan" = .ok (.timeout (some (.real .nan))) :=
    eq_ok_of_toOption (by decide +kernel)
  have hvalid : Options.validate [("toolTimeout", .text "nan")]
      = .ok { Options.default with timeout := some (.real .nan) } := by rfl
  refine ⟨hvalid, hread, ?_⟩
  intro hpositive
  exact (isAccepted_of_validate hvalid).isPositiveLimit_iff.mp hpositive rfl

end SourceCheck
