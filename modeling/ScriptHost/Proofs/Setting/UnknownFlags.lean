import ScriptHost.Proofs.Setting.Overriding
import ScriptHost.Proofs.Setting.Tokens
import ScriptHost.Proofs.Text.Blank
import ScriptHost.Proofs.Text.Pieces
import ScriptHost.Proofs.Text.Stem

/-!
# Which option texts are refused

A flag may have white space around it and may be missing between two commas.  A
text is refused for the first piece that is neither blank nor a flag, wherever
equal pieces stand, and otherwise every piece of it takes effect.
-/

namespace ScriptHost

/-- One or more ASCII digits that stand for a number. -/
def IsDecimal (digits : String) (number : Nat) : Prop :=
  digits ≠ "" ∧ (∀ c ∈ digits.toList, '0' ≤ c ∧ c ≤ '9') ∧
    Nat.ofDigitChars 10 digits.toList 0 = number

namespace Flag

/-- What a text must read to stand for a flag. -/
def Spells (text : String) : Flag → Prop
  | blank => text = ""
  | fields .dual => text = "dual-fields"
  | fields .single => text = "single-fields"
  | noBeanHelpers => text = "no-bean-helpers"
  | noClassificationCache => text = "no-classification-cache"
  | maxFields limit => ∃ sign digits,
    text = "max-fields=" ++ (sign ++ digits) ∧ (sign = "" ∨ sign = "+") ∧
      IsDecimal digits limit ∧ limit < UInt64.size

/-- A text that is not empty and stands for no flag. -/
def Unknown (text : String) : Prop :=
  ∀ flag, ¬ Spells text flag

end Flag

/-! ## Reading numbers -/

theorem isDigit_iff (c : Char) : c.isDigit = true ↔ '0' ≤ c ∧ c ≤ '9' := by
  rw [Char.isDigit_iff_toNat]
  rfl

theorem readDigits_eq_some_iff {digits : List Char} {number : Nat} :
    readDigits digits = some number ↔
      IsDecimal (String.ofList digits) number := by
  rw [IsDecimal, String.toList_ofList]
  cases digits with
  | nil => simp [readDigits]
  | cons c rest =>
      rw [readDigits, Nat.ofDigitChars_eq_foldl]
      · simp only [← isDigit_iff, List.all_eq_true,
          Option.ite_none_right_eq_some, Option.some.injEq, ne_eq,
          String.ofList_eq_empty_iff, reduceCtorEq, not_false_eq_true,
          true_and]
      · exact List.cons_ne_nil c rest

def withoutPlus : List Char → List Char
  | '+' :: rest => rest
  | all => all

theorem withoutPlus_eq_iff {text digits : String} {number : Nat}
    (hdigits : IsDecimal digits number) :
    withoutPlus text.toList = digits.toList ↔
      ∃ sign, text = sign ++ digits ∧ (sign = "" ∨ sign = "+") := by
  have hsign : (∃ sign, text = sign ++ digits ∧ (sign = "" ∨ sign = "+")) ↔
      text.toList = digits.toList ∨ text.toList = '+' :: digits.toList := by
    constructor
    · rintro ⟨_, rfl, rfl | rfl⟩
      · exact .inl (congrArg String.toList String.empty_append)
      · exact .inr String.toList_append
    · rintro (hall | hplus)
      · exact ⟨"", by rw [String.empty_append, String.toList_inj.mp hall],
          .inl rfl⟩
      · refine ⟨"+", String.toList_inj.mp ?_, .inr rfl⟩
        rw [hplus, String.toList_append]
        rfl
  rw [hsign]
  generalize text.toList = cs
  fun_cases withoutPlus cs with
  | case1 rest =>
      -- A plus sign is no digit.
      have hplus : '+' :: rest ≠ digits.toList := by
        intro hsame
        have hfirst := hdigits.2.1 '+'
        rw [← hsame] at hfirst
        exact absurd (hfirst List.mem_cons_self) (by decide)
      simp [hplus]
  | case2 _ hplus => rw [or_iff_left (hplus _)]

/-- A number is read off digits after at most one plus sign. -/
theorem readCount_eq_some_iff {text : String} {limit : Nat} :
    readCount text = some limit ↔ ∃ sign digits,
      text = sign ++ digits ∧ (sign = "" ∨ sign = "+") ∧
        IsDecimal digits limit ∧ limit < UInt64.size := by
  have hread : readCount text =
      (readDigits (withoutPlus text.toList)).filter (· < UInt64.size) := rfl
  rw [hread, Option.filter_eq_some_iff, readDigits_eq_some_iff,
    decide_eq_true_iff]
  constructor
  · rintro ⟨hdigits, hbound⟩
    obtain ⟨sign, htext, hsign⟩ :=
      (withoutPlus_eq_iff hdigits).mp String.toList_ofList.symm
    exact ⟨sign, _, htext, hsign, hdigits, hbound⟩
  · rintro ⟨sign, digits, htext, hsign, hdigits, hbound⟩
    rw [(withoutPlus_eq_iff hdigits).mpr ⟨sign, htext, hsign⟩,
      String.ofList_toList]
    exact ⟨hdigits, hbound⟩

/-! ## Reading flags -/

namespace Flag

theorem stem_append_ne {stem name rest : String}
    (hname : Text.afterStem? stem name = none) : stem ++ rest ≠ name := by
  rintro rfl
  rw [Text.afterStem?_eq_some_iff.mpr rfl] at hname
  cases hname

/-- A limit is read off what follows its name. -/
theorem ofText?_maxFields (rest : String) :
    ofText? ("max-fields=" ++ rest) = (readCount rest).map maxFields := by
  rw [ofText?, if_neg (stem_append_ne (by decide)),
    if_neg (stem_append_ne (by decide)), if_neg (stem_append_ne (by decide)),
    if_neg (stem_append_ne (by decide)), if_neg (stem_append_ne (by decide)),
    Text.afterStem?_eq_some_iff.mpr rfl]
  rfl

/-- A flag is read off the texts that spell it. -/
theorem ofText?_eq_some_iff {text : String} {flag : Flag} :
    ofText? text = some flag ↔ Spells text flag := by
  constructor
  · intro hread
    rw [ofText?] at hread
    split_ifs at hread with hblank hdual hsingle hbeans hcache
    · cases hread
      exact hblank
    · cases hread
      exact hdual
    · cases hread
      exact hsingle
    · cases hread
      exact hbeans
    · cases hread
      exact hcache
    · obtain ⟨limit, hlimit, rfl⟩ := Option.map_eq_some_iff.mp hread
      obtain ⟨rest, hrest, hcount⟩ := Option.bind_eq_some_iff.mp hlimit
      rw [Text.afterStem?_eq_some_iff] at hrest
      obtain ⟨sign, digits, rfl, hdigits⟩ := readCount_eq_some_iff.mp hcount
      exact ⟨sign, digits, hrest, hdigits⟩
  · intro hspells
    cases flag with
    | maxFields limit =>
        obtain ⟨sign, digits, rfl, hcount⟩ := hspells
        rw [ofText?_maxFields,
          readCount_eq_some_iff.mpr ⟨sign, digits, rfl, hcount⟩]
        rfl
    | fields mode =>
        cases mode with
        | dual => rw [show text = "dual-fields" from hspells]; rfl
        | single => rw [show text = "single-fields" from hspells]; rfl
    | blank => rw [show text = "" from hspells]; rfl
    | noBeanHelpers => rw [show text = "no-bean-helpers" from hspells]; rfl
    | noClassificationCache =>
        rw [show text = "no-classification-cache" from hspells]
        rfl

/-- Unknown are the texts that no flag is read off. -/
theorem unknown_iff {text : String} : Unknown text ↔ ofText? text = none := by
  simp only [Unknown, ← ofText?_eq_some_iff, Option.eq_none_iff_forall_ne_some,
    ne_eq]

end Flag

/-! ## The first piece that is no flag -/

def Flag.unknownToken (token : String) : Bool :=
  (ofToken? token).isNone

namespace Config

theorem applyToken_of_unknown {token : String}
    (hflag : Flag.ofToken? token = none) (config : Config) :
    applyToken config token = .error (.invalidOption (Text.trim token)) := by
  rw [Flag.ofToken?] at hflag
  simp only [applyToken, hflag]

/-- Tokens are applied until one of them is no flag. -/
theorem foldlM_applyToken_of_unknown {tokens : List String} {token : String}
    (hunknown : tokens.find? Flag.unknownToken = some token)
    (config : Config) :
    tokens.foldlM applyToken config =
      .error (.invalidOption (Text.trim token)) := by
  induction tokens generalizing config with
  | nil => cases hunknown
  | cons first rest ih =>
      rw [List.foldlM_cons]
      cases hflag : Flag.ofToken? first with
      | some flag =>
          have hfirst : ¬ Flag.unknownToken first = true := by
            simp [Flag.unknownToken, hflag]
          rw [List.find?_cons_of_neg hfirst] at hunknown
          rw [applyToken_of_flag hflag]
          exact ih hunknown (config.apply flag)
      | none =>
          have hfirst : Flag.unknownToken first = true := by
            simp [Flag.unknownToken, hflag]
          rw [List.find?_cons_of_pos hfirst, Option.some.injEq] at hunknown
          rw [applyToken_of_unknown hflag, hunknown]
          rfl

/-- The empty pieces and the repeated ones do not matter for what the first
unknown one is. -/
theorem find?_tokens (text : String) :
    (OptionList.tokens text).find? Flag.unknownToken =
      (Text.pieces ',' text).find? Flag.unknownToken := by
  rw [OptionList.tokens, find?_eraseDups, List.find?_filter]
  congr 1
  funext piece
  -- An empty piece is a blank flag, so it is never the one that is found.
  by_cases hempty : piece = ""
  · rw [hempty]
    decide
  · simp [hempty]

/-- The settings of a text are refused for the first unknown piece. -/
theorem ofOptions_of_unknown {text piece : String}
    (hunknown : (Text.pieces ',' text).find? Flag.unknownToken = some piece) :
    ofOptions (.ofText (some text)) =
      .error (.invalidOption (Text.trim piece)) := by
  rw [← find?_tokens] at hunknown
  exact foldlM_applyToken_of_unknown hunknown default

/-- Without an unknown piece the settings are those after all tokens. -/
theorem ofOptions_of_known {text : String}
    (hknown : (Text.pieces ',' text).find? Flag.unknownToken = none) :
    ofOptions (.ofText (some text)) = .ok (after (OptionList.tokens text)) := by
  rw [← find?_tokens, List.find?_eq_none] at hknown
  apply foldlM_applyToken
  intro token htoken
  rw [← Option.isSome_iff_exists, Option.isSome_iff_ne_none]
  simpa [Flag.unknownToken] using hknown token htoken

theorem readToken?_switched_iff {off : Flag} {token : String} {value : Bool} :
    Flag.readToken? (Flag.switched? off) token = some value ↔
      Flag.ofToken? token = some off ∧ value = false := by
  simp only [Flag.readToken?, Option.bind_eq_some_iff, Flag.switched?,
    Option.ite_none_right_eq_some, Option.some.injEq]
  constructor
  · rintro ⟨flag, hflag, rfl, rfl⟩
    exact ⟨hflag, rfl⟩
  · rintro ⟨hflag, rfl⟩
    exact ⟨off, hflag, rfl, rfl⟩

/-- What only one flag switches off is off exactly if some token is that
flag. -/
theorem switched_eq_false_iff (off : Flag) (tokens : List String) :
    (tokens.filterMap
        (Flag.readToken? (Flag.switched? off))).getLast?.getD true = false ↔
      ∃ token ∈ tokens, Flag.ofToken? token = some off := by
  cases hlast : (tokens.filterMap
      (Flag.readToken? (Flag.switched? off))).getLast? with
  | none =>
      rw [List.getLast?_eq_none_iff, List.filterMap_eq_nil_iff] at hlast
      refine iff_of_false (by decide) ?_
      rintro ⟨token, htoken, hflag⟩
      have hread := readToken?_switched_iff.mpr ⟨hflag, rfl⟩
      rw [hlast token htoken] at hread
      cases hread
  | some value =>
      obtain ⟨token, htoken, hread⟩ :=
        List.mem_filterMap.mp (List.mem_of_getLast? hlast)
      obtain ⟨hflag, hvalue⟩ := readToken?_switched_iff.mp hread
      exact iff_of_true hvalue ⟨token, htoken, hflag⟩

end Config

/-! ## The flags of a text -/

/-- After as many characters as `offset` says, a text has a piece between
commas that is `flag` with blank characters around it. -/
def FlagAt (text : Option String) (offset : Nat) (flag : String) : Prop :=
  ∃ written piece, text = some written ∧
    Text.PieceAt ',' written offset piece ∧ Text.Trims piece flag

theorem flagAt_some_iff {written flag : String} {offset : Nat} :
    FlagAt (some written) offset flag ↔ ∃ piece,
      Text.PieceAt ',' written offset piece ∧ Text.trim piece = flag := by
  simp [FlagAt, Text.trims_iff]

theorem not_flagAt_none {offset : Nat} {flag : String} :
    ¬ FlagAt none offset flag := by
  rintro ⟨_, _, htext, _⟩
  cases htext

theorem unknownToken_iff {token : String} :
    Flag.unknownToken token = true ↔ Flag.Unknown (Text.trim token) := by
  rw [Flag.unknownToken, Option.isNone_iff_eq_none, Flag.unknown_iff]
  rfl

/-- A text has an unknown flag before all others. -/
def FirstUnknownAt (text : Option String) (offset : Nat) (flag : String) :
    Prop :=
  FlagAt text offset flag ∧ Flag.Unknown flag ∧
    ∀ earlier other, FlagAt text earlier other → Flag.Unknown other →
      offset ≤ earlier

/-- The first unknown flag of a text is in the first unknown piece. -/
theorem firstUnknownAt_some_iff {written flag : String} :
    (∃ offset, FirstUnknownAt (some written) offset flag) ↔ ∃ piece,
      (Text.pieces ',' written).find? Flag.unknownToken = some piece ∧
        Text.trim piece = flag := by
  simp only [Text.find?_pieces_eq_some_iff, unknownToken_iff, FirstUnknownAt,
    flagAt_some_iff]
  constructor
  · rintro ⟨offset, ⟨piece, hpiece, rfl⟩, hunknown, hleast⟩
    refine ⟨piece, ⟨offset, hpiece, hunknown, ?_⟩, rfl⟩
    intro earlier other hother
    exact hleast earlier _ ⟨other, hother, rfl⟩
  · rintro ⟨piece, ⟨offset, hpiece, hunknown, hleast⟩, rfl⟩
    refine ⟨offset, ⟨piece, hpiece, rfl⟩, hunknown, ?_⟩
    rintro earlier _ ⟨other, hother, rfl⟩
    exact hleast earlier other hother

/-- A text without unknown flags has no unknown piece. -/
theorem find?_unknownToken_eq_none_iff {written : String} :
    (Text.pieces ',' written).find? Flag.unknownToken = none ↔
      ¬ ∃ offset flag, FlagAt (some written) offset flag ∧
        Flag.Unknown flag := by
  simp only [List.find?_eq_none, Text.mem_pieces_iff, unknownToken_iff,
    flagAt_some_iff]
  constructor
  · rintro hknown ⟨offset, _, ⟨piece, hpiece, rfl⟩, hunknown⟩
    exact hknown piece ⟨offset, hpiece⟩ hunknown
  · rintro hknown piece ⟨offset, hpiece⟩ hunknown
    exact hknown ⟨offset, _, ⟨piece, hpiece, rfl⟩, hunknown⟩

/-- A piece that is a name with blanks around it is a token that stands for what
the name stands for. -/
theorem exists_token_iff {written name : String} {flag : Flag}
    (hname : name ≠ "")
    (hspells : ∀ text, Flag.Spells text flag ↔ text = name) :
    (∃ token ∈ OptionList.tokens written, Flag.ofToken? token = some flag) ↔
      ∃ offset, FlagAt (some written) offset name := by
  have hflag : ∀ token, Flag.ofToken? token = some flag ↔
      Text.trim token = name := fun token =>
    Flag.ofText?_eq_some_iff.trans (hspells _)
  -- Such a piece is not empty, so it is not dropped.
  have hne : ∀ token, Text.trim token = name → token ≠ "" := by
    rintro _ htrim rfl
    exact hname (htrim.symm.trans (by decide))
  simp only [OptionList.mem_tokens_iff, OptionList.TokenAt, flagAt_some_iff,
    hflag]
  constructor
  · rintro ⟨token, ⟨offset, _, hpiece⟩, htrim⟩
    exact ⟨offset, token, hpiece, htrim⟩
  · rintro ⟨offset, token, hpiece, htrim⟩
    exact ⟨token, ⟨offset, hne token htrim, hpiece⟩, htrim⟩

/-- What the first unknown flag makes of a text. -/
theorem ofOptions_eq_error_iff {written : String} {fault : Fault} :
    Config.ofOptions (.ofText (some written)) = .error fault ↔
      ∃ offset flag, FirstUnknownAt (some written) offset flag ∧
        fault = .invalidOption flag := by
  rw [exists_comm]
  simp only [exists_and_right, firstUnknownAt_some_iff]
  cases hfirst : (Text.pieces ',' written).find? Flag.unknownToken with
  | some piece => simp [Config.ofOptions_of_unknown hfirst, eq_comm]
  | none => simp [Config.ofOptions_of_known hfirst]

/-- An accepted text has the settings after all its tokens. -/
theorem eq_after_of_ofOptions_eq_ok {written : String} {config : Config}
    (hok : Config.ofOptions (.ofText (some written)) = .ok config) :
    config = Config.after (OptionList.tokens written) := by
  cases hfirst : (Text.pieces ',' written).find? Flag.unknownToken with
  | some piece =>
      rw [Config.ofOptions_of_unknown hfirst] at hok
      cases hok
  | none =>
      rw [Config.ofOptions_of_known hfirst] at hok
      exact (Except.ok.inj hok).symm

/-- Settings are refused exactly for the first piece of the text that is not
blank and no flag.  Whatever is written elsewhere, and however often, a text
without such a piece is accepted, and what a flag switches off is off exactly if
some piece of the text is that flag. -/
theorem first_unknown_flag_refuses_the_text (text : Option String) :
    let outcome := Config.ofOptions (.ofText text)
    ((∃ fault, outcome = .error fault) ↔
      ∃ offset flag, FlagAt text offset flag ∧ Flag.Unknown flag) ∧
    (∀ fault, outcome = .error fault ↔ ∃ offset flag,
      FirstUnknownAt text offset flag ∧ fault = .invalidOption flag) ∧
    ∀ config, outcome = .ok config →
      (config.dispatch.beanHelpers = false ↔
        ∃ offset, FlagAt text offset "no-bean-helpers") ∧
      (config.dispatch.classificationCache = false ↔
        ∃ offset, FlagAt text offset "no-classification-cache") := by
  intro outcome
  cases text with
  | none =>
      have hok : outcome = .ok .default := rfl
      simp [hok, FirstUnknownAt, not_flagAt_none, Config.default,
        DispatchConfig.default]
  | some written =>
      refine ⟨?_, fun _ => ofOptions_eq_error_iff, ?_⟩
      · cases hfirst : (Text.pieces ',' written).find? Flag.unknownToken with
        | some piece =>
            refine iff_of_true ⟨_, Config.ofOptions_of_unknown hfirst⟩ ?_
            by_contra hnone
            rw [find?_unknownToken_eq_none_iff.mpr hnone] at hfirst
            cases hfirst
        | none =>
            have hok : outcome = _ := Config.ofOptions_of_known hfirst
            rw [hok]
            exact iff_of_false (by simp)
              (find?_unknownToken_eq_none_iff.mp hfirst)
      · intro config hok
        rw [eq_after_of_ofOptions_eq_ok hok, Config.beanHelpers_after,
          Config.classificationCache_after, Config.switched_eq_false_iff,
          Config.switched_eq_false_iff]
        exact ⟨exists_token_iff (by decide) fun _ => Iff.rfl,
          exists_token_iff (by decide) fun _ => Iff.rfl⟩

/-- The least limit of fields that is too large, among other flags. -/
def tooManyFields : String :=
  "dual-fields, max-fields=18446744073709551616,,nope"

/-- The greatest limit of fields, with a sign, after another flag. -/
def mostFields : String :=
  " no-bean-helpers,max-fields=+18446744073709551615"

/-- A limit is refused from 64 bits on, and before that any other unknown
flag. -/
theorem limit_beyond_words_refused_first :
    Config.ofOptions (.ofText (some tooManyFields)) =
        .error (.invalidOption "max-fields=18446744073709551616") ∧
      (∃ offset, FirstUnknownAt (some tooManyFields) offset
        "max-fields=18446744073709551616") ∧
      (¬ ∃ offset flag, FlagAt (some mostFields) offset flag ∧
        Flag.Unknown flag) ∧
      (∃ offset, FlagAt (some mostFields) offset "no-bean-helpers") ∧
      ¬ ∃ offset, FlagAt (some mostFields) offset
        "no-classification-cache" := by
  have hrefused : Config.ofOptions (.ofText (some tooManyFields)) =
      .error (.invalidOption "max-fields=18446744073709551616") := by
    decide +kernel
  have haccepted : Config.ofOptions (.ofText (some mostFields)) =
      .ok ⟨⟨.dual, 18446744073709551615⟩, ⟨false, true⟩⟩ := by
    decide +kernel
  obtain ⟨_, hfirst, _⟩ :=
    first_unknown_flag_refuses_the_text (some tooManyFields)
  obtain ⟨hrefusal, _, hswitched⟩ :=
    first_unknown_flag_refuses_the_text (some mostFields)
  obtain ⟨hbeans, hcache⟩ := hswitched _ haccepted
  refine ⟨hrefused, ?_, ?_, hbeans.mp rfl, hcache.not.mp (by decide)⟩
  · obtain ⟨offset, _, hunknown, hflag⟩ := (hfirst _).mp hrefused
    cases hflag
    exact ⟨offset, hunknown⟩
  · rw [← hrefusal, haccepted]
    rintro ⟨_, hfault⟩
    cases hfault

end ScriptHost
