import Mathlib.Data.List.Induction
import ScriptHost.Proofs.Distinct
import ScriptHost.Setting.Config

/-!
# Which flag decides a setting

Flags are applied in the order of the tokens, so of the tokens that name a
setting the last one decides.  A token that was written before is dropped,
however, and it is the earlier one of the two that stays.  So what decides is
the last token that names the setting and is new in the text: writing a flag
again does not bring it back.
-/

namespace ScriptHost

/-! ## The last of the new elements -/

section

variable {α β : Type}

/-- The last element of a list that names something gives it a value. -/
def LastNames (names : α → Option β) (list : List α) (value : β) : Prop :=
  ∃ front a back, list = front ++ a :: back ∧ names a = some value ∧
    ∀ later ∈ back, names later = none

/-- The last element that names something and does not stand earlier in the
list gives it a value. -/
def LastNewNames (names : α → Option β) (list : List α) (value : β) : Prop :=
  ∃ front a back, list = front ++ a :: back ∧ a ∉ front ∧
    names a = some value ∧
    ∀ later ∈ back, names later ≠ none → later ∈ front ∨ later = a

theorem lastNames_iff {names : α → Option β} {list : List α} {value : β} :
    LastNames names list value ↔
      (list.filterMap names).getLast? = some value := by
  rw [List.getLast?_eq_some_iff]
  constructor
  · rintro ⟨front, a, back, rfl, hvalue, hback⟩
    refine ⟨front.filterMap names, ?_⟩
    rw [List.filterMap_append, List.filterMap_cons_some hvalue,
      List.filterMap_eq_nil_iff.mpr hback]
  · rintro ⟨values, hvalues⟩
    obtain ⟨first, second, rfl, _, hsecond⟩ :=
      List.filterMap_eq_append_iff.mp hvalues
    obtain ⟨silent, a, back, rfl, _, hvalue, hback⟩ :=
      List.filterMap_eq_cons_iff.mp hsecond
    exact ⟨first ++ silent, a, back, (List.append_assoc ..).symm, hvalue,
      List.filterMap_eq_nil_iff.mp hback⟩

/-- A list with an element at its end is split there or before. -/
theorem concat_eq_split {list front back : List α} {last a : α}
    (hsplit : list ++ [last] = front ++ a :: back) :
    (list = front ∧ last = a) ∨
      ∃ rest, back = rest ++ [last] ∧ list = front ++ a :: rest := by
  cases back using List.reverseRecOn with
  | nil =>
      obtain ⟨hlist, hlast⟩ := List.append_inj' hsplit rfl
      exact .inl ⟨hlist, List.singleton_inj.mp hlast⟩
  | append_singleton rest other =>
      rw [← List.cons_append, ← List.append_assoc] at hsplit
      obtain ⟨hlist, hlast⟩ := List.append_inj' hsplit rfl
      rw [List.singleton_inj.mp hlast]
      exact .inr ⟨rest, rfl, hlist⟩

/-- An element at the end changes nothing if it names nothing or stands earlier
in the list. -/
theorem lastNewNames_concat_of_old {names : α → Option β} {list : List α}
    {last : α} (hold : names last ≠ none → last ∈ list) {value : β} :
    LastNewNames names (list ++ [last]) value ↔
      LastNewNames names list value := by
  constructor
  · rintro ⟨front, a, back, hsplit, hnew, hvalue, hback⟩
    cases concat_eq_split hsplit with
    | inl hend =>
        obtain ⟨rfl, rfl⟩ := hend
        have hnames : names last ≠ none := by simp [hvalue]
        exact absurd (hold hnames) hnew
    | inr hearlier =>
        obtain ⟨rest, rfl, rfl⟩ := hearlier
        refine ⟨front, a, rest, rfl, hnew, hvalue, ?_⟩
        intro later hlater
        exact hback later (List.mem_append_left _ hlater)
  · rintro ⟨front, a, back, rfl, hnew, hvalue, hback⟩
    refine ⟨front, a, back ++ [last], by simp, hnew, hvalue, ?_⟩
    intro later hlater hnames
    cases List.mem_append.mp hlater with
    | inl hbefore => exact hback later hbefore hnames
    | inr hend =>
        rw [List.mem_singleton.mp hend] at hnames ⊢
        cases List.mem_append.mp (hold hnames) with
        | inl hfront => exact .inl hfront
        | inr hrest =>
            cases List.mem_cons.mp hrest with
            | inl hself => exact .inr hself
            | inr hbefore => exact hback last hbefore hnames

/-- A new element at the end that names something decides. -/
theorem lastNewNames_concat_of_new {names : α → Option β} {list : List α}
    {last : α} (hnew : last ∉ list) {named : β}
    (hnamed : names last = some named) {value : β} :
    LastNewNames names (list ++ [last]) value ↔ named = value := by
  constructor
  · rintro ⟨front, a, back, hsplit, _, hvalue, hback⟩
    cases concat_eq_split hsplit with
    | inl hend =>
        rw [← hend.2, hnamed] at hvalue
        exact Option.some.inj hvalue
    | inr hearlier =>
        obtain ⟨rest, rfl, rfl⟩ := hearlier
        have hend : last ∈ rest ++ [last] := by simp
        have hearlier := hback last hend (by simp [hnamed])
        exact absurd (by simpa using hearlier.imp_right .inl) hnew
  · rintro rfl
    exact ⟨list, last, [], rfl, hnew, hnamed, by simp⟩

variable [DecidableEq α]

/-- When repetitions are erased, the last new element that names something is
the last one that does. -/
theorem lastNewNames_iff {names : α → Option β} {list : List α} {value : β} :
    LastNewNames names list value ↔
      (list.eraseDups.filterMap names).getLast? = some value := by
  induction list using List.reverseRecOn with
  | nil => simp [LastNewNames]
  | append_singleton list last ih =>
      rw [eraseDups_concat]
      by_cases hlast : last ∈ list
      · rw [if_pos hlast, ← ih]
        exact lastNewNames_concat_of_old fun _ => hlast
      · rw [if_neg hlast, List.filterMap_append]
        cases hnamed : names last with
        | none =>
            rw [List.filterMap_cons_none hnamed, List.filterMap_nil,
              List.append_nil, ← ih]
            exact lastNewNames_concat_of_old fun hnames => absurd hnamed hnames
        | some named =>
            rw [List.filterMap_cons_some hnamed, List.filterMap_nil,
              List.getLast?_concat, Option.some.injEq]
            exact lastNewNames_concat_of_new hlast hnamed

theorem getLast?_eraseDups_eq_none_iff (names : α → Option β)
    (list : List α) :
    (list.eraseDups.filterMap names).getLast? = none ↔
      (list.filterMap names).getLast? = none := by
  simp only [List.getLast?_eq_none_iff, List.filterMap_eq_nil_iff,
    List.mem_eraseDups]

/-- Erasing repetitions leaves alone what only one value is named for. -/
theorem getLast?_eraseDups_of_one_value {names : α → Option β} {only : β}
    (honly : ∀ a value, names a = some value → value = only) (list : List α) :
    (list.eraseDups.filterMap names).getLast? =
      (list.filterMap names).getLast? := by
  have hlast : ∀ (list : List α) value,
      (list.filterMap names).getLast? = some value → value = only := by
    intro list value hvalue
    obtain ⟨a, _, hnames⟩ :=
      List.mem_filterMap.mp (List.mem_of_getLast? hvalue)
    exact honly a value hnames
  cases hlater : (list.filterMap names).getLast? with
  | none => exact (getLast?_eraseDups_eq_none_iff names list).mpr hlater
  | some value =>
      cases hnew : (list.eraseDups.filterMap names).getLast? with
      | none =>
          rw [(getLast?_eraseDups_eq_none_iff names list).mp hnew] at hlater
          cases hlater
      | some other => rw [hlast _ _ hlater, hlast _ _ hnew]

/-- Whether repetitions are erased makes no difference to what was named last,
or a default if nothing was, exactly if the last new element that names
something names the same as the last one that does. -/
theorem getD_getLast?_eraseDups_iff (names : α → Option β) (list : List α)
    (default : β) :
    (list.eraseDups.filterMap names).getLast?.getD default =
        (list.filterMap names).getLast?.getD default ↔
      ∀ value, LastNewNames names list value ↔ LastNames names list value := by
  simp only [lastNewNames_iff, lastNames_iff, ← Option.ext_iff]
  have hnone := getLast?_eraseDups_eq_none_iff names list
  cases hnew : (list.eraseDups.filterMap names).getLast? with
  | none =>
      rw [hnone.mp hnew]
      exact iff_of_true rfl rfl
  | some value =>
      cases hlast : (list.filterMap names).getLast? with
      | none =>
          rw [hnone.mpr hlast] at hnew
          cases hnew
      | some other => rw [Option.getD_some, Option.getD_some, Option.some.injEq]

end

/-! ## Settings after flags -/

namespace Flag

/-- The flag that a token stands for, white space around it left aside. -/
def ofToken? (token : String) : Option Flag :=
  ofText? (Text.trim token)

def mode? : Flag → Option FieldMode
  | fields mode => some mode
  | _ => none

def limit? : Flag → Option Nat
  | maxFields limit => some limit
  | _ => none

/-- What a flag tells about a setting that only one flag switches off. -/
def switched? (off flag : Flag) : Option Bool :=
  if flag = off then some false else none

/-- What is read off the flag of a token. -/
def readToken? {β : Type} (read : Flag → Option β) (token : String) :
    Option β :=
  (ofToken? token).bind read

/-- What one flag switches off no token switches on. -/
theorem eq_false_of_switched (off : Flag) (token : String) (value : Bool)
    (hvalue : readToken? (switched? off) token = some value) :
    value = false := by
  obtain ⟨flag, _, hflag⟩ := Option.bind_eq_some_iff.mp hvalue
  rw [switched?] at hflag
  by_cases hoff : flag = off
  · rw [if_pos hoff] at hflag
    exact (Option.some.inj hflag).symm
  · rw [if_neg hoff] at hflag
    cases hflag

end Flag

/-- The non-empty pieces of a text in order, repeated ones included. -/
def OptionList.written (text : String) : List String :=
  (Text.pieces ',' text).filter (· ≠ "")

namespace Config

/-- The default settings after the flags of all tokens, in order. -/
def after (tokens : List String) : Config :=
  (tokens.filterMap Flag.ofToken?).foldl apply default

theorem applyToken_of_flag {token : String} {flag : Flag}
    (hflag : Flag.ofToken? token = some flag) (config : Config) :
    applyToken config token = .ok (config.apply flag) := by
  rw [Flag.ofToken?] at hflag
  simp only [applyToken, hflag]

theorem foldlM_applyToken {tokens : List String}
    (hknown : ∀ token ∈ tokens, ∃ flag, Flag.ofToken? token = some flag)
    (config : Config) :
    tokens.foldlM applyToken config =
      .ok ((tokens.filterMap Flag.ofToken?).foldl apply config) := by
  induction tokens generalizing config with
  | nil => rfl
  | cons token rest ih =>
      rw [List.forall_mem_cons] at hknown
      obtain ⟨⟨flag, hflag⟩, hrest⟩ := hknown
      rw [List.foldlM_cons, applyToken_of_flag hflag,
        List.filterMap_cons_some hflag, List.foldl_cons]
      exact ih hrest (config.apply flag)

theorem ofOptions_eq_after {text : String}
    (hknown : ∀ token ∈ OptionList.written text,
      ∃ flag, Flag.ofToken? token = some flag) :
    ofOptions (.ofText (some text)) =
      .ok (after (OptionList.written text).eraseDups) := by
  apply foldlM_applyToken
  intro token htoken
  exact hknown token (List.mem_eraseDups.mp htoken)

/-- A setting that flags change in one way only has the value that was read
last. -/
theorem setting_after {β : Type} (setting : Config → β)
    (read : Flag → Option β)
    (hread : ∀ config flag,
      setting (apply config flag) = (read flag).getD (setting config))
    (tokens : List String) :
    setting (after tokens) =
      (tokens.filterMap (Flag.readToken? read)).getLast?.getD
        (setting default) := by
  have hfold : ∀ flags : List Flag, setting (flags.foldl apply default) =
      (flags.filterMap read).getLast?.getD (setting default) := by
    intro flags
    induction flags using List.reverseRecOn with
    | nil => rfl
    | append_singleton flags flag ih =>
        rw [List.foldl_append, List.foldl_cons, List.foldl_nil, hread, ih,
          List.filterMap_append]
        cases hflag : read flag <;> simp [hflag]
  rw [after, hfold, List.filterMap_filterMap]
  rfl

theorem eq_iff {left right : Config} :
    left = right ↔
      left.layouts.defaultMode = right.layouts.defaultMode ∧
        left.layouts.maxFields = right.layouts.maxFields ∧
        left.dispatch.beanHelpers = right.dispatch.beanHelpers ∧
        left.dispatch.classificationCache =
          right.dispatch.classificationCache := by
  obtain ⟨⟨leftMode, leftFields⟩, ⟨leftBeans, leftCache⟩⟩ := left
  obtain ⟨⟨rightMode, rightFields⟩, ⟨rightBeans, rightCache⟩⟩ := right
  simp [and_assoc]

theorem defaultMode_after (tokens : List String) :
    (after tokens).layouts.defaultMode =
      (tokens.filterMap (Flag.readToken? Flag.mode?)).getLast?.getD .dual :=
  setting_after (·.layouts.defaultMode) Flag.mode?
    (fun _ flag => by cases flag <;> rfl) tokens

theorem maxFields_after (tokens : List String) :
    (after tokens).layouts.maxFields =
      (tokens.filterMap (Flag.readToken? Flag.limit?)).getLast?.getD
        Shape.defaultLimit :=
  setting_after (·.layouts.maxFields) Flag.limit?
    (fun _ flag => by cases flag <;> rfl) tokens

theorem beanHelpers_after (tokens : List String) :
    (after tokens).dispatch.beanHelpers =
      (tokens.filterMap
        (Flag.readToken? (Flag.switched? .noBeanHelpers))).getLast?.getD
          true :=
  setting_after (·.dispatch.beanHelpers) (Flag.switched? .noBeanHelpers)
    (fun _ flag => by cases flag <;> rfl) tokens

theorem classificationCache_after (tokens : List String) :
    (after tokens).dispatch.classificationCache =
      (tokens.filterMap
        (Flag.readToken? (Flag.switched? .noClassificationCache))).getLast?.getD
          true :=
  setting_after (·.dispatch.classificationCache)
    (Flag.switched? .noClassificationCache)
    (fun _ flag => by cases flag <;> rfl) tokens

end Config

/-- Erasing repetitions changes the settings unless the last new token that
names a mode, or a limit of fields, names the same as the last one does. -/
theorem Config.after_eraseDups_eq_iff (tokens : List String) :
    after tokens.eraseDups = after tokens ↔
      (∀ mode, LastNewNames (Flag.readToken? Flag.mode?) tokens mode ↔
        LastNames (Flag.readToken? Flag.mode?) tokens mode) ∧
      ∀ limit, LastNewNames (Flag.readToken? Flag.limit?) tokens limit ↔
        LastNames (Flag.readToken? Flag.limit?) tokens limit := by
  have hbeans : (after tokens.eraseDups).dispatch.beanHelpers =
      (after tokens).dispatch.beanHelpers := by
    rw [beanHelpers_after, beanHelpers_after,
      getLast?_eraseDups_of_one_value
        (Flag.eq_false_of_switched .noBeanHelpers)]
  have hcache : (after tokens.eraseDups).dispatch.classificationCache =
      (after tokens).dispatch.classificationCache := by
    rw [classificationCache_after, classificationCache_after,
      getLast?_eraseDups_of_one_value
        (Flag.eq_false_of_switched .noClassificationCache)]
  rw [eq_iff, defaultMode_after, defaultMode_after, maxFields_after,
    maxFields_after, getD_getLast?_eraseDups_iff, getD_getLast?_eraseDups_iff]
  exact and_congr_right' (and_iff_left ⟨hbeans, hcache⟩)

/-- A flag that is written again does not override what came in between.

If all tokens of a text are known, the settings are the default ones after the
tokens that are new in the text, in order: the mode and the limit of fields are
those that the last new token that names one names.  These are the settings
after all tokens, in order, exactly if for both settings the last new token that
names one names the same as the last one that does. -/
theorem flag_written_again_does_not_override {text : String}
    (hknown : ∀ token ∈ OptionList.written text,
      ∃ flag, Flag.ofToken? token = some flag) :
    ∃ config, Config.ofOptions (.ofText (some text)) = .ok config ∧
      config = Config.after (OptionList.written text).eraseDups ∧
      (∀ mode, LastNewNames (Flag.readToken? Flag.mode?)
        (OptionList.written text) mode → config.layouts.defaultMode = mode) ∧
      (∀ limit, LastNewNames (Flag.readToken? Flag.limit?)
        (OptionList.written text) limit → config.layouts.maxFields = limit) ∧
      (config = Config.after (OptionList.written text) ↔
        (∀ mode,
          LastNewNames (Flag.readToken? Flag.mode?)
              (OptionList.written text) mode ↔
            LastNames (Flag.readToken? Flag.mode?)
              (OptionList.written text) mode) ∧
        ∀ limit,
          LastNewNames (Flag.readToken? Flag.limit?)
              (OptionList.written text) limit ↔
            LastNames (Flag.readToken? Flag.limit?)
              (OptionList.written text) limit) := by
  refine ⟨_, Config.ofOptions_eq_after hknown, rfl, ?_, ?_, ?_⟩
  · intro mode hmode
    rw [Config.defaultMode_after, lastNewNames_iff.mp hmode]
    rfl
  · intro limit hlimit
    rw [Config.maxFields_after, lastNewNames_iff.mp hlimit]
    rfl
  · exact Config.after_eraseDups_eq_iff (OptionList.written text)

/-! ## A flag written before and after the opposite one -/

def singleAgain : String := "single-fields,dual-fields,single-fields"

theorem singleAgain_known :
    ∀ token ∈ OptionList.written singleAgain,
      ∃ flag, Flag.ofToken? token = some flag := by
  have hwritten : OptionList.written singleAgain =
      ["single-fields", "dual-fields", "single-fields"] := by decide +kernel
  intro token htoken
  rw [hwritten] at htoken
  simp only [List.mem_cons, List.not_mem_nil, or_false] at htoken
  rcases htoken with rfl | rfl | rfl
  · exact ⟨.fields .single, by decide +kernel⟩
  · exact ⟨.fields .dual, by decide +kernel⟩
  · exact ⟨.fields .single, by decide +kernel⟩

theorem singleAgain_leaves_dual_fields :
    Config.ofOptions (.ofText (some singleAgain)) = .ok .default ∧
      LastNames (Flag.readToken? Flag.mode?)
        (OptionList.written singleAgain) .single ∧
      ¬ LastNewNames (Flag.readToken? Flag.mode?)
        (OptionList.written singleAgain) .single := by
  obtain ⟨config, hok, hconfig, hmode, _⟩ :=
    flag_written_again_does_not_override singleAgain_known
  have hdefault : config = .default := by
    rw [hconfig]
    decide +kernel
  rw [hdefault] at hok hmode
  refine ⟨hok, ?_, ?_⟩
  · rw [lastNames_iff]
    decide +kernel
  · intro hsingle
    cases hmode .single hsingle

/-- Later flags do not override earlier ones in general: the last flag of the
text asks for single fields, and the settings are left with dual ones. -/
theorem later_flags_do_not_always_override :
    ¬ ∀ text : String,
      (∀ token ∈ OptionList.written text,
        ∃ flag, Flag.ofToken? token = some flag) →
      Config.ofOptions (.ofText (some text)) =
        .ok (Config.after (OptionList.written text)) := by
  intro hoverride
  have hsingle := hoverride singleAgain singleAgain_known
  revert hsingle
  decide +kernel

end ScriptHost
