import ScriptHost.Proofs.Distinct
import ScriptHost.Proofs.Text.Pieces
import ScriptHost.Setting.OptionList

/-!
# The tokens of an option text

The values of an option are the non-empty pieces between the commas of its text,
each once and where it stands first, with the white space around it.  Joined by
commas they are read back as they are, so a list of distinct tokens and its text
are two forms of the same thing.
-/

namespace ScriptHost.OptionList

/-- A token stands in an option text after as many characters as `offset`
says. -/
def TokenAt (text : String) (offset : Nat) (token : String) : Prop :=
  token ≠ "" ∧ Text.PieceAt ',' text offset token

/-- What may be joined by commas and told apart again. -/
def Joinable (tokens : List String) : Prop :=
  tokens.Nodup ∧ ∀ token ∈ tokens, token ≠ "" ∧ ',' ∉ token.toList

variable {text : String}

/-! ## Reading tokens -/

theorem tokens_eq (text : String) :
    tokens text = (Text.pieces ',' text).eraseDups.filter (· ≠ "") :=
  eraseDups_filter _ _

theorem mem_tokens_iff {token : String} :
    token ∈ tokens text ↔ ∃ offset, TokenAt text offset token := by
  rw [tokens, List.mem_eraseDups, List.mem_filter, decide_eq_true_iff,
    Text.mem_pieces_iff, and_comm]
  exact exists_and_left.symm

/-- Of two tokens the one that stands first in the text comes first. -/
theorem pairwise_tokens (text : String) :
    (tokens text).Pairwise fun first second =>
      ∃ offset, TokenAt text offset first ∧
        ∀ other, TokenAt text other second → offset < other := by
  have hpieces := (pairwise_eraseDups (Text.pieces ',' text)).filter (· ≠ "")
  rw [← tokens_eq] at hpieces
  refine hpieces.imp_of_mem ?_
  rintro first second hfirst _ ⟨front, back, hsplit, hsecond⟩
  obtain ⟨_, hne, _⟩ := mem_tokens_iff.mp hfirst
  refine ⟨Text.span front, ⟨hne, Text.pieceAt_span hsplit⟩, ?_⟩
  rintro other ⟨_, hother⟩
  rw [List.append_cons] at hsplit
  calc
    Text.span front < Text.span front + (first.length + 1) :=
      Nat.lt_add_of_pos_right (Nat.succ_pos _)
    _ = Text.span (front ++ [first]) := (Text.span_append front [first]).symm
    _ ≤ other := Text.span_le_of_not_mem hsplit hsecond hother

theorem joinable_tokens (text : String) : Joinable (tokens text) := by
  refine ⟨nodup_eraseDups _, ?_⟩
  intro token htoken
  obtain ⟨offset, hne, hpiece⟩ := mem_tokens_iff.mp htoken
  exact ⟨hne, Text.separator_not_mem_of_mem_pieces
    (Text.mem_pieces_iff.mpr ⟨offset, hpiece⟩)⟩

/-! ## Writing tokens -/

theorem pieces_intercalate {parts : List String} (hparts : parts ≠ [])
    (hclean : ∀ part ∈ parts, ',' ∉ part.toList) :
    Text.pieces ',' (",".intercalate parts) = parts := by
  apply Text.pieces_eq_of_splitOn
  rw [String.toList_intercalate]
  apply List.splitOn_intercalate
  · exact List.forall_mem_map.mpr hclean
  · exact List.map_eq_nil_iff.not.mpr hparts

/-- Tokens that are joined by commas are read back. -/
theorem tokens_intercalate {parts : List String} (hparts : Joinable parts) :
    tokens (",".intercalate parts) = parts := by
  obtain ⟨hdistinct, hclean⟩ := hparts
  by_cases hempty : parts = []
  · rw [hempty]
    decide
  · rw [tokens,
      pieces_intercalate hempty fun part hpart => (hclean part hpart).2,
      List.filter_eq_self.mpr, eraseDups_of_nodup hdistinct]
    intro part hpart
    exact decide_eq_true (hclean part hpart).1

/-- The tokens of an option text are what stands between its commas.  The values
of an option are its tokens, each once and those first that stand first in the
text; the option contains these and nothing else.  The text of the values has
the same values and is written in the same way, and so is any text that joins
distinct tokens. -/
theorem tokens_kept_in_order_and_read_back (text : String) :
    let option := ofText (some text)
    (option.values.Nodup ∧
      (∀ token, token ∈ option.values ↔
        ∃ offset, TokenAt text offset token) ∧
      option.values.Pairwise fun first second =>
        ∃ offset, TokenAt text offset first ∧
          ∀ other, TokenAt text other second → offset < other) ∧
    (∀ token, option.contains token = true ↔
      ∃ offset, TokenAt text offset token) ∧
    ((ofText (some option.text)).values = option.values ∧
      (ofText (some option.text)).text = option.text) ∧
    ∀ parts, Joinable parts →
      (ofText (some (",".intercalate parts))).values = parts ∧
        (ofText (some (",".intercalate parts))).text =
          ",".intercalate parts := by
  intro option
  have hread : ∀ parts, Joinable parts →
      (ofText (some (",".intercalate parts))).values = parts ∧
        (ofText (some (",".intercalate parts))).text =
          ",".intercalate parts := by
    intro parts hparts
    have hvalues : (ofText (some (",".intercalate parts))).values = parts :=
      tokens_intercalate hparts
    exact ⟨hvalues, congrArg _ hvalues⟩
  refine ⟨⟨nodup_eraseDups _, fun _ => mem_tokens_iff,
    pairwise_tokens text⟩, ?_, hread _ (joinable_tokens text), hread⟩
  intro token
  rw [OptionList.contains, List.contains_iff_mem]
  exact mem_tokens_iff

def threeTokens : List String := ["c", "a", " a"]

/-- A token that is written twice counts where it stands first, and empty ones
do not count. -/
theorem repeated_and_empty_tokens_dropped :
    Joinable threeTokens ∧
      (ofText (some "c,a,,c, a")).values = threeTokens ∧
      TokenAt "c,a,,c, a" 0 "c" ∧
      (ofText (some "c,a,,c, a")).contains " a" = true ∧
      (ofText (some (ofText (some "c,a,,c, a")).text)).values = threeTokens ∧
      (ofText (some "c,a, a")).values = threeTokens := by
  obtain ⟨_, hcontains, ⟨hagain, _⟩, hread⟩ :=
    tokens_kept_in_order_and_read_back "c,a,,c, a"
  have hvalues : (ofText (some "c,a,,c, a")).values = threeTokens := by
    decide +kernel
  have hjoinable : Joinable threeTokens := by
    refine ⟨by decide, ?_⟩
    decide +kernel
  have hfirst : Text.pieces ',' "c,a,,c, a" =
      [] ++ "c" :: ["a", "", "c", " a"] := by
    decide +kernel
  have hlast : Text.pieces ',' "c,a,,c, a" =
      ["c", "a", "", "c"] ++ " a" :: [] := by
    decide +kernel
  exact ⟨hjoinable, hvalues, ⟨by decide, Text.pieceAt_span hfirst⟩,
    (hcontains _).mpr ⟨_, by decide, Text.pieceAt_span hlast⟩,
    hagain.trans hvalues, (hread threeTokens hjoinable).1⟩

end ScriptHost.OptionList
