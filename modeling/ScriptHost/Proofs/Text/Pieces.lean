import Mathlib.Data.List.Basic
import Mathlib.Data.List.Induction
import ScriptHost.Text.Pieces

/-!
# Where the pieces of a text stand

The pieces of a text are exactly its maximal runs without the separator, in the
order in which they stand in the text.  A piece is found again by the number of
characters before it, so the first piece of some kind is the one with the fewest
characters before it.
-/

namespace ScriptHost.Text

/-- After as many characters as `offset` says, a text goes on with a run
without the separator that ends of the text or separators enclose. -/
def PieceAt (separator : Char) (text : String) (offset : Nat)
    (piece : String) : Prop :=
  ∃ before after, text.toList = before ++ piece.toList ++ after ∧
    before.length = offset ∧ separator ∉ piece.toList ∧
    (∀ c ∈ before.getLast?, c = separator) ∧
    ∀ c ∈ after.head?, c = separator

/-- The number of characters of some pieces with a separator after each. -/
def span : List String → Nat
  | [] => 0
  | piece :: rest => piece.length + 1 + span rest

variable {separator : Char} {text : String}

/-! ## Cutting and joining -/

theorem pieceChars_eq_splitOn (separator : Char) (cs : List Char) :
    pieceChars separator cs = cs.splitOn separator := by
  induction cs with
  | nil => rfl
  | cons c rest ih =>
      rw [pieceChars, List.splitOn_cons_eq_if_modifyHead, ih]
      simp only [beq_iff_eq]
      split
      · rfl
      · cases hrest : rest.splitOn separator with
        | nil => exact absurd hrest (List.splitOn_ne_nil _ _)
        | cons piece pieces => rfl

theorem map_toList_pieces (separator : Char) (text : String) :
    (pieces separator text).map String.toList =
      text.toList.splitOn separator := by
  rw [pieces, List.map_map, pieceChars_eq_splitOn]
  exact (List.map_congr_left fun _ _ => String.toList_ofList).trans
    (List.map_id _)

theorem pieces_eq_of_splitOn {parts : List String}
    (hparts : text.toList.splitOn separator = parts.map String.toList) :
    pieces separator text = parts := by
  rw [← map_toList_pieces] at hparts
  exact List.map_injective_iff.mpr
    (fun _ _ hsame => String.toList_inj.mp hsame) hparts

theorem separator_not_mem_of_mem_pieceChars {cs piece : List Char}
    (hmem : piece ∈ pieceChars separator cs) : separator ∉ piece := by
  induction cs generalizing piece with
  | nil =>
      rw [List.mem_singleton.mp hmem]
      exact List.not_mem_nil
  | cons c rest ih =>
      rw [pieceChars] at hmem
      split at hmem
      · cases hmem with
        | head => exact List.not_mem_nil
        | tail _ hrest => exact ih hrest
      · rename_i hc
        split at hmem
        · rw [List.mem_singleton.mp hmem]
          simpa [eq_comm] using hc
        · rename_i first others hrest
          rw [hrest] at ih
          cases hmem with
          | head =>
              rw [List.mem_cons, not_or]
              exact ⟨Ne.symm hc, ih List.mem_cons_self⟩
          | tail _ hother => exact ih (List.mem_cons_of_mem _ hother)

/-- The pieces of a text do not contain the separator. -/
theorem separator_not_mem_of_mem_pieces {piece : String}
    (hmem : piece ∈ pieces separator text) : separator ∉ piece.toList := by
  obtain ⟨cs, hcs, rfl⟩ := List.mem_map.mp hmem
  rw [String.toList_ofList]
  exact separator_not_mem_of_mem_pieceChars hcs

theorem span_append (front back : List String) :
    span (front ++ back) = span front + span back := by
  induction front with
  | nil => exact (Nat.zero_add _).symm
  | cons piece rest ih =>
      rw [List.cons_append, span, span, ih, Nat.add_assoc (piece.length + 1)]

theorem length_flatMap_separated (separator : Char) (front : List String) :
    ((front.map String.toList).flatMap (· ++ [separator])).length =
      span front := by
  induction front with
  | nil => rfl
  | cons piece rest ih =>
      rw [List.map_cons, List.flatMap_cons, List.length_append, ih,
        List.length_append, String.length_toList]
      rfl

/-- The pieces take up the whole text, and one more separator. -/
theorem span_map_ofList_splitOn (separator : Char) (cs : List Char) :
    span ((cs.splitOn separator).map String.ofList) = cs.length + 1 := by
  rw [← pieceChars_eq_splitOn]
  induction cs with
  | nil => rfl
  | cons c rest ih =>
      rw [pieceChars]
      split
      · rw [List.map_cons, span, ih, String.length_ofList]
        simp only [List.length_nil, List.length_cons]
        omega
      · cases hrest : pieceChars separator rest with
        | nil => exact absurd hrest (pieceChars_ne_nil _ _)
        | cons piece pieces =>
            rw [hrest, List.map_cons, span, String.length_ofList] at ih
            simp only [List.map_cons, span, String.length_ofList,
              List.length_cons]
            omega

theorem intercalate_cons_eq (separator : Char) (piece : List Char)
    (back : List (List Char)) :
    [separator].intercalate (piece :: back) =
      piece ++ back.flatMap (separator :: ·) := by
  induction back generalizing piece with
  | nil => simp
  | cons next rest ih =>
      rw [List.intercalate_cons_cons, ih, List.flatMap_cons,
        List.append_assoc, List.singleton_append, List.cons_append]

theorem intercalate_append_cons_eq (separator : Char)
    (front : List (List Char)) (piece : List Char) (back : List (List Char)) :
    [separator].intercalate (front ++ piece :: back) =
      front.flatMap (· ++ [separator]) ++ piece ++
        back.flatMap (separator :: ·) := by
  induction front with
  | nil => exact intercalate_cons_eq separator piece back
  | cons first rest ih =>
      have hne : rest ++ piece :: back ≠ [] :=
        List.append_ne_nil_of_right_ne_nil _ (List.cons_ne_nil _ _)
      rw [List.cons_append, List.intercalate_cons_of_ne_nil hne, ih]
      simp

/-! ## Pieces and runs -/

/-- Each piece is a run of the text, after the pieces before it. -/
theorem pieceAt_span {front back : List String} {piece : String}
    (hpieces : pieces separator text = front ++ piece :: back) :
    PieceAt separator text (span front) piece := by
  have hmem : piece ∈ pieces separator text := by
    rw [hpieces]
    exact List.mem_append_right _ List.mem_cons_self
  refine ⟨(front.map String.toList).flatMap (· ++ [separator]),
    (back.map String.toList).flatMap (separator :: ·), ?_, ?_,
    separator_not_mem_of_mem_pieces hmem, ?_, ?_⟩
  · rw [← intercalate_append_cons_eq, ← List.map_cons, ← List.map_append,
      ← hpieces, map_toList_pieces, List.intercalate_splitOn]
  · exact length_flatMap_separated separator front
  · cases front using List.reverseRecOn with
    | nil => simp
    | append_singleton front last => simp
  · cases back <;> simp

/-- A run of the text begins the pieces of what is left from it on. -/
theorem splitOn_of_run {piece after : List Char} (hpiece : separator ∉ piece)
    (hafter : ∀ c ∈ after.head?, c = separator) :
    ∃ back, (piece ++ after).splitOn separator = piece :: back := by
  cases after with
  | nil =>
      rw [List.append_nil]
      exact ⟨[], List.splitOn_eq_singleton hpiece⟩
  | cons c rest =>
      rw [hafter c rfl]
      exact ⟨_, List.splitOn_append_cons_self_of_not_mem hpiece rest⟩

/-- The runs of a text are its pieces, each after those before it. -/
theorem pieceAt_iff {offset : Nat} {piece : String} :
    PieceAt separator text offset piece ↔
      ∃ front back, pieces separator text = front ++ piece :: back ∧
        offset = span front := by
  constructor
  · rintro ⟨before, after, htext, hoffset, hpiece, hbefore, hafter⟩
    obtain ⟨back, hback⟩ := splitOn_of_run hpiece hafter
    cases before using List.reverseRecOn with
    | nil =>
        rw [List.nil_append] at htext
        refine ⟨[], back.map String.ofList, pieces_eq_of_splitOn ?_,
          hoffset.symm⟩
        rw [htext, hback]
        simp [Function.comp_def]
    | append_singleton front last =>
        have hlast : last = separator := hbefore last (by simp)
        have htext : text.toList =
            front ++ separator :: (piece.toList ++ after) := by
          rw [htext, hlast, List.append_assoc, List.append_assoc]
          rfl
        refine ⟨(front.splitOn separator).map String.ofList,
          back.map String.ofList, pieces_eq_of_splitOn ?_, ?_⟩
        · rw [htext, List.splitOn_append_cons_self, hback]
          simp [Function.comp_def]
        · rw [span_map_ofList_splitOn, ← hoffset, List.length_append]
          rfl
  · rintro ⟨front, back, hpieces, rfl⟩
    exact pieceAt_span hpieces

theorem mem_pieces_iff {piece : String} :
    piece ∈ pieces separator text ↔
      ∃ offset, PieceAt separator text offset piece := by
  rw [List.mem_iff_append]
  constructor
  · rintro ⟨front, back, hpieces⟩
    exact ⟨span front, pieceAt_span hpieces⟩
  · rintro ⟨offset, hrun⟩
    obtain ⟨front, back, hpieces, _⟩ := pieceAt_iff.mp hrun
    exact ⟨front, back, hpieces⟩

/-! ## The first of some pieces -/

/-- What is not among the first pieces stands after them. -/
theorem span_le_of_not_mem {front back : List String} {offset : Nat}
    {piece : String} (hpieces : pieces separator text = front ++ back)
    (hpiece : piece ∉ front) (hrun : PieceAt separator text offset piece) :
    span front ≤ offset := by
  obtain ⟨before, after, hsplit, rfl⟩ := pieceAt_iff.mp hrun
  rw [hpieces, List.append_eq_append_iff] at hsplit
  rcases hsplit with ⟨between, rfl, _⟩ | ⟨between, rfl, hbetween⟩
  · rw [span_append]
    exact Nat.le_add_right _ _
  · cases between with
    | nil => exact Nat.le_of_eq (congrArg span (List.append_nil before))
    | cons first rest =>
        rw [List.cons_append, List.cons.injEq] at hbetween
        rw [hbetween.1] at hpiece
        exact absurd (List.mem_append_right _ List.mem_cons_self) hpiece

/-- Only one piece stands at a place. -/
theorem PieceAt.unique {offset : Nat} {left right : String}
    (hleft : PieceAt separator text offset left)
    (hright : PieceAt separator text offset right) : left = right := by
  obtain ⟨front, back, htext, hfront, hpiece, _, hback⟩ := hleft
  obtain ⟨before, after, hsame, hbefore, hother, _, hafter⟩ := hright
  rw [htext, List.append_assoc, List.append_assoc] at hsame
  obtain ⟨_, hrest⟩ := List.append_inj hsame (hfront.trans hbefore.symm)
  obtain ⟨_, hcut⟩ := splitOn_of_run hpiece hback
  obtain ⟨_, hcutAgain⟩ := splitOn_of_run hother hafter
  rw [hrest, hcutAgain] at hcut
  exact String.toList_inj.mp (List.cons.inj hcut).1.symm

/-- Searching the pieces finds the one of its kind with the fewest characters
before it. -/
theorem find?_pieces_eq_some_iff {wanted : String → Bool} {piece : String} :
    (pieces separator text).find? wanted = some piece ↔
      ∃ offset, PieceAt separator text offset piece ∧ wanted piece = true ∧
        ∀ earlier other, PieceAt separator text earlier other →
          wanted other = true → offset ≤ earlier := by
  have hfirst : ∀ found,
      (pieces separator text).find? wanted = some found →
        ∃ offset, PieceAt separator text offset found ∧
          wanted found = true ∧
          ∀ earlier other, PieceAt separator text earlier other →
            wanted other = true → offset ≤ earlier := by
    intro found hfound
    obtain ⟨hwanted, front, back, hpieces, hfront⟩ :=
      List.find?_eq_some_iff_append.mp hfound
    refine ⟨span front, pieceAt_span hpieces, hwanted, ?_⟩
    intro earlier other hrun hother
    refine span_le_of_not_mem hpieces (fun hmem => ?_) hrun
    simpa [hother] using hfront other hmem
  refine ⟨hfirst piece, ?_⟩
  rintro ⟨offset, hrun, hwanted, hleast⟩
  cases hfound : (pieces separator text).find? wanted with
  | none =>
      rw [List.find?_eq_none] at hfound
      exact absurd hwanted (hfound piece (mem_pieces_iff.mpr ⟨offset, hrun⟩))
  | some found =>
      obtain ⟨place, hplace, hkind, hbefore⟩ := hfirst found hfound
      have hsame : place = offset :=
        Nat.le_antisymm (hbefore offset piece hrun hwanted)
          (hleast place found hplace hkind)
      rw [hsame] at hplace
      rw [hplace.unique hrun]

end ScriptHost.Text
