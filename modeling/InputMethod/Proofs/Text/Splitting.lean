import Mathlib.Data.String.Basic
import InputMethod.Text.Lines

/-! # Cutting text at a character

Dictionaries are read from text cut into lines at line feeds, each line cut at its first tab and
its values at spaces. All three are `String.splitOn` with a one-character separator, which this
module reduces to `List.splitOn` on the characters of the text (`splitOn_singleton`): the pieces
are the runs of characters between separators. From it:

* the lines a reader sees are the pieces between line feeds, each without the carriage returns
  that end it, less an empty last piece (`splitOn_map_dropTrailingReturns`);
* a text with a tab is the text before its first tab, the tab and the rest
  (`exists_splitsAtTab`), in one way only (`SplitsAtTab.unique`);
* a key begins a text as characters exactly when its UTF-8 bytes begin the text's bytes
  (`isPrefixOf_iff_bytesBegin`), as the encoding of a character never begins the encoding of
  another.
-/

namespace InputMethod.Text

open String

/-! ## Splitting at one character -/

theorem splitOnAux_singleton (c : Char) (l m r : List Char) (acc : List String) :
    splitOnAux (ofList (l ++ m ++ r)) (singleton c) ⟨utf8Len l⟩ ⟨utf8Len l + utf8Len m⟩ 0 acc =
      acc.reverse ++ (List.splitOnPPrepend (· == c) r m.reverse).map ofList := by
  rw [splitOnAux.eq_def]
  simp only [List.append_assoc, atEnd_iff, rawEndPos_ofList, utf8Len_append, Pos.Raw.mk_le_mk,
    Nat.add_le_add_iff_left, (by omega : utf8Len m + utf8Len r ≤ utf8Len m ↔ utf8Len r = 0),
    utf8Len_eq_zero, List.reverse_cons]
  split
  · subst r
    simpa using extract_of_valid l m []
  · obtain ⟨d, r, rfl⟩ := r.exists_cons_of_ne_nil ‹_›
    have here : Pos.Raw.get (ofList (l ++ (m ++ d :: r))) ⟨utf8Len l + utf8Len m⟩ = d := by
      simpa using get_of_valid (l ++ m) (d :: r)
    have step : Pos.Raw.next (ofList (l ++ (m ++ d :: r))) ⟨utf8Len l + utf8Len m⟩ =
        ⟨utf8Len l + utf8Len m + d.utf8Size⟩ := by
      simpa using next_of_valid (l ++ m) d r
    have separatorHead : Pos.Raw.get (singleton c) 0 = c := by
      simpa using get_of_valid [] [c]
    have separatorStep : Pos.Raw.next (singleton c) 0 = ⟨c.utf8Size⟩ := by
      simpa using next_of_valid [] c []
    have separatorEnd : (singleton c).rawEndPos ≤ ⟨c.utf8Size⟩ := by
      rw [show singleton c = ofList [c] by simp, rawEndPos_ofList]
      simp
    have unshifted : ({ byteIdx := utf8Len l + utf8Len m } : Pos.Raw).unoffsetBy 0 =
        ⟨utf8Len l + utf8Len m⟩ := by
      simp [Pos.Raw.unoffsetBy]
    simp only [here, step, separatorHead, separatorStep, separatorEnd, if_true, unshifted]
    split
    -- a separator: the piece collected so far is emitted and a new one starts after it
    · next same =>
      have same : d = c := by simpa using same
      subst same
      have back : ({ byteIdx := utf8Len l + utf8Len m + d.utf8Size } : Pos.Raw).unoffsetBy
          ⟨d.utf8Size⟩ = ⟨utf8Len l + utf8Len m⟩ := by
        simp [Pos.Raw.unoffsetBy]
      rw [back, ← List.append_assoc, extract_of_valid l m (d :: r)]
      simpa [List.splitOnPPrepend_cons_eq_if, Nat.add_assoc] using
        splitOnAux_singleton d (l ++ m ++ [d]) [] r (ofList m :: acc)
    · next differ =>
      simpa [List.splitOnPPrepend_cons_eq_if, differ, Nat.add_assoc] using
        splitOnAux_singleton c l (m ++ [d]) r acc
termination_by r.length

/-- Splitting at a one-character text splits the characters at that character. -/
theorem splitOn_singleton (s : String) (c : Char) :
    s.splitOn (singleton c) = (s.toList.splitOn c).map ofList := by
  have nonempty : (singleton c == "") = false := by simp
  simpa [splitOn, nonempty, List.splitOn_eq_splitOnP] using
    splitOnAux_singleton c [] [] s.toList []

/-! ## Lines -/

theorem dropTrailingReturns_append_return (l : List Char) :
    dropTrailingReturns (ofList (l ++ ['\r'])) = dropTrailingReturns (ofList l) := by
  simp only [dropTrailingReturns, toList_ofList, List.reverse_append, List.reverse_cons,
    List.reverse_nil, List.nil_append, List.singleton_append, List.dropWhile_cons]
  rfl

theorem dropTrailingReturns_of_line (p : String) :
    dropTrailingReturns (if p.endsWith "\r" then ofList p.toList.dropLast else p) =
      dropTrailingReturns p := by
  split
  · next ends =>
    have returnChars : ("\r" : String).toList = ['\r'] := rfl
    simp only [String.endsWith] at ends
    rw [String.Slice.endsWith_string_iff, returnChars, String.copy_toSlice] at ends
    obtain ⟨front, split⟩ := ends
    replace split := split.symm
    have whole : p = ofList (front ++ ['\r']) := by
      rw [← split, ofList_toList]
    rw [split, List.dropLast_concat, whole, dropTrailingReturns_append_return]
  · rfl

/-- The lines of a text, with trailing carriage returns dropped, are the pieces between its line
    feeds with trailing carriage returns dropped, less at most one empty piece at the end. -/
theorem splitOn_map_dropTrailingReturns (s : String) :
    ∃ tail, (s.splitOn "\n").map dropTrailingReturns = (lines s).map dropTrailingReturns ++ tail ∧
      ∀ line ∈ tail, line = "" := by
  have sameLine : (fun p => dropTrailingReturns
      (if p.endsWith "\r" then ofList p.toList.dropLast else p)) = dropTrailingReturns :=
    funext dropTrailingReturns_of_line
  unfold lines
  simp only [List.map_map, Function.comp_def, sameLine]
  split
  · next endsEmpty =>
    refine ⟨[""], ?_, by simp⟩
    have last : (s.splitOn "\n").getLast? = some "" := by simpa using endsEmpty
    conv_lhs => rw [← List.dropLast_append_getLast? "" last]
    simp [dropTrailingReturns]
  · exact ⟨[], by simp, by simp⟩

/-! ## The first tab of a line -/

def SplitsAtTab (line key rest : String) : Prop :=
  '\t' ∉ key.toList ∧ line = key ++ "\t" ++ rest

theorem toList_splitsAtTab {line key rest : String} (split : SplitsAtTab line key rest) :
    line.toList = key.toList ++ '\t' :: rest.toList := by
  rw [split.2]
  simp

/-- A line splits at its first tab in one way only. -/
theorem SplitsAtTab.unique {line key rest key' rest' : String} (first : SplitsAtTab line key rest)
    (second : SplitsAtTab line key' rest') : key = key' ∧ rest = rest' := by
  have pieces := congrArg (List.splitOn '\t') ((toList_splitsAtTab first).symm.trans
    (toList_splitsAtTab second))
  rw [List.splitOn_append_cons_self_of_not_mem first.1,
    List.splitOn_append_cons_self_of_not_mem second.1, List.cons.injEq] at pieces
  have sameKey : key = key' := String.toList_injective pieces.1
  subst sameKey
  refine ⟨rfl, ?_⟩
  have sameRest := congrArg (List.intercalate ['\t']) pieces.2
  simp only [List.intercalate_splitOn] at sameRest
  exact String.toList_injective sameRest

/-- A line with a tab splits at its first tab. -/
theorem exists_splitsAtTab {line : String} (hasTab : '\t' ∈ line.toList) :
    ∃ key rest, SplitsAtTab line key rest := by
  -- the first tab of the characters, by induction on them
  have firstTab : ∀ chars : List Char, '\t' ∈ chars →
      ∃ before after, chars = before ++ '\t' :: after ∧ '\t' ∉ before := by
    intro chars
    induction chars with
    | nil => simp
    | cons c cs inductionHypothesis =>
      intro member
      by_cases tab : c = '\t'
      · exact ⟨[], cs, by simp [tab], by simp⟩
      · obtain ⟨before, after, split, clean⟩ :=
          inductionHypothesis (by simpa [Ne.symm tab] using member)
        exact ⟨c :: before, after, by simp [split], by simp [clean, Ne.symm tab]⟩
  obtain ⟨before, after, split, clean⟩ := firstTab line.toList hasTab
  refine ⟨ofList before, ofList after, by simpa using clean, ?_⟩
  apply String.toList_injective
  simp [split]

theorem splitOn_tab_of_splitsAtTab {line key rest : String} (split : SplitsAtTab line key rest) :
    line.splitOn "\t" = key :: rest.splitOn "\t" := by
  rw [show ("\t" : String) = singleton '\t' from rfl, splitOn_singleton, splitOn_singleton,
    toList_splitsAtTab split, List.splitOn_append_cons_self_of_not_mem split.1]
  simp

theorem intercalate_splitOn_tab (rest : String) : "\t".intercalate (rest.splitOn "\t") = rest := by
  apply String.toList_injective
  rw [show ("\t" : String) = singleton '\t' from rfl, splitOn_singleton, toList_intercalate]
  simp [Function.comp_def]

theorem splitOn_tab_of_not_mem {line : String} (noTab : '\t' ∉ line.toList) :
    line.splitOn "\t" = [line] := by
  rw [show ("\t" : String) = singleton '\t' from rfl, splitOn_singleton,
    List.splitOn_eq_singleton noTab]
  simp

/-! ## Beginnings in bytes -/

def BytesBegin (key text : String) : Prop :=
  ∃ rest : ByteArray, key.toByteArray ++ rest = text.toByteArray

/-- A key begins a text, as characters, exactly when its bytes begin the text's bytes. -/
theorem isPrefixOf_iff_bytesBegin (key text : String) :
    key.isPrefixOf text = true ↔ BytesBegin key text := by
  rw [isPrefixOf, startsWith_string_iff]
  constructor
  · rintro ⟨rest, split⟩
    refine ⟨rest.utf8Encode, ?_⟩
    rw [← utf8Encode_toList, ← utf8Encode_toList, ← split, List.utf8Encode_append]
  · rintro ⟨rest, split⟩
    rw [← utf8Encode_toList, ← utf8Encode_toList] at split
    exact List.isPrefix_of_utf8Encode_append_eq_utf8Encode rest split

end InputMethod.Text
