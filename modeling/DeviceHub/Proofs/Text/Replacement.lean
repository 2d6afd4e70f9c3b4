import DeviceHub.Text.Search
import Mathlib.Data.List.Infix

/-
  Replacing every occurrence of a text.

  Occurrences are met from left to right, so a text is a row
  of occurrences and of characters with which none begins.
  What holds of a replacement is proved along that row.

  Key definitions include:
    * `Text.Pieces`
    * `Text.Replaced`

  Main statements:
    * `Text.occurrence_induct`
    * `Text.count_replaceChars`
    * `Text.splitOn_replaceChars`
    * `Text.exists_pieces`
    * `Text.replaceChars_inj`
-/

namespace DeviceHub

namespace Text

variable {pat new cs rest : List Char}

------------------------------------------------------------
-- Occurrences
------------------------------------------------------------

theorem cutPrefix?_eq_some_iff :
    cutPrefix? pat cs = some rest ↔ cs = pat ++ rest := by
  induction pat generalizing cs with
  | nil =>
      unfold cutPrefix?
      rw [Option.some.injEq, List.nil_append]
  | cons p ps ih =>
      cases cs with
      | nil =>
          unfold cutPrefix?
          exact iff_of_false nofun nofun
      | cons c cs =>
          unfold cutPrefix?
          rw [List.cons_append, List.cons.injEq]
          by_cases hSame : p = c
          · rw [if_pos hSame, ih,
              and_iff_right hSame.symm]
          · rw [if_neg hSame]
            exact iff_of_false nofun
              fun h => hSame h.1.symm

theorem cutPrefix?_eq_none_iff :
    cutPrefix? pat cs = none ↔ ¬ pat <+: cs := by
  rw [Option.eq_none_iff_forall_ne_some]
  simp only [ne_eq, cutPrefix?_eq_some_iff]
  constructor
  · rintro hNone ⟨rest, rfl⟩
    exact hNone rest rfl
  · rintro hNot rest rfl
    exact hNot (List.prefix_append pat rest)

/- To skip characters is to leave them out. -/
theorem replaceChars_skip
    (pat new : List Char)
    (skip : Nat)
    (cs : List Char) :
    replaceChars pat new skip cs =
      replaceChars pat new 0 (cs.drop skip) := by
  induction cs generalizing skip with
  | nil =>
      rw [List.drop_nil]
      rfl
  | cons c rest ih =>
      cases skip with
      | zero => rfl
      | succ n => exact ih n

/- An occurrence is replaced. -/
theorem replaceChars_append
    (hPat : pat ≠ [])
    (new rest : List Char) :
    replaceChars pat new 0 (pat ++ rest) =
      new ++ replaceChars pat new 0 rest := by
  cases pat with
  | nil => exact absurd rfl hPat
  | cons p ps =>
      rw [List.cons_append, replaceChars,
        cutPrefix?_eq_some_iff.2 (List.cons_append ..).symm,
        replaceChars_skip]
      simp

/- A character with which no occurrence begins is kept. -/
theorem replaceChars_cons
    {c : Char}
    (hNot : ¬ pat <+: c :: rest)
    (new : List Char) :
    replaceChars pat new 0 (c :: rest) =
      c :: replaceChars pat new 0 rest := by
  rw [replaceChars, cutPrefix?_eq_none_iff.2 hNot]

/-
  A text has a property if it is handed on over occurrences
  and over characters with which none begins.
-/
@[elab_as_elim]
theorem occurrence_induct
    (hPat : pat ≠ [])
    {P : List Char → Prop}
    (nil : P [])
    (found : ∀ rest, P rest → P (pat ++ rest))
    (kept : ∀ c rest, ¬ pat <+: c :: rest →
      P rest → P (c :: rest))
    (cs : List Char) : P cs := by
  induction hLength : cs.length using Nat.strong_induction_on
    generalizing cs with
  | h n ih =>
      by_cases hPrefix : pat <+: cs
      · rcases hPrefix with ⟨rest, rfl⟩
        have hLess : rest.length < n := by
          rw [← hLength, List.length_append]
          have := List.length_pos_of_ne_nil hPat
          omega
        exact found rest (ih _ hLess rest rfl)
      · cases cs with
        | nil => exact nil
        | cons c rest =>
            have hLess : rest.length < n := by
              rw [← hLength, List.length_cons]
              exact Nat.lt_succ_self _
            exact kept c rest hPrefix (ih _ hLess rest rfl)

------------------------------------------------------------
-- Single Characters
------------------------------------------------------------

/- A character of neither text occurs as often as before. -/
theorem count_replaceChars
    (hPat : pat ≠ [])
    {x : Char}
    (hOld : x ∉ pat)
    (hNew : x ∉ new)
    (cs : List Char) :
    (replaceChars pat new 0 cs).count x = cs.count x := by
  induction cs using occurrence_induct hPat with
  | nil => rfl
  | found rest ih =>
      rw [replaceChars_append hPat, List.count_append,
        List.count_append, ih, List.count_eq_zero_of_not_mem
        hOld, List.count_eq_zero_of_not_mem hNew]
  | kept c rest hNot ih =>
      rw [replaceChars_cons hNot, List.count_cons,
        List.count_cons, ih]

/- Characters before the first separator go to the first part. -/
theorem splitOn_append
    {x : Char}
    (hNot : x ∉ cs)
    (rest : List Char) :
    (cs ++ rest).splitOn x =
      (rest.splitOn x).modifyHead (cs ++ ·) := by
  induction cs with
  | nil =>
      cases h : rest.splitOn x with
      | nil => exact absurd h (List.splitOn_ne_nil x rest)
      | cons head tail => simp [h]
  | cons c cs ih =>
      rw [List.mem_cons, not_or] at hNot
      have hBeq : (c == x) = false :=
        beq_false_of_ne (Ne.symm hNot.1)
      rw [List.cons_append, List.splitOn_cons_eq_if_modifyHead,
        hBeq, ih hNot.2, List.modifyHead_modifyHead]
      rfl

theorem prefix_intercalate
    (sep piece : List Char)
    (pieces : List (List Char)) :
    piece <+: sep.intercalate (piece :: pieces) := by
  cases pieces with
  | nil => rw [List.intercalate_singleton]
  | cons next pieces =>
      rw [List.intercalate_cons_cons, List.append_assoc]
      exact List.prefix_append piece _

/- The first part is what the text begins with. -/
theorem prefix_of_splitOn
    {x : Char}
    {head : List Char}
    {tail : List (List Char)}
    (hSplit : cs.splitOn x = head :: tail) :
    head <+: cs := by
  have hJoined : [x].intercalate (cs.splitOn x) = cs :=
    List.intercalate_splitOn x
  rw [← hJoined, hSplit]
  exact prefix_intercalate [x] head tail

/-
  If neither text has a separator, each part of a text is
  replaced by itself.
-/
theorem splitOn_replaceChars
    (hPat : pat ≠ [])
    {x : Char}
    (hOld : x ∉ pat)
    (hNew : x ∉ new)
    (cs : List Char) :
    (replaceChars pat new 0 cs).splitOn x =
      (cs.splitOn x).map (replaceChars pat new 0) := by
  induction cs using occurrence_induct hPat with
  | nil => rfl
  | found rest ih =>
      rw [replaceChars_append hPat, splitOn_append hNew,
        splitOn_append hOld, ih]
      cases rest.splitOn x with
      | nil => rfl
      | cons head tail =>
          simp only [List.map_cons, List.modifyHead_cons,
            replaceChars_append hPat]
  | kept c rest hNot ih =>
      rw [replaceChars_cons hNot,
        List.splitOn_cons_eq_if_modifyHead,
        List.splitOn_cons_eq_if_modifyHead, ih]
      by_cases hSame : (c == x) = true
      · rw [if_pos hSame, if_pos hSame]
        rfl
      · rw [if_neg hSame, if_neg hSame]
        cases hSplit : rest.splitOn x with
        | nil => rfl
        | cons head tail =>
            -- An occurrence in the part would be one in the
            -- whole text.
            have hPart : ¬ pat <+: c :: head := by
              intro hPrefix
              refine hNot (hPrefix.trans ?_)
              exact List.cons_prefix_cons.2
                ⟨rfl, prefix_of_splitOn hSplit⟩
            simp only [List.map_cons, List.modifyHead_cons,
              replaceChars_cons hPart]

------------------------------------------------------------
-- Pieces
------------------------------------------------------------

/-
  What stands before, between and after the occurrences of a
  text, with no occurrence inside.
-/
structure Pieces
    (pat cs : List Char)
    (pieces : List (List Char)) : Prop where
  some : pieces ≠ []
  apart : ∀ piece ∈ pieces, ¬ pat <:+: piece
  joined : pat.intercalate pieces = cs

theorem intercalate_cons_head
    {sep piece : List Char}
    {c : Char}
    {pieces : List (List Char)} :
    sep.intercalate ((c :: piece) :: pieces) =
      c :: sep.intercalate (piece :: pieces) := by
  cases pieces with
  | nil => simp
  | cons next pieces => simp

/- How long the pieces become, whatever joins them. -/
theorem length_intercalate
    {pieces : List (List Char)}
    (hSome : pieces ≠ []) :
    ∃ kept, ∀ sep : List Char,
      (sep.intercalate pieces).length =
        kept + (pieces.length - 1) * sep.length := by
  induction pieces with
  | nil => exact absurd rfl hSome
  | cons piece pieces ih =>
      cases pieces with
      | nil => exact ⟨piece.length, fun sep => by simp⟩
      | cons next pieces =>
          rcases ih (List.cons_ne_nil _ _) with ⟨kept, hKept⟩
          refine ⟨piece.length + kept, fun sep => ?_⟩
          rw [List.intercalate_cons_cons, List.length_append,
            List.length_append, hKept]
          simp only [List.length_cons, Nat.add_sub_cancel,
            Nat.succ_mul]
          omega

/-
  A replacement joins the pieces of a text with the new text
  instead of the old one.
-/
theorem exists_pieces
    (hPat : pat ≠ [])
    (cs : List Char) :
    ∃ pieces, Pieces pat cs pieces ∧
      ∀ new, replaceChars pat new 0 cs =
        new.intercalate pieces := by
  induction cs using occurrence_induct hPat with
  | nil =>
      refine ⟨[[]], ⟨List.cons_ne_nil _ _, ?_, rfl⟩,
        fun new => rfl⟩
      intro piece hMem hInfix
      rw [List.mem_singleton.1 hMem] at hInfix
      exact hPat (List.infix_nil.1 hInfix)
  | found rest ih =>
      rcases ih with ⟨pieces, hPieces, hEach⟩
      refine ⟨[] :: pieces, ⟨List.cons_ne_nil _ _, ?_, ?_⟩, ?_⟩
      · intro piece hMem
        rcases List.mem_cons.1 hMem with rfl | hMem
        · exact fun hInfix => hPat (List.infix_nil.1 hInfix)
        · exact hPieces.apart piece hMem
      · rw [List.intercalate_cons_of_ne_nil hPieces.some,
          hPieces.joined, List.nil_append]
      · intro new
        rw [replaceChars_append hPat, hEach,
          List.intercalate_cons_of_ne_nil hPieces.some,
          List.nil_append]
  | kept c rest hNot ih =>
      rcases ih with ⟨pieces, hPieces, hEach⟩
      cases pieces with
      | nil => exact absurd rfl hPieces.some
      | cons piece pieces =>
          refine ⟨(c :: piece) :: pieces,
            ⟨List.cons_ne_nil _ _, ?_, ?_⟩, fun new => ?_⟩
          · intro other hMem hInfix
            rcases List.mem_cons.1 hMem with rfl | hMem
            · rcases List.infix_cons_iff.1 hInfix with
                hPrefix | hInfix
              · -- It would be one in the whole text.
                refine hNot (hPrefix.trans ?_)
                rw [← hPieces.joined, List.cons_prefix_cons]
                exact ⟨rfl,
                  prefix_intercalate pat piece pieces⟩
              · exact hPieces.apart piece
                  List.mem_cons_self hInfix
            · exact hPieces.apart other
                (List.mem_cons_of_mem piece hMem) hInfix
          · rw [intercalate_cons_head, hPieces.joined]
          · rw [replaceChars_cons hNot, hEach,
              intercalate_cons_head]

/- A text with another one in place of each occurrence. -/
def Replaced
    (pat new before after : String) : Prop :=
  ∃ pieces, Pieces pat.toList before.toList pieces ∧
    after.toList = new.toList.intercalate pieces

theorem replaced_ofList
    {pat : String}
    (hPat : pat.toList ≠ [])
    (new : String)
    (cs : List Char) :
    Replaced pat new (String.ofList cs)
      (String.ofList
        (replaceChars pat.toList new.toList 0 cs)) := by
  rcases exists_pieces hPat cs with ⟨pieces, hPieces, hEach⟩
  refine ⟨pieces, ?_, ?_⟩
  · rw [String.toList_ofList]
    exact hPieces
  · rw [String.toList_ofList, hEach]

/- Different replacements of an occurrence show. -/
theorem replaceChars_inj
    (hPat : pat ≠ [])
    {new other : List Char}
    (hInfix : pat <:+: cs)
    (hSame : replaceChars pat new 0 cs =
      replaceChars pat other 0 cs) :
    new = other := by
  rcases exists_pieces hPat cs with ⟨pieces, hPieces, hEach⟩
  rw [hEach, hEach] at hSame
  rcases pieces with _ | ⟨piece, _ | ⟨next, pieces⟩⟩
  · exact absurd rfl hPieces.some
  · -- Then the text is one piece, without an occurrence.
    have hWhole : piece = cs := by
      rw [← hPieces.joined, List.intercalate_singleton]
    exact absurd (hWhole ▸ hInfix)
      (hPieces.apart piece List.mem_cons_self)
  · have hLength : new.length = other.length := by
      rcases length_intercalate hPieces.some with
        ⟨kept, hKept⟩
      have hBoth := congrArg List.length hSame
      rw [hKept, hKept] at hBoth
      exact Nat.eq_of_mul_eq_mul_left
        (Nat.succ_pos pieces.length)
        (Nat.add_left_cancel hBoth)
    rw [List.intercalate_cons_cons,
      List.intercalate_cons_cons, List.append_assoc,
      List.append_assoc] at hSame
    exact List.append_inj_left
      (List.append_cancel_left hSame) hLength

end Text

end DeviceHub
